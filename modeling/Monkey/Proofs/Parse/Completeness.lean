import Monkey.Proofs.Parse.Progress
import Monkey.Proofs.Parse.Soundness

/-! # Whatever has a derivation is read

A reader before the symbols of a derivation reads the tree of the derivation, or fails because it
nests deeper than the limit. What it takes to be read is said of each `Phrase` by `IsRead`, with
any symbols behind the phrase that do not carry it on; an expression may be carried on by
operators that are looser than its level, so it is read up to the operators behind it. There is
one lemma for each constructor of `Derivation`, and `isRead` goes by induction on derivations. -/

namespace Monkey

namespace Parse

open ParseM

/-- A phrase is read from its symbols, wherever they stand: a reader that has tokens enough gets
through them if their nesting is `Within` the limit, and otherwise it nests too deep. -/
def IsRead (limit : Option Nat) (recorded : List ParseError) :
    Phrase → List Symbol → (spine nesting : Nat) → Prop
  | .expression level tree, symbols, spine, nesting =>
    ∀ (bound depth : Nat) {floor : Precedence} {cursor : Cursor} {rest : List Symbol},
      cursor.symbols = symbols ++ rest → cursor.size ≤ bound + 1 →
      floor.rank ≤ level.floor.rank → nextKind rest ≠ .elseKw →
      (nextKind rest).tightness ≤ level.rank →
      ∃ last loop, last.advance.symbols = rest ∧ rest.length ≤ loop ∧
        Leads ((Context.plain limit recorded).expression (bound + 1) depth floor cursor)
          (Within limit (depth + nesting))
          ((Context.plain limit recorded).operators ((Context.plain limit recorded).expression bound)
            floor loop (depth + spine) tree last)
  | .arguments trees, symbols, _, nesting =>
    ∀ (bound loop depth : Nat) {cursor : Cursor} {right : String} {rest : List Symbol},
      cursor.advance.symbols = symbols ++ ⟨.rparen, right⟩ :: rest →
      cursor.advance.size ≤ bound → cursor.advance.size ≤ loop →
      ∃ last, last.advance.symbols = rest ∧ (Within limit depth →
        Leads (arguments ((Context.plain limit recorded).expression bound depth) loop cursor)
          (Within limit (depth + nesting)) (.ok trees last))
  | .statement tree, symbols, _, nesting =>
    ∀ (bound depth : Nat) {cursor : Cursor} {behind after : List Symbol},
      cursor.symbols = symbols ++ behind → cursor.size ≤ bound →
      Closed tree behind after → nextKind behind ≠ .elseKw →
      ∃ last, last.advance.symbols = after ∧ (Within limit depth →
        Leads (statement ((Context.plain limit recorded).expression bound depth) cursor)
          (Within limit (depth + nesting)) (.ok tree last))
  | .statements trees, symbols, _, nesting =>
    ∀ (bound loop depth : Nat) {cursor : Cursor} {right : String} {rest : List Symbol},
      cursor.symbols = symbols ++ ⟨.rbrace, right⟩ :: rest →
      cursor.size ≤ bound → cursor.size ≤ loop →
      ∃ last, last.advance.symbols = rest ∧ (Within limit depth →
        Leads (statements ((Context.plain limit recorded).expression bound depth) loop cursor)
          (Within limit (depth + nesting)) (.ok trees last))
  | .block trees, symbols, _, nesting =>
    ∀ (bound loop depth : Nat) {cursor : Cursor} {rest : List Symbol},
      cursor.advance.symbols = symbols ++ rest →
      cursor.advance.size ≤ bound → cursor.advance.size ≤ loop →
      ∃ last, last.advance.symbols = rest ∧ (Within limit depth →
        Leads (block ((Context.plain limit recorded).expression bound depth) loop cursor)
          (Within limit (depth + nesting)) (.ok trees last))

/-- A cursor before some symbols has that many tokens left, so a bound can be compared with their
number. -/
theorem size_eq {cursor : Cursor} {symbols : List Symbol} (eq : cursor.symbols = symbols) :
    cursor.size = symbols.length := by
  rw [← Cursor.length_symbols, eq]

/-- The token after the current one is of the kind of the first symbol behind it; `peek` sees it
there. -/
theorem peek_kind_eq {cursor : Cursor} {symbol : Symbol} {rest : List Symbol}
    (eq : cursor.advance.symbols = symbol :: rest) : cursor.peek.kind = symbol.kind := by
  rw [Cursor.peek_kind, eq]
  rfl

/-- The current token is of the kind of the first symbol that the cursor stands before. -/
theorem current_kind_eq {cursor : Cursor} {symbol : Symbol} {rest : List Symbol}
    (eq : cursor.symbols = symbol :: rest) : cursor.current.kind = symbol.kind := by
  rw [Cursor.current_kind, eq]
  rfl

/-- The current token is written as the first symbol that the cursor stands before. -/
theorem current_literal_eq {cursor : Cursor} {symbol : Symbol} {rest : List Symbol}
    (eq : cursor.symbols = symbol :: rest) : cursor.current.literal = symbol.literal :=
  congrArg Symbol.literal (Cursor.current_symbol eq)

/-- Where an expression comes next, the token after the current one is of a kind that
`startsOperand`. -/
theorem peek_starts {cursor : Cursor} {symbols rest : List Symbol}
    (starts : (nextKind symbols).startsOperand = true)
    (eq : cursor.advance.symbols = symbols ++ rest) :
    cursor.peek.kind.startsOperand = true := by
  rwa [Cursor.peek_kind, eq, nextKind_append (Derivation.ne_nil_of_startsOperand starts)]

/-- Where an expression stands, the current token is of a kind that `startsOperand`. -/
theorem current_starts {cursor : Cursor} {symbols rest : List Symbol}
    (starts : (nextKind symbols).startsOperand = true) (eq : cursor.symbols = symbols ++ rest) :
    cursor.current.kind.startsOperand = true := by
  rwa [Cursor.current_kind, eq, nextKind_append (Derivation.ne_nil_of_startsOperand starts)]

namespace Closed

variable {tree : Stmt} {behind after : List Symbol}

/-- No operator carries on a statement that stands `Closed`, so the next token has no tightness. -/
theorem tightness_eq (closed : Closed tree behind after) : (nextKind behind).tightness = 0 := by
  obtain ⟨semicolon, rfl⟩ | ⟨rfl, -, loose, -⟩ := closed
  · rfl
  · exact TokenKind.tightness_eq_zero_iff.2 loose

/-- The semicolon that closes a statement is passed with it, and what is left is what stands `after`
it. -/
theorem behindSemicolon {last : Cursor} (closed : Closed tree behind after)
    (left : last.advance.symbols = behind) :
    (ParseM.behindSemicolon last).advance.symbols = after := by
  rw [ParseM.behindSemicolon]
  obtain ⟨semicolon, rfl⟩ | ⟨rfl, unclosed, -, -⟩ := closed
  · rw [if_pos (peek_kind_eq left)]
    exact Cursor.advance_symbols left
  · rw [← left, ← Cursor.peek_kind] at unclosed
    rw [if_neg unclosed, left]

end Closed

/-! ## Parameters -/

/-- Names with commas before them are read by `moreParameters` as those after a first name, up to
the closing parenthesis. -/
theorem moreParameters_read {name right : String} {names : List String}
    {symbols rest : List Symbol} {bound : Nat} {cursor : Cursor}
    (list : NameList (name :: names) (⟨.ident, name⟩ :: symbols))
    (eq : cursor.advance.symbols = symbols ++ ⟨.rparen, right⟩ :: rest)
    (enough : symbols.length ≤ bound) :
    ∃ last, last.advance.symbols = rest ∧
      moreParameters (m := ParseM) bound cursor = .ok names last := by
  induction names generalizing name symbols bound cursor with
  | nil =>
    -- the last name, before the closing parenthesis
    cases list
    exact ⟨cursor.advance, Cursor.advance_symbols eq, moreParameters_done (peek_kind_eq eq)⟩
  | cons second names ih =>
    -- a comma and one more name
    obtain _ | _ | ⟨_, comma, list⟩ := list
    rename_i others
    obtain ⟨tail, rfl⟩ : ∃ tail, others = ⟨.ident, second⟩ :: tail := by
      cases list <;> exact ⟨_, rfl⟩
    have next := Cursor.advance_symbols eq
    cases bound with
    | zero => exact absurd enough (Nat.not_succ_le_zero _)
    | succ bound =>
      have fewer : tail.length ≤ bound := by
        simp only [List.length_cons] at enough
        omega
      obtain ⟨last, left, run⟩ := ih list (Cursor.advance_symbols next) fewer
      refine ⟨last, left, ?_⟩
      have literal : cursor.advance.peek.literal = second := current_literal_eq next
      rw [moreParameters_comma (peek_kind_eq eq) (peek_kind_eq next) run, literal]

/-- A `NameList` in parentheses is read by `parameters`, with the parentheses. -/
theorem parameters_read {names : List String} {left right : String} {symbols rest : List Symbol}
    {bound : Nat} {cursor : Cursor} (list : NameList names symbols)
    (eq : cursor.advance.symbols = ⟨.lparen, left⟩ :: (symbols ++ ⟨.rparen, right⟩ :: rest))
    (enough : symbols.length ≤ bound) :
    ∃ last, last.advance.symbols = rest ∧
      parameters (m := ParseM) bound cursor = .ok names last := by
  have inside := Cursor.advance_symbols eq
  cases names with
  | nil =>
    cases list
    exact ⟨_, Cursor.advance_symbols inside,
      parameters_none (peek_kind_eq eq) (peek_kind_eq inside)⟩
  | cons name names =>
    obtain ⟨tail, rfl⟩ : ∃ tail, symbols = ⟨.ident, name⟩ :: tail := by
      cases list <;> exact ⟨_, rfl⟩
    have fewer : tail.length ≤ bound := Nat.le_of_succ_le enough
    obtain ⟨last, behind, run⟩ :=
      moreParameters_read list (Cursor.advance_symbols inside) fewer
    have literal : cursor.advance.peek.literal = name := current_literal_eq inside
    refine ⟨last, behind, ?_⟩
    rw [parameters_some (peek_kind_eq eq) (peek_kind_eq inside) run, literal]

namespace IsRead

variable {limit : Option Nat} {recorded : List ParseError} {level : Level} {tree : Expr}
  {symbols : List Symbol} {spine nesting : Nat}

/-! ## Expressions -/

/-- An expression that nothing behind it carries on is read as a whole: no operator of its level or
a tighter one stands behind it. -/
theorem whole (read : IsRead limit recorded (.expression level tree) symbols spine nesting)
    (starts : (nextKind symbols).startsOperand = true) (bound depth : Nat) {floor : Precedence}
    {cursor : Cursor} {rest : List Symbol} (eq : cursor.symbols = symbols ++ rest)
    (enough : cursor.size ≤ bound) (floor_le : floor.rank ≤ level.floor.rank)
    (other : nextKind rest ≠ .elseKw) (loose : (nextKind rest).tightness ≤ floor.rank) :
    ∃ last, last.advance.symbols = rest ∧
      Leads ((Context.plain limit recorded).expression bound depth floor cursor)
        (Within limit (depth + nesting)) (.ok tree last) := by
  -- The expression has a symbol at least, which pays for the first round.
  have some_symbol := List.length_pos_iff.2 (Derivation.ne_nil_of_startsOperand starts)
  have length := size_eq eq
  rw [List.length_append] at length
  obtain ⟨bound, rfl⟩ : ∃ fewer, bound = fewer + 1 := ⟨bound - 1, by omega⟩
  obtain ⟨last, loop, behind, -, leads⟩ := read bound depth eq enough floor_le other
    (Nat.le_trans loose (Nat.le_trans floor_le level.floor_rank_le))
  refine ⟨last, behind, ?_⟩
  rwa [Context.operators_stop (by rwa [Cursor.peek_kind, behind])] at leads

/-- An expression without an operator of its own is read when its `operand` is; operators behind it
are read by the loop that follows. -/
theorem of_operand
    (operand : ∀ (bound depth : Nat) {cursor : Cursor} {rest : List Symbol},
      cursor.symbols = symbols ++ rest → cursor.size ≤ bound + 1 → nextKind rest ≠ .elseKw →
      (nextKind rest).tightness ≤ level.rank →
      ∃ last, last.advance.symbols = rest ∧ (Within limit (depth + 1) →
        Leads ((Context.plain limit recorded).operand
          ((Context.plain limit recorded).expression bound (depth + 1)) (bound + 1) cursor)
          (Within limit (depth + 1 + nesting)) (.ok tree last))) :
    IsRead limit recorded (.expression level tree) symbols 1 (nesting + 1) := by
  intro bound depth floor cursor rest eq enough floor_le other loose
  obtain ⟨last, behind, leads⟩ := operand bound depth eq enough other loose
  refine ⟨last, bound + 1, behind, ?_, ?_⟩
  · have length := size_eq eq
    rw [List.length_append] at length
    omega
  · refine (Context.expressionStep_leads leads).congr ?_
    constructor
    · intro both
      exact Within.deeper_iff.2 both.2
    · intro within
      exact ⟨within.mono (by omega), Within.deeper_iff.1 within⟩

/-- An expression is read up to a token that neither carries it on nor is an `else`, such as a
closing parenthesis or a comma. -/
theorem enclosed (read : IsRead limit recorded (.expression level tree) symbols spine nesting)
    (starts : (nextKind symbols).startsOperand = true) (bound depth : Nat) {kind : TokenKind}
    {text : String} {cursor : Cursor} {rest : List Symbol}
    (eq : cursor.symbols = symbols ++ ⟨kind, text⟩ :: rest) (enough : cursor.size ≤ bound)
    (other : kind ≠ .elseKw) (loose : kind.tightness = 0) :
    ∃ last, last.peek.kind = kind ∧ last.advance.advance.symbols = rest ∧
      Leads ((Context.plain limit recorded).expression bound depth .lowest cursor)
        (Within limit (depth + nesting)) (.ok tree last) := by
  have lowest : Precedence.lowest.rank ≤ level.floor.rank := Nat.zero_le _
  obtain ⟨last, behind, leads⟩ :=
    read.whole starts bound depth eq enough lowest other (Nat.le_of_eq loose)
  exact ⟨last, peek_kind_eq behind, Cursor.advance_symbols behind, leads⟩

/-- A token that is an operand by itself is read: a name, a truth value or an integer in range. -/
theorem of_token {symbol : Symbol}
    (operand : ∀ {inner : ExprReader} {bound : Nat} {cursor : Cursor},
      cursor.current.kind = symbol.kind → cursor.current.literal = symbol.literal →
      (Context.plain limit recorded).operand inner bound cursor = .ok tree cursor) :
    IsRead limit recorded (.expression .call tree) [symbol] 1 1 := by
  refine of_operand fun _ _ _ _ eq _ _ _ => ⟨_, Cursor.advance_symbols eq, fun within => ?_⟩
  exact (Leads.of_eq (operand (current_kind_eq eq) (current_literal_eq eq))).congr
    (iff_of_true trivial within)

/-- An expression is read in parentheses as it is without them, one level deeper. -/
theorem group {left right : String}
    (inner : IsRead limit recorded (.expression .equality tree) symbols spine nesting)
    (starts : (nextKind symbols).startsOperand = true) :
    IsRead limit recorded (.expression .call tree)
      (⟨.lparen, left⟩ :: (symbols ++ [⟨.rparen, right⟩])) 1 (nesting + 1) := by
  refine of_operand fun bound depth cursor rest eq enough _ _ => ?_
  rw [List.cons_append, List.append_assoc] at eq
  have small : cursor.advance.size ≤ bound := by
    rw [Cursor.size_advance]
    omega
  obtain ⟨place, closes, behind, leads⟩ := inner.enclosed starts bound (depth + 1)
    (Cursor.advance_symbols eq) small (by decide) (by decide)
  refine ⟨place.advance, behind, fun _ => ?_⟩
  rw [Context.operand_apply, current_kind_eq eq]
  exact group_leads leads closes

/-- A unary operation is read when its operand is, of the level of unary operations and one level
deeper. -/
theorem unary {op : UnaryOp} {sign : String}
    (operand : IsRead limit recorded (.expression .unary tree) symbols spine nesting)
    (starts : (nextKind symbols).startsOperand = true) :
    IsRead limit recorded (.expression .unary (.unary op tree)) (⟨op.kind, sign⟩ :: symbols)
      1 (nesting + 1) := by
  refine of_operand fun bound depth cursor rest eq enough other loose => ?_
  have small : cursor.advance.size ≤ bound := by
    rw [Cursor.size_advance]
    omega
  obtain ⟨place, behind, leads⟩ := operand.whole starts bound (depth + 1)
    (Cursor.advance_symbols eq) small (Nat.le_refl Precedence.unary.rank) other loose
  refine ⟨place, behind, fun _ => ?_⟩
  rw [Context.operand_apply, current_kind_eq eq]
  cases op <;> exact unary_leads leads

/-- A conditional without `else` is read when its condition and its block are; no `else` may follow
it. -/
theorem condThen {word left right : String} {consequence : Block} {body : List Symbol}
    {bodySpine bodyNesting : Nat}
    (test : IsRead limit recorded (.expression .equality tree) symbols spine nesting)
    (starts : (nextKind symbols).startsOperand = true)
    (block : IsRead limit recorded (.block consequence) body bodySpine bodyNesting) :
    IsRead limit recorded (.expression .call (.cond tree consequence none))
      (⟨.ifKw, word⟩ :: ⟨.lparen, left⟩ :: (symbols ++ ⟨.rparen, right⟩ :: body))
      1 (max nesting bodyNesting + 1) := by
  refine of_operand fun bound depth cursor rest eq enough other _ => ?_
  simp only [List.cons_append, List.append_assoc] at eq
  have length := size_eq eq
  simp only [List.length_cons, List.length_append] at length
  have opens := Cursor.advance_symbols eq
  have inside := Cursor.advance_symbols opens
  -- the condition, up to its closing parenthesis
  have small : cursor.advance.advance.size ≤ bound := by
    simp only [Cursor.size_advance]
    omega
  obtain ⟨place, closes, behind, first⟩ :=
    test.enclosed starts bound (depth + 1) inside small (by decide) (by decide)
  -- the block, up to what follows the conditional
  have fewer : place.advance.advance.size ≤ bound := by
    rw [size_eq behind, List.length_append]
    omega
  obtain ⟨last, left, second⟩ :=
    block bound (bound + 1) (depth + 1) behind fewer (Nat.le_succ_of_le fewer)
  refine ⟨last, left, fun within => ?_⟩
  rw [Context.operand_apply, current_kind_eq eq, Within.add_max_iff]
  exact conditional_then (peek_kind_eq opens) first closes (fun _ => second within)
    (by rwa [Cursor.peek_kind, left])

/-- A conditional with `else` is read when its condition and both its blocks are. -/
theorem condElse {word left right otherWord : String} {consequence alternative : Block}
    {body otherBody : List Symbol} {bodySpine bodyNesting otherSpine otherNesting : Nat}
    (test : IsRead limit recorded (.expression .equality tree) symbols spine nesting)
    (starts : (nextKind symbols).startsOperand = true)
    (block : IsRead limit recorded (.block consequence) body bodySpine bodyNesting)
    (otherBlock : IsRead limit recorded (.block alternative) otherBody otherSpine otherNesting) :
    IsRead limit recorded (.expression .call (.cond tree consequence (some alternative)))
      (⟨.ifKw, word⟩ :: ⟨.lparen, left⟩ ::
        (symbols ++ ⟨.rparen, right⟩ :: (body ++ ⟨.elseKw, otherWord⟩ :: otherBody)))
      1 (max (max nesting bodyNesting) otherNesting + 1) := by
  refine of_operand fun bound depth cursor rest eq enough other _ => ?_
  simp only [List.cons_append, List.append_assoc] at eq
  have length := size_eq eq
  simp only [List.length_cons, List.length_append] at length
  have opens := Cursor.advance_symbols eq
  have inside := Cursor.advance_symbols opens
  -- the condition, up to its closing parenthesis
  have small : cursor.advance.advance.size ≤ bound := by
    simp only [Cursor.size_advance]
    omega
  obtain ⟨place, closes, behind, first⟩ :=
    test.enclosed starts bound (depth + 1) inside small (by decide) (by decide)
  -- the first block, up to `else`
  have fewer : place.advance.advance.size ≤ bound := by
    rw [size_eq behind, List.length_append, List.length_cons, List.length_append]
    omega
  obtain ⟨middle, left, second⟩ :=
    block bound (bound + 1) (depth + 1) behind fewer (Nat.le_succ_of_le fewer)
  -- the second block
  have more := Cursor.advance_symbols left
  have least : middle.advance.advance.size ≤ bound := by
    rw [size_eq more, List.length_append]
    omega
  obtain ⟨last, leftOver, third⟩ :=
    otherBlock bound (bound + 1) (depth + 1) more least (Nat.le_succ_of_le least)
  refine ⟨last, leftOver, fun within => ?_⟩
  rw [Context.operand_apply, current_kind_eq eq, Within.add_max_iff, Within.add_max_iff, and_assoc]
  exact conditional_else (peek_kind_eq opens) first closes (fun _ => second within)
    (peek_kind_eq left) (fun _ _ => third within)

/-- A function is read when its body is, behind a `NameList` of parameters. -/
theorem function {word left right : String} {names : List String} {body : Block}
    {list block : List Symbol} {bodySpine bodyNesting : Nat} (named : NameList names list)
    (read : IsRead limit recorded (.block body) block bodySpine bodyNesting) :
    IsRead limit recorded (.expression .call (.fn names body))
      (⟨.fnKw, word⟩ :: ⟨.lparen, left⟩ :: (list ++ ⟨.rparen, right⟩ :: block))
      1 (bodyNesting + 1) := by
  refine of_operand fun bound depth cursor rest eq enough _ _ => ?_
  simp only [List.cons_append, List.append_assoc] at eq
  have length := size_eq eq
  simp only [List.length_cons, List.length_append] at length
  have few : list.length ≤ bound + 1 := by omega
  obtain ⟨place, braces, first⟩ := parameters_read named (Cursor.advance_symbols eq) few
  have fewer : place.advance.size ≤ bound := by
    rw [size_eq braces, List.length_append]
    omega
  obtain ⟨last, left, second⟩ :=
    read bound (bound + 1) (depth + 1) braces fewer (Nat.le_succ_of_le fewer)
  refine ⟨last, left, fun within => ?_⟩
  rw [Context.operand_apply, current_kind_eq eq]
  exact function_leads first (second within)

/-- A binary operation is read when its operands are: the left one up to the operator, and the right
one as far as it goes above the operator. This is where the levels decide how operations group. -/
theorem binary {op : BinaryOp} {sign : String} {right : Expr} {others : List Symbol}
    {rightSpine rightNesting : Nat}
    (first : IsRead limit recorded (.expression op.level tree) symbols spine nesting)
    (second : IsRead limit recorded (.expression op.level.tighter right) others rightSpine
      rightNesting)
    (starts : (nextKind others).startsOperand = true) :
    IsRead limit recorded (.expression op.level (.binary op tree right))
      (symbols ++ ⟨op.kind, sign⟩ :: others) (spine + 1)
      (max nesting (spine + 1 + rightNesting)) := by
  intro bound depth floor cursor rest eq enough floor_le other loose
  rw [List.append_assoc, List.cons_append] at eq
  have length := size_eq eq
  simp only [List.length_cons, List.length_append] at length
  have joins : op.kind.tightness ≤ op.level.rank :=
    Nat.le_of_eq ((TokenKind.tightness_kind op).trans op.rank_level.symm)
  -- The left operand is read up to the operator, which it is loose enough to be followed by.
  obtain ⟨place, loop, behind, room, leads⟩ :=
    first bound depth eq enough floor_le (by cases op <;> nofun) joins
  have inside := Cursor.advance_symbols behind
  have fewer : place.advance.advance.size ≤ bound := by
    rw [size_eq inside, List.length_append]
    omega
  -- The right operand is read as a whole, because what follows binds no tighter than the operator.
  rw [op.rank_level] at loose
  obtain ⟨last, left, operand⟩ := second.whole starts bound (depth + spine + 1) inside fewer
    op.precedence_le_floor other loose
  -- The loop has a round left for the operator, since its token is still there.
  rw [List.length_cons, List.length_append] at room
  obtain ⟨loop, rfl⟩ : ∃ fewer, loop = fewer + 1 := ⟨loop - 1, by omega⟩
  refine ⟨last, loop, left, by omega, ?_⟩
  have sign : place.peek.kind = op.kind := peek_kind_eq behind
  have stands : Operator.ofKind? place.peek.kind = some (.binary op) := by
    rw [sign]
    exact op.ofKind?_kind
  have exceeds : floor.rank < place.peek.kind.tightness := by
    rw [sign]
    exact Nat.lt_of_le_of_lt floor_le op.floor_level_lt
  rw [BinaryOp.precedence, ← sign] at operand
  refine (leads.trans fun _ => Context.operators_step stands exceeds fun _ =>
    Context.operation_binary operand).congr ?_
  rw [Within.add_max_iff, Within.below_iff]

/-- A call is read when its callee and its arguments are; the callee is read up to the parenthesis.
-/
theorem call {left right : String} {trees : List Expr} {others : List Symbol}
    {argumentSpine argumentNesting : Nat}
    (callee : IsRead limit recorded (.expression .call tree) symbols spine nesting)
    (arguments : IsRead limit recorded (.arguments trees) others argumentSpine argumentNesting) :
    IsRead limit recorded (.expression .call (.call tree trees))
      (symbols ++ ⟨.lparen, left⟩ :: (others ++ [⟨.rparen, right⟩])) (spine + 1)
      (max nesting (spine + 1 + argumentNesting)) := by
  intro bound depth floor cursor rest eq enough floor_le other loose
  simp only [List.append_assoc, List.cons_append, List.nil_append] at eq
  have length := size_eq eq
  simp only [List.length_cons, List.length_append] at length
  -- Any expression of the tightest level is read up to the parenthesis, whatever follows.
  obtain ⟨place, loop, behind, room, leads⟩ :=
    callee bound depth eq enough floor_le (by nofun) (TokenKind.tightness_le_call _)
  rw [List.length_cons, List.length_append, List.length_cons] at room
  obtain ⟨loop, rfl⟩ : ∃ fewer, loop = fewer + 1 := ⟨loop - 1, by omega⟩
  have inside := Cursor.advance_symbols behind
  have inner := size_eq inside
  rw [List.length_append, List.length_cons] at inner
  obtain ⟨last, left, taken⟩ := arguments bound loop (depth + spine + 1) inside
    (by omega) (by omega)
  refine ⟨last, loop, left, by omega, ?_⟩
  have opens : place.peek.kind = .lparen := peek_kind_eq behind
  have stands : Operator.ofKind? place.peek.kind = some .call := by
    rw [opens]
    rfl
  have exceeds : floor.rank < place.peek.kind.tightness := by
    rw [opens]
    exact Nat.lt_of_le_of_lt floor_le (by decide)
  refine (leads.trans fun _ => Context.operators_step stands exceeds fun within =>
    Context.operation_call (taken within)).congr ?_
  rw [Within.add_max_iff, Within.below_iff]

/-- An expression of a `tighter` level is read as one of the level itself: operators of that level
may follow it. -/
theorem tighter
    (read : IsRead limit recorded (.expression level.tighter tree) symbols spine nesting) :
    IsRead limit recorded (.expression level tree) symbols spine nesting := by
  intro bound depth floor cursor rest eq enough floor_le other loose
  exact read bound depth eq enough (Nat.le_trans floor_le level.floor_le_tighter) other
    (Nat.le_trans loose level.rank_le_tighter)

/-! ## Arguments -/

/-- Where there is no argument none is read, and the closing parenthesis comes next. -/
theorem noArgument : IsRead limit recorded (.arguments []) [] 1 0 := by
  intro bound loop depth cursor right rest eq _ _
  refine ⟨cursor.advance, Cursor.advance_symbols eq, fun within => ?_⟩
  exact (Leads.of_eq (arguments_none (peek_kind_eq eq))).congr (iff_of_true trivial within)

/-- The last argument is read when its expression is, up to the closing parenthesis. -/
theorem lastArgument
    (read : IsRead limit recorded (.expression .equality tree) symbols spine nesting)
    (starts : (nextKind symbols).startsOperand = true) :
    IsRead limit recorded (.arguments [tree]) symbols 1 nesting := by
  intro bound loop depth cursor right rest eq enough _
  obtain ⟨place, closes, behind, leads⟩ :=
    read.enclosed starts bound depth eq enough (by decide) (by decide)
  refine ⟨place.advance, behind, fun within => ?_⟩
  have not_closed : cursor.peek.kind ≠ .rparen :=
    TokenKind.ne_of_startsOperand (peek_starts starts eq) rfl
  exact (arguments_leads not_closed leads fun _ =>
    Leads.of_eq (moreArguments_done closes)).congr (and_iff_left trivial)

/-- Arguments are read one after the other, by `moreArguments` behind the first. -/
theorem moreArguments {comma : String} {second : Expr} {trees : List Expr} {others : List Symbol}
    {otherSpine otherNesting : Nat}
    (read : IsRead limit recorded (.expression .equality tree) symbols spine nesting)
    (starts : (nextKind symbols).startsOperand = true)
    (more : IsRead limit recorded (.arguments (second :: trees)) others otherSpine otherNesting)
    (moreStart : (nextKind others).startsOperand = true) :
    IsRead limit recorded (.arguments (tree :: second :: trees)) (symbols ++ ⟨.comma, comma⟩ :: others)
      1 (max nesting otherNesting) := by
  intro bound loop depth cursor right rest eq enough room
  rw [List.append_assoc, List.cons_append] at eq
  have length := size_eq eq
  simp only [List.length_append, List.length_cons] at length
  obtain ⟨place, comes, behind, leads⟩ :=
    read.enclosed starts bound depth eq enough (by decide) (by decide)
  -- The comma pays for a round of the loop.
  have inner := size_eq behind
  rw [List.length_append, List.length_cons] at inner
  obtain ⟨loop, rfl⟩ : ∃ fewer, loop = fewer + 1 := ⟨loop - 1, by omega⟩
  obtain ⟨last, left, taken⟩ := more bound loop depth behind (by omega) (by omega)
  refine ⟨last, left, fun within => ?_⟩
  have not_closed : cursor.peek.kind ≠ .rparen :=
    TokenKind.ne_of_startsOperand (peek_starts starts eq) rfl
  have goes_on : place.advance.peek.kind ≠ .rparen :=
    TokenKind.ne_of_startsOperand (peek_starts moreStart behind) rfl
  rw [Within.add_max_iff]
  refine arguments_leads not_closed leads fun _ => ?_
  rw [moreArguments_comma comes goes_on]
  exact taken within

/-! ## Statements -/

/-- A statement's last expression is read up to what closes the statement, in the sense of `Closed`.
-/
theorem closing (read : IsRead limit recorded (.expression .equality tree) symbols spine nesting)
    (starts : (nextKind symbols).startsOperand = true) (bound depth : Nat) {statement : Stmt}
    {cursor : Cursor} {behind after : List Symbol} (eq : cursor.symbols = symbols ++ behind)
    (enough : cursor.size ≤ bound) (closed : Closed statement behind after)
    (other : nextKind behind ≠ .elseKw) :
    ∃ last, (behindSemicolon last).advance.symbols = after ∧
      Leads ((Context.plain limit recorded).expression bound depth .lowest cursor)
        (Within limit (depth + nesting)) (.ok tree last) := by
  obtain ⟨last, left, leads⟩ := read.whole starts bound depth eq enough
    (Nat.le_refl Precedence.lowest.rank) other (Nat.le_of_eq closed.tightness_eq)
  exact ⟨last, closed.behindSemicolon left, leads⟩

/-- A binding is read when its value is, behind the keyword, the name and the sign. -/
theorem letStmt {word name sign : String}
    (read : IsRead limit recorded (.expression .equality tree) symbols spine nesting)
    (starts : (nextKind symbols).startsOperand = true) :
    IsRead limit recorded (.statement (.letStmt name tree))
      (⟨.letKw, word⟩ :: ⟨.ident, name⟩ :: ⟨.assign, sign⟩ :: symbols) 1 nesting := by
  intro bound depth cursor behind after eq enough closed other
  have named := Cursor.advance_symbols eq
  have assigned := Cursor.advance_symbols named
  have fewer : cursor.advance.advance.advance.size ≤ bound := by
    simp only [Cursor.size_advance]
    omega
  obtain ⟨last, left, leads⟩ :=
    read.closing starts bound depth (Cursor.advance_symbols assigned) fewer closed other
  refine ⟨_, left, fun _ => ?_⟩
  have literal : cursor.peek.literal = name := current_literal_eq named
  rw [← literal]
  exact statement_let (current_kind_eq eq) (peek_kind_eq named) (peek_kind_eq assigned) leads

/-- A return without a value is read where a semicolon, a closing brace or nothing follows. -/
theorem returnNone {word : String} :
    IsRead limit recorded (.statement (.returnStmt none)) [⟨.returnKw, word⟩] 1 0 := by
  intro bound depth cursor behind after eq _ closed _
  have next := Cursor.advance_symbols eq
  refine ⟨_, closed.behindSemicolon next, fun within => ?_⟩
  have stops : cursor.peek.kind = .semicolon ∨ cursor.peek.kind = .rbrace ∨
      cursor.peek.kind = .eof := by
    rw [Cursor.peek_kind, next]
    obtain ⟨_, rfl⟩ | ⟨rfl, -, -, ended⟩ := closed
    · exact .inl rfl
    · exact .inr (ended rfl)
  exact (Leads.of_eq (statement_returnNone (current_kind_eq eq) stops)).congr
    (iff_of_true trivial within)

/-- A return with a value is read when the value is, up to what closes the statement. -/
theorem returnSome {word : String}
    (read : IsRead limit recorded (.expression .equality tree) symbols spine nesting)
    (starts : (nextKind symbols).startsOperand = true) :
    IsRead limit recorded (.statement (.returnStmt (some tree))) (⟨.returnKw, word⟩ :: symbols)
      1 nesting := by
  intro bound depth cursor behind after eq enough closed other
  have next := Cursor.advance_symbols eq
  have fewer : cursor.advance.size ≤ bound := by
    rw [Cursor.size_advance]
    omega
  obtain ⟨last, left, leads⟩ := read.closing starts bound depth next fewer closed other
  exact ⟨_, left, fun _ =>
    statement_returnSome (current_kind_eq eq) (peek_starts starts next) leads⟩

/-- An expression that stands alone is read as a statement, for no expression starts with `let` or
`return`. -/
theorem exprStmt
    (read : IsRead limit recorded (.expression .equality tree) symbols spine nesting)
    (starts : (nextKind symbols).startsOperand = true) :
    IsRead limit recorded (.statement (.exprStmt tree)) symbols 1 nesting := by
  intro bound depth cursor behind after eq enough closed other
  obtain ⟨last, left, leads⟩ := read.closing starts bound depth eq enough closed other
  exact ⟨_, left, fun _ => statement_expr (current_starts starts eq) leads⟩

/-! ## Statements in turn -/

/-- Where there is no statement none is read, and the block or the program ends. -/
theorem noStatement : IsRead limit recorded (.statements []) [] 1 0 := by
  intro bound loop depth cursor right rest eq _ room
  have length := size_eq eq
  rw [List.nil_append, List.length_cons] at length
  obtain ⟨loop, rfl⟩ : ∃ fewer, loop = fewer + 1 := ⟨loop - 1, by omega⟩
  refine ⟨cursor, Cursor.advance_symbols eq, fun within => ?_⟩
  exact (Leads.of_eq (statements_done (current_kind_eq eq))).congr (iff_of_true trivial within)

/-- Statements are read one after the other; what is between two of them, the `gap`, closes the
first. -/
theorem cons {statement : Stmt} {trees : List Stmt} (gap : List Symbol) {others : List Symbol}
    {otherSpine otherNesting : Nat}
    (first : IsRead limit recorded (.statement statement) symbols spine nesting)
    (starts : (nextKind symbols).startsStatement = true)
    (more : IsRead limit recorded (.statements trees) others otherSpine otherNesting)
    (closed : ∀ behind, nextKind behind = .rbrace →
      Closed statement (gap ++ (others ++ behind)) (others ++ behind))
    (other : ∀ behind, nextKind behind = .rbrace → nextKind (gap ++ (others ++ behind)) ≠ .elseKw) :
    IsRead limit recorded (.statements (statement :: trees)) (symbols ++ (gap ++ others))
      1 (max nesting otherNesting) := by
  intro bound loop depth cursor right rest eq enough room
  rw [List.append_assoc, List.append_assoc] at eq
  have length := size_eq eq
  simp only [List.length_append] at length
  -- A statement has a symbol at least, so the others are left with fewer tokens.
  have some_symbol : 0 < symbols.length := by
    cases symbols with
    | nil => cases starts
    | cons symbol symbols => exact Nat.zero_lt_succ _
  obtain ⟨loop, rfl⟩ : ∃ fewer, loop = fewer + 1 := ⟨loop - 1, by omega⟩
  obtain ⟨place, behind, leads⟩ := first bound depth eq enough (closed _ rfl) (other _ rfl)
  have inner := size_eq behind
  rw [List.length_append] at inner
  obtain ⟨last, left, taken⟩ := more bound loop depth behind (by omega) (by omega)
  refine ⟨last, left, fun within => ?_⟩
  have goes_on : cursor.current.kind ≠ .rbrace ∧ cursor.current.kind ≠ .eof := by
    rw [Cursor.current_kind, eq, nextKind_append (List.length_pos_iff.1 some_symbol)]
    constructor <;> intro ends <;> rw [ends] at starts <;> cases starts
  rw [Within.add_max_iff]
  exact statements_leads goes_on (leads within) fun _ => taken within

/-- A block is read when the statements in it are, up to its closing brace. -/
theorem block {left right : String} {trees : List Stmt}
    (read : IsRead limit recorded (.statements trees) symbols spine nesting) :
    IsRead limit recorded (.block trees) (⟨.lbrace, left⟩ :: (symbols ++ [⟨.rbrace, right⟩])) 1
      nesting := by
  intro bound loop depth cursor rest eq enough room
  simp only [List.append_assoc, List.cons_append, List.nil_append] at eq
  have inside := Cursor.advance_symbols eq
  have fewer := cursor.advance.size_advance_le
  obtain ⟨last, behind, leads⟩ := read bound loop depth inside (by omega) (by omega)
  refine ⟨last, behind, fun within => ?_⟩
  rw [block_apply (peek_kind_eq eq)]
  exact leads within

end IsRead

/-- What stands between the statements of a block or a program, where a statement has no semicolon
of its own: nothing, if the next token does not carry it on. -/
theorem Closed.of_unclosed {tree : Stmt} {rest behind : List Symbol}
    (not_closed : nextKind rest ≠ .semicolon) (stops : (nextKind rest).carriesOn = false)
    (ended : tree = .returnStmt none → nextKind rest = .rbrace ∨ nextKind rest = .eof)
    (ends : nextKind behind = .rbrace ∨ nextKind behind = .eof) :
    Closed tree (rest ++ behind) (rest ++ behind) := by
  cases rest with
  | nil =>
    rw [List.nil_append]
    refine .inr ⟨rfl, ?_, ?_, fun _ => ends⟩
    · rcases ends with ends | ends <;> rw [ends] <;> decide
    · rcases ends with ends | ends <;> rw [ends] <;> decide
  | cons symbol rest => exact .inr ⟨rfl, not_closed, stops, ended⟩

/-- No `else` stands before statements or behind the last of them, so conditionals end where they
seem to. -/
theorem nextKind_ne_else {trees : List Stmt} {symbols : List Symbol}
    (derivation : Derivation (.statements trees) symbols) (behind : List Symbol)
    (ends : nextKind behind = .rbrace ∨ nextKind behind = .eof) :
    nextKind (symbols ++ behind) ≠ .elseKw := by
  obtain rfl | starts := derivation.startsStatements
  · rw [List.nil_append]
    rcases ends with ends | ends <;> rw [ends] <;> decide
  · cases symbols with
    | nil => cases starts
    | cons symbol symbols =>
      intro other
      rw [List.cons_append, nextKind_cons] at other
      rw [nextKind_cons, other] at starts
      cases starts

/-- **Whatever has a derivation is read**, by induction on the `Derivation`. -/
theorem isRead (limit : Option Nat) (recorded : List ParseError) {phrase : Phrase}
    {symbols : List Symbol} (derivation : Derivation phrase symbols) :
    IsRead limit recorded phrase symbols derivation.spine derivation.nesting := by
  -- By induction on the derivation; each rule has its lemma above.
  induction derivation with
  | name name =>
    refine .of_token fun kind literal => ?_
    rw [Context.operand_apply, kind, literal]
    rfl
  | @integer value literal read =>
    refine .of_token fun {_ _ cursor} kind same => ?_
    have ok : integer (m := ParseM) cursor.current cursor =
        .ok (.int value cursor.current.literal) cursor :=
      integer_ok (by rwa [same])
    rw [same] at ok
    rw [Context.operand_apply, kind]
    exact ok
  | trueWord | falseWord =>
    refine .of_token fun kind _ => ?_
    rw [Context.operand_apply, kind]
    rfl
  | group left right inner read => exact .group read inner.startsOperand
  | condThen word left right test body testRead bodyRead =>
    exact .condThen testRead test.startsOperand bodyRead
  | condElse word left right other test body otherBody testRead bodyRead otherRead =>
    exact .condElse testRead test.startsOperand bodyRead otherRead
  | function word left right names body read => exact .function names read
  | call left right callee arguments calleeRead argumentsRead =>
    exact .call calleeRead argumentsRead
  | unary op sign operand read => exact .unary read operand.startsOperand
  | binary op sign first second firstRead secondRead =>
    exact .binary firstRead secondRead second.startsOperand
  | tighter inner read => exact .tighter read
  | noArgument => exact .noArgument
  | lastArgument argument read => exact .lastArgument read argument.startsOperand
  | moreArguments comma argument more read moreRead =>
    exact .moreArguments read argument.startsOperand moreRead more.startsArguments
  | letStmt word name sign value read => exact .letStmt read value.startsOperand
  | returnNone word => exact .returnNone
  | returnSome word value read => exact .returnSome read value.startsOperand
  | exprStmt value read => exact .exprStmt read value.startsOperand
  | noStatement => exact .noStatement
  | closed semicolon first rest read restRead =>
    exact .cons [⟨.semicolon, semicolon⟩] read first.startsStatement restRead
      (fun _ _ => .inl ⟨semicolon, rfl⟩) (fun _ _ => by nofun)
  | @unclosed tree trees symbols others first rest not_closed stops ended read restRead =>
    -- What comes next is the statement after it or, behind the last one, the closing brace.
    have closed (behind : List Symbol) (ends : nextKind behind = .rbrace) :
        Closed tree (others ++ behind) (others ++ behind) :=
      .of_unclosed not_closed stops ended (.inl ends)
    exact IsRead.cons [] read first.startsStatement restRead closed
      fun behind ends => nextKind_ne_else rest behind (.inl ends)
  | block left right inner read => exact .block read

end Parse

end Monkey
