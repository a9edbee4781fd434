import Monkey.Proofs.Parse.Success

/-! # Whatever is read has a derivation

A reader that succeeds has passed symbols that derive the tree it made (`Built`), and it went no
deeper than the limit allows. For expressions this is shown along the operators of an expression:
the finished left operand is `Pending` at a level, and no operator that follows binds tighter than
that level (`operators_sound`). There is one lemma for each reader, under the hypothesis `Sound`
for the expressions in it; `expression_sound` ties them together by induction on the bound. -/

namespace Monkey.Parse

open ParseM

/-- A phrase has a `Derivation` from the first of some symbols, up to the symbols `after` it; read
from a depth it keeps within the limit. -/
def Built (limit : Option Nat) (depth : Nat) (phrase : Phrase) (before after : List Symbol) : Prop :=
  ∃ (symbols : List Symbol) (derivation : Derivation phrase symbols),
    before = symbols ++ after ∧ Within limit (depth + derivation.nesting)

/-- An expression whose operators may go on: it is built at a level, and as many levels as its
`spine` has are taken. -/
def Pending (limit : Option Nat) (depth taken : Nat) (level : Level) (tree : Expr)
    (before after : List Symbol) : Prop :=
  ∃ (symbols : List Symbol) (derivation : Derivation (.expression level tree) symbols),
    before = symbols ++ after ∧ Within limit (depth + derivation.nesting) ∧
      depth + derivation.spine = taken

/-- A reader of expressions that reads, from a depth and with `size` tokens left, nothing but
expressions of the level asked for, and each of them as far as it goes. -/
def Sound (limit : Option Nat) (depth size : Nat) (reader : ExprReader) : Prop :=
  ∀ {floor : Precedence} {cursor last : Cursor} {tree : Expr}, cursor.size ≤ size →
    reader floor cursor = .ok tree last →
      Built limit depth (.expression floor.level tree) cursor.symbols last.advance.symbols ∧
        last.peek.kind.tightness ≤ floor.rank

/-- The token after the current one is the first symbol behind it, where the input has not ended. -/
theorem peek_symbols {cursor : Cursor} {kind : TokenKind} (found : cursor.peek.kind = kind)
    (inside : kind ≠ .eof) :
    cursor.advance.symbols = ⟨kind, cursor.peek.literal⟩ :: cursor.advance.advance.symbols := by
  subst found
  exact Cursor.symbols_eq_cons inside

/-- The current token is the first symbol of the cursor, where the input has not ended. -/
theorem current_symbols {cursor : Cursor} {kind : TokenKind} (found : cursor.current.kind = kind)
    (inside : kind ≠ .eof) :
    cursor.symbols = ⟨kind, cursor.current.literal⟩ :: cursor.advance.symbols := by
  subst found
  exact Cursor.symbols_eq_cons inside

/-- What is built leaves no more symbols than there were, so a bound that was enough is enough
behind it. -/
theorem Built.size_le {limit : Option Nat} {depth : Nat} {phrase : Phrase} {cursor last : Cursor}
    (built : Built limit depth phrase cursor.symbols last.symbols) : last.size ≤ cursor.size := by
  obtain ⟨symbols, _, eq, _⟩ := built
  rw [← Cursor.length_symbols, ← Cursor.length_symbols, eq, List.length_append]
  omega

variable {limit : Option Nat} {depth size bound : Nat} {inner : ExprReader} {cursor last : Cursor}

/-! ## Parameters and arguments -/

/-- The parameters after a name are names with commas before them, up to a closing parenthesis. -/
theorem moreParameters_sound (name : String) {names : List String}
    (run : moreParameters (m := ParseM) bound cursor = .ok names last) :
    ∃ symbols right, NameList (name :: names) (⟨.ident, name⟩ :: symbols) ∧
      cursor.advance.symbols = symbols ++ ⟨.rparen, right⟩ :: last.advance.symbols := by
  induction bound generalizing cursor name names with
  | zero =>
    obtain ⟨closes, rfl, rfl⟩ | ⟨_, _, _, _, none, _⟩ := moreParameters_eq_ok run
    · exact ⟨[], _, .last name, peek_symbols closes (by decide)⟩
    · cases none
  | succ bound ih =>
    obtain ⟨closes, rfl, rfl⟩ | ⟨comma, named, _, more, same, rfl, rest⟩ := moreParameters_eq_ok run
    · exact ⟨[], _, .last name, peek_symbols closes (by decide)⟩
    · cases same
      obtain ⟨symbols, right, list, eq⟩ := ih cursor.advance.peek.literal rest
      refine ⟨_, right, .more name cursor.peek.literal list, ?_⟩
      rw [peek_symbols comma (by decide), peek_symbols named (by decide), eq]
      rfl

/-- Parameters are a `NameList` between parentheses. -/
theorem parameters_sound {names : List String}
    (run : parameters (m := ParseM) bound cursor = .ok names last) :
    ∃ symbols left right, NameList names symbols ∧ cursor.advance.symbols =
      ⟨.lparen, left⟩ :: (symbols ++ ⟨.rparen, right⟩ :: last.advance.symbols) := by
  obtain ⟨opens, ⟨closes, rfl, rfl⟩ | ⟨named, more, rfl, rest⟩⟩ := parameters_eq_ok run
  · refine ⟨[], cursor.peek.literal, cursor.advance.peek.literal, .none, ?_⟩
    rw [peek_symbols opens (by decide), peek_symbols closes (by decide)]
    rfl
  · obtain ⟨symbols, right, list, eq⟩ := moreParameters_sound _ rest
    refine ⟨_, cursor.peek.literal, right, list, ?_⟩
    rw [peek_symbols opens (by decide), peek_symbols named (by decide), eq]
    rfl

/-- The arguments after an expression are expressions with commas before them, by induction on the
bound. -/
theorem moreArguments_sound (sound : Sound limit depth size inner) {tree : Expr}
    {trees : List Expr} {before : List Symbol} (small : cursor.advance.size ≤ size)
    (first : Built limit depth (.expression .equality tree) before cursor.advance.symbols)
    (run : moreArguments inner bound cursor = .ok trees last) :
    ∃ right, Built limit depth (.arguments (tree :: trees)) before
      (⟨.rparen, right⟩ :: last.advance.symbols) := by
  -- The last argument is pending; a comma makes it one before others.
  induction bound generalizing cursor tree trees before with
  | zero =>
    obtain ⟨closes, rfl, rfl⟩ | ⟨_, _, _, _, _, none, _⟩ := moreArguments_eq_ok run
    · obtain ⟨symbols, derivation, eq, within⟩ := first
      rw [peek_symbols closes (by decide)] at eq
      exact ⟨_, symbols, .lastArgument derivation, eq, within⟩
    · cases none
  | succ bound ih =>
    obtain ⟨closes, rfl, rfl⟩ | ⟨comma, _, second, more, place, same, rfl, next, rest⟩ :=
      moreArguments_eq_ok run
    · obtain ⟨symbols, derivation, eq, within⟩ := first
      rw [peek_symbols closes (by decide)] at eq
      exact ⟨_, symbols, .lastArgument derivation, eq, within⟩
    · cases same
      have tail := peek_symbols comma (by decide)
      have fewer : cursor.advance.advance.size ≤ size :=
        Nat.le_trans cursor.advance.size_advance_le small
      have built := (sound fewer next).1
      have left : place.advance.size ≤ size := Nat.le_trans built.size_le fewer
      obtain ⟨right, others, list, restEq, restWithin⟩ := ih left built rest
      obtain ⟨symbols, derivation, eq, within⟩ := first
      refine ⟨right, _, .moreArguments cursor.peek.literal derivation list, ?_, ?_⟩
      · rw [eq, tail, restEq]
        simp
      · exact Within.add_max_iff.2 ⟨within, restWithin⟩

/-- The `arguments` of a call are expressions before a closing parenthesis, or none. -/
theorem arguments_sound (sound : Sound limit depth size inner) (within : Within limit depth)
    {trees : List Expr} (small : cursor.advance.size ≤ size)
    (run : arguments inner bound cursor = .ok trees last) :
    ∃ right, Built limit depth (.arguments trees) cursor.advance.symbols
      (⟨.rparen, right⟩ :: last.advance.symbols) := by
  obtain ⟨closes, rfl, rfl⟩ | ⟨tree, more, place, rfl, first, rest⟩ := arguments_eq_ok run
  · exact ⟨_, [], .noArgument, peek_symbols closes (by decide), within⟩
  · have built := (sound small first).1
    have left : place.advance.size ≤ size := Nat.le_trans built.size_le small
    exact moreArguments_sound sound left built rest

/-! ## Statements and blocks -/

/-- What stands behind a statement before the symbols after it: a semicolon, or nothing at all where
the statement may stand unclosed. -/
def Closed (tree : Stmt) (behind after : List Symbol) : Prop :=
  (∃ semicolon, behind = ⟨.semicolon, semicolon⟩ :: after) ∨
    (behind = after ∧ nextKind after ≠ .semicolon ∧ (nextKind after).carriesOn = false ∧
      (tree = .returnStmt none → nextKind after = .rbrace ∨ nextKind after = .eof))

/-- Behind an expression that was read as far as it goes, its statement is closed: no operator
follows. -/
theorem closed_behindSemicolon {tree : Stmt} (valued : tree ≠ .returnStmt none)
    (loose : cursor.peek.kind.tightness ≤ Precedence.lowest.rank) :
    Closed tree cursor.advance.symbols (behindSemicolon cursor).advance.symbols := by
  unfold behindSemicolon
  split
  · next semicolon => exact .inl ⟨_, peek_symbols semicolon (by decide)⟩
  · next other =>
    rw [Cursor.peek_kind] at other loose
    exact .inr ⟨rfl, other, TokenKind.tightness_eq_zero_iff.1 (Nat.le_zero.1 loose),
      fun none => absurd none valued⟩

/-- A `statement` is read up to the semicolon that closes it, if there is one: one case for each
kind of statement. -/
theorem statement_sound (sound : Sound limit depth size inner) (within : Within limit depth)
    {tree : Stmt} (small : cursor.size ≤ size) (run : statement inner cursor = .ok tree last) :
    ∃ behind, Built limit depth (.statement tree) cursor.symbols behind ∧
      Closed tree behind last.advance.symbols := by
  obtain ⟨value, place, word, named, assigned, rfl, first, rfl⟩ | ⟨word, semicolon, rfl, rfl⟩ |
    ⟨word, stops, rfl, rfl⟩ | ⟨value, place, word, rfl, first, rfl⟩ |
    ⟨value, place, rfl, first, rfl⟩ := statement_eq_ok run
  · -- `let`
    have fewer : cursor.advance.advance.advance.size ≤ size := by
      simp only [Cursor.size_advance]
      omega
    obtain ⟨⟨symbols, derivation, eq, nests⟩, loose⟩ := sound fewer first
    refine ⟨_, ⟨_, .letStmt cursor.current.literal cursor.peek.literal
      cursor.advance.peek.literal derivation, ?_, nests⟩, closed_behindSemicolon nofun loose⟩
    rw [current_symbols word (by decide), peek_symbols named (by decide),
      peek_symbols assigned (by decide), eq]
    rfl
  · -- `return` before a semicolon
    exact ⟨_, ⟨_, .returnNone _, current_symbols word (by decide), within⟩,
      .inl ⟨_, peek_symbols semicolon (by decide)⟩⟩
  · -- `return` before a closing brace or the end
    refine ⟨_, ⟨_, .returnNone _, current_symbols word (by decide), within⟩,
      .inr ⟨rfl, ?_, ?_, fun _ => ?_⟩⟩ <;>
    rw [← Cursor.peek_kind]
    · rcases stops with stops | stops <;> rw [stops] <;> decide
    · rcases stops with stops | stops <;> rw [stops] <;> decide
    · exact stops
  · -- `return` with a value
    have fewer : cursor.advance.size ≤ size := by
      rw [Cursor.size_advance]
      omega
    obtain ⟨⟨symbols, derivation, eq, nests⟩, loose⟩ := sound fewer first
    refine ⟨_, ⟨_, .returnSome cursor.current.literal derivation, ?_, nests⟩,
      closed_behindSemicolon nofun loose⟩
    rw [current_symbols word (by decide), eq]
    rfl
  · -- an expression
    obtain ⟨⟨symbols, derivation, eq, nests⟩, loose⟩ := sound small first
    exact ⟨_, ⟨_, .exprStmt derivation, eq, nests⟩, closed_behindSemicolon nofun loose⟩

/-- A statement that is read goes before the statements that are built from the symbols after it,
with the semicolon between them or without one. -/
theorem Built.cons {tree : Stmt} {trees : List Stmt} {before behind middle after : List Symbol}
    (first : Built limit depth (.statement tree) before behind) (closed : Closed tree behind middle)
    (rest : Built limit depth (.statements trees) middle after) :
    Built limit depth (.statements (tree :: trees)) before after := by
  obtain ⟨symbols, derivation, rfl, within⟩ := first
  obtain ⟨others, list, rfl, restWithin⟩ := rest
  have both : Within limit (depth + max derivation.nesting list.nesting) :=
    Within.add_max_iff.2 ⟨within, restWithin⟩
  obtain ⟨semicolon, rfl⟩ | ⟨rfl, not_closed, stops, ended⟩ := closed
  · refine ⟨_, .closed semicolon derivation list, ?_, both⟩
    simp
  · -- Where no statement comes after it, the last statement stands before the end of the list.
    have next : others = [] ∨ nextKind others = nextKind (others ++ after) := by
      by_cases empty : others = []
      · exact .inl empty
      · exact .inr (nextKind_append empty after).symm
    refine ⟨_, .unclosed derivation list ?_ ?_ ?_, by simp, by rwa [Derivation.nesting]⟩
    · rcases next with rfl | next
      · decide
      · rwa [next]
    · rcases next with rfl | next
      · rfl
      · rwa [next]
    · intro none
      rcases next with rfl | next
      · exact .inr rfl
      · rw [next]
        exact ended none

/-- The `statements` of a block are read up to its closing brace, by induction on the bound. -/
theorem statements_sound (sound : Sound limit depth size inner) (within : Within limit depth)
    {trees : Block} (small : cursor.size ≤ size)
    (run : statements inner bound cursor = .ok trees last) :
    ∃ right, Built limit depth (.statements trees) cursor.symbols
      (⟨.rbrace, right⟩ :: last.advance.symbols) := by
  induction bound generalizing cursor trees with
  | zero =>
    obtain ⟨closes, rfl, rfl⟩ | ⟨_, _, _, _, none, _⟩ := statements_eq_ok run
    · exact ⟨_, [], .noStatement, current_symbols closes (by decide), within⟩
    · cases none
  | succ bound ih =>
    obtain ⟨closes, rfl, rfl⟩ | ⟨_, tree, more, place, same, rfl, first, rest⟩ :=
      statements_eq_ok run
    · exact ⟨_, [], .noStatement, current_symbols closes (by decide), within⟩
    · cases same
      obtain ⟨behind, built, closed⟩ := statement_sound sound within small first
      -- With the statement or without the semicolon, no token is left that was not there before.
      have left : place.advance.size ≤ size := by
        obtain ⟨symbols, _, eq, _⟩ := built
        have length := congrArg List.length eq
        rw [Cursor.length_symbols, List.length_append] at length
        rw [← Cursor.length_symbols]
        obtain ⟨_, rfl⟩ | ⟨rfl, _⟩ := closed
        · rw [List.length_cons] at length
          omega
        · omega
      obtain ⟨right, others⟩ := ih left rest
      exact ⟨right, built.cons closed others⟩

/-- A `block` is read from its opening brace to its closing brace, and nests as deep as the
statements in it. -/
theorem block_sound (sound : Sound limit depth size inner) (within : Within limit depth)
    {trees : Block} (small : cursor.advance.size ≤ size)
    (run : block inner bound cursor = .ok trees last) :
    Built limit depth (.block trees) cursor.advance.symbols last.advance.symbols := by
  obtain ⟨opens, rest⟩ := block_eq_ok run
  have fewer : cursor.advance.advance.size ≤ size :=
    Nat.le_trans cursor.advance.size_advance_le small
  obtain ⟨right, symbols, derivation, eq, nests⟩ := statements_sound sound within fewer rest
  refine ⟨_, .block cursor.peek.literal right derivation, ?_, nests⟩
  rw [peek_symbols opens (by decide), eq]
  simp

/-! ## Expressions -/

/-- An operand that is a token of its own is `Pending` as an expression that calls may follow. -/
theorem pending_of_token {tree : Expr} {token : Symbol} {before after : List Symbol}
    (within : Within limit (depth + 1)) (derivation : Derivation (.expression .call tree) [token])
    (flat : derivation.nesting = 1 ∧ derivation.spine = 1) (eq : before = token :: after) :
    Pending limit depth (depth + 1) .call tree before after :=
  ⟨[token], derivation, eq, by rwa [flat.1], by rw [flat.2]⟩

/-- A `conditional` is read from its keyword to the end of its last block, and calls may follow
it. -/
theorem conditional_sound (sound : Sound limit (depth + 1) size inner)
    (within : Within limit (depth + 1)) {tree : Expr} (small : cursor.advance.size ≤ size)
    (word : cursor.current.kind = .ifKw) (run : conditional inner bound cursor = .ok tree last) :
    Pending limit depth (depth + 1) .call tree cursor.symbols last.advance.symbols := by
  obtain ⟨condition, test, consequence, body, opens, first, closes, second, rest⟩ :=
    conditional_eq_ok run
  have fewer : cursor.advance.advance.size ≤ size :=
    Nat.le_trans cursor.advance.size_advance_le small
  have tested := (sound fewer first).1
  have left : test.advance.advance.size ≤ size :=
    Nat.le_trans test.advance.size_advance_le (Nat.le_trans tested.size_le fewer)
  have built := block_sound sound within left second
  have least : body.advance.advance.size ≤ size :=
    Nat.le_trans body.advance.size_advance_le (Nat.le_trans built.size_le left)
  obtain ⟨symbols, derivation, eq, nests⟩ := tested
  obtain ⟨others, consequent, otherEq, otherNests⟩ := built
  obtain ⟨-, rfl, rfl⟩ | ⟨alternative, other, third, rfl⟩ := rest
  · -- no `else` follows the block
    refine ⟨_, .condThen cursor.current.literal cursor.peek.literal test.peek.literal
      derivation consequent, ?_, ?_, rfl⟩
    · rw [current_symbols word (by decide), peek_symbols opens (by decide), eq,
        peek_symbols closes (by decide), otherEq]
      simp
    · exact Within.deeper_iff.2 (Within.add_max_iff.2 ⟨nests, otherNests⟩)
  · -- a second block stands behind `else`
    obtain ⟨lastly, alternate, lastEq, lastNests⟩ := block_sound sound within least third
    refine ⟨_, .condElse cursor.current.literal cursor.peek.literal test.peek.literal
      body.peek.literal derivation consequent alternate, ?_, ?_, rfl⟩
    · rw [current_symbols word (by decide), peek_symbols opens (by decide), eq,
        peek_symbols closes (by decide), otherEq, peek_symbols other (by decide), lastEq]
      simp
    · exact Within.deeper_iff.2 (Within.add_max_iff.2
        ⟨Within.add_max_iff.2 ⟨nests, otherNests⟩, lastNests⟩)

/-- A `function` is read from its keyword to the end of its body, and calls may follow it. -/
theorem function_sound (sound : Sound limit (depth + 1) size inner)
    (within : Within limit (depth + 1)) {tree : Expr} (small : cursor.advance.size ≤ size)
    (word : cursor.current.kind = .fnKw) (run : function inner bound cursor = .ok tree last) :
    Pending limit depth (depth + 1) .call tree cursor.symbols last.advance.symbols := by
  obtain ⟨names, place, body, first, second, rfl⟩ := function_eq_ok run
  obtain ⟨symbols, left, right, list, eq⟩ := parameters_sound first
  have fewer : place.advance.size ≤ size := by
    have length := congrArg List.length eq
    simp only [List.length_cons, List.length_append, Cursor.length_symbols] at length
    omega
  obtain ⟨others, derivation, otherEq, nests⟩ := block_sound sound within fewer second
  refine ⟨_, .function cursor.current.literal left right list derivation, ?_, ?_, rfl⟩
  · rw [current_symbols word (by decide), eq, otherEq]
    simp
  · exact Within.deeper_iff.2 nests

/-- An `operand` is an expression that calls may follow, or a unary operation, which has taken the
calls that follow. -/
theorem operand_sound {recorded : List ParseError} (sound : Sound limit (depth + 1) size inner)
    (within : Within limit (depth + 1)) {tree : Expr} (small : cursor.advance.size ≤ size)
    (run : (Context.plain limit recorded).operand inner bound cursor = .ok tree last) :
    ∃ level, Pending limit depth (depth + 1) level tree cursor.symbols last.advance.symbols ∧
      5 ≤ level.rank ∧ last.peek.kind.tightness ≤ level.rank := by
  -- All operands but unary operations are of the tightest level, where no token binds tighter.
  have tightest (pending : Pending limit depth (depth + 1) .call tree cursor.symbols
      last.advance.symbols) :
      ∃ level, Pending limit depth (depth + 1) level tree cursor.symbols last.advance.symbols ∧
        5 ≤ level.rank ∧ last.peek.kind.tightness ≤ level.rank :=
    ⟨.call, pending, by decide, TokenKind.tightness_le_call _⟩
  obtain ⟨word, rfl, rfl⟩ | ⟨word, run⟩ | ⟨word, rfl, rfl⟩ | ⟨word, rfl, rfl⟩ | ⟨op, word, run⟩ |
    ⟨word, run⟩ | ⟨word, run⟩ | ⟨word, run⟩ := Context.operand_eq_ok run
  · -- a name
    exact tightest
      (pending_of_token within (.name _) ⟨rfl, rfl⟩ (current_symbols word (by decide)))
  · -- an integer literal
    obtain ⟨value, read, rfl, rfl⟩ := integer_eq_ok run
    exact tightest
      (pending_of_token within (.integer read) ⟨rfl, rfl⟩ (current_symbols word (by decide)))
  · -- `true`
    exact tightest
      (pending_of_token within (.trueWord _) ⟨rfl, rfl⟩ (current_symbols word (by decide)))
  · -- `false`
    exact tightest
      (pending_of_token within (.falseWord _) ⟨rfl, rfl⟩ (current_symbols word (by decide)))
  · -- a unary operation: its operand is read as far as calls go, and what stops it stops here too
    obtain ⟨operand, rfl, first⟩ := unary_eq_ok run
    obtain ⟨⟨symbols, derivation, eq, nests⟩, loose⟩ := sound small first
    refine ⟨.unary, ⟨_, .unary op cursor.current.literal derivation, ?_, ?_, rfl⟩, by decide, loose⟩
    · rw [current_symbols word (by cases op <;> decide), eq]
      rfl
    · exact Within.deeper_iff.2 nests
  · -- an expression in parentheses
    obtain ⟨place, first, closes, rfl⟩ := group_eq_ok run
    obtain ⟨⟨symbols, derivation, eq, nests⟩, -⟩ := sound small first
    refine tightest
      ⟨_, .group cursor.current.literal place.peek.literal derivation, ?_, ?_, rfl⟩
    · rw [current_symbols word (by decide), eq, peek_symbols closes (by decide)]
      simp
    · exact Within.deeper_iff.2 nests
  · -- a conditional
    exact tightest (conditional_sound sound within small word run)
  · -- a function
    exact tightest (function_sound sound within small word run)

/-- The `operators` behind an operand are taken as long as they bind tighter than asked for, each to
the right of all that was read before it, by induction on the bound. The levels of what is pending
get looser on the way. -/
theorem operators_sound {recorded : List ParseError} {reader : Nat → ExprReader}
    {floor : Precedence} {taken : Nat} {level : Level} {left tree : Expr} {before : List Symbol}
    (sound : ∀ depth, Within limit depth → Sound limit depth size (reader depth))
    (small : cursor.advance.size ≤ size) (enough : cursor.advance.size ≤ bound)
    (pending : Pending limit depth taken level left before cursor.advance.symbols)
    (loose : cursor.peek.kind.tightness ≤ level.rank) (tight : floor.level.rank ≤ level.rank)
    (run : (Context.plain limit recorded).operators reader floor bound taken left cursor =
      .ok tree last) :
    Built limit depth (.expression floor.level tree) before last.advance.symbols ∧
      last.peek.kind.tightness ≤ floor.rank := by
  -- By induction on the rounds of the loop: what is pending stays a derivation of all that was read,
  -- at the level of its last operator.
  induction bound generalizing cursor taken level left with
  | zero =>
    obtain ⟨rfl, rfl, -⟩ | ⟨_, none, _⟩ := Context.operators_eq_ok run
    · -- The bound is used up together with the tokens, and no operator is left.
      have empty : last.advance.symbols = [] := by
        rw [← List.length_eq_zero_iff, Cursor.length_symbols]
        omega
      obtain ⟨symbols, derivation, eq, within, -⟩ := pending
      obtain ⟨whole, -, nesting⟩ := derivation.loosen tight
      refine ⟨⟨symbols, whole, eq, nesting ▸ within⟩, ?_⟩
      rw [Cursor.peek_kind, empty]
      exact Nat.zero_le _
    · cases none
  | succ bound ih =>
    obtain ⟨rfl, rfl, stops⟩ | ⟨_, same, deeper, rest⟩ := Context.operators_eq_ok run
    · -- What follows binds no tighter than asked for.
      obtain ⟨symbols, derivation, eq, within, -⟩ := pending
      obtain ⟨whole, -, nesting⟩ := derivation.loosen tight
      exact ⟨⟨symbols, whole, eq, nesting ▸ within⟩, stops.resolve_left (Nat.succ_ne_zero _)⟩
    · cases same
      obtain ⟨symbols, derivation, eq, within, rfl⟩ := pending
      have fewer : cursor.advance.advance.size ≤ size :=
        Nat.le_trans cursor.advance.size_advance_le small
      obtain ⟨op, right, place, sign, less, second, rest⟩ | ⟨trees, place, opens, second, rest⟩ :=
        rest
      · -- A binary operator: what is pending binds at least as tightly, so it is a left operand.
        rw [sign, TokenKind.tightness_kind, ← op.rank_level] at loose
        obtain ⟨whole, spine, nesting⟩ := derivation.loosen loose
        obtain ⟨built, stops⟩ := sound _ deeper fewer second
        have left := built.size_le
        have shorter := cursor.advance.size_advance
        rw [op.precedence_level] at built
        obtain ⟨others, operand, otherEq, nests⟩ := built
        refine ih (by omega) (by omega) ⟨_, .binary op cursor.peek.literal whole operand, ?_, ?_, ?_⟩
          (by rwa [op.rank_level]) ?_ rest
        · rw [eq, peek_symbols sign (by cases op <;> decide), otherEq]
          simp
        · refine Within.add_max_iff.2 ⟨nesting ▸ within, ?_⟩
          rwa [spine, ← Nat.add_assoc, ← Nat.add_assoc]
        · change depth + (whole.spine + 1) = _
          rw [spine, Nat.add_assoc]
        · rw [op.rank_level]
          exact Precedence.level_rank_le less (by cases op <;> decide)
      · -- A call: what is pending is of the tightest level, since nothing else lets a call follow.
        have call := Level.eq_call (by rwa [opens] at loose)
        subst call
        obtain ⟨closing, others, list, otherEq, nests⟩ :=
          arguments_sound (sound _ deeper) deeper fewer second
        have left : place.advance.size ≤ cursor.advance.advance.size := by
          have length := congrArg List.length otherEq
          simp only [List.length_cons, List.length_append, Cursor.length_symbols] at length
          omega
        have shorter := cursor.advance.size_advance
        refine ih (by omega) (by omega)
          ⟨_, .call cursor.peek.literal closing derivation list, ?_, ?_, ?_⟩ ?_ tight rest
        · rw [eq, peek_symbols opens (by decide), otherEq]
          simp
        · refine Within.add_max_iff.2 ⟨within, ?_⟩
          rwa [← Nat.add_assoc, ← Nat.add_assoc]
        · change depth + (derivation.spine + 1) = _
          rw [Nat.add_assoc]
        · exact TokenKind.tightness_le_call _

/-- An expression is read as far as it goes: the step lemma for `expressionStep`. -/
theorem expressionStep_sound {recorded : List ParseError} {reader : Nat → ExprReader}
    (sound : ∀ depth, Within limit depth → Sound limit depth size (reader depth))
    (enough : size ≤ bound) :
    Sound limit depth (size + 1)
      ((Context.plain limit recorded).expressionStep reader bound depth) := by
  intro floor cursor last tree small run
  obtain ⟨deeper, first, place, started, rest⟩ := Context.expressionStep_eq_ok run
  have fewer : cursor.advance.size ≤ size := by
    rw [Cursor.size_advance]
    omega
  obtain ⟨level, pending, tight, loose⟩ := operand_sound (sound _ deeper) deeper fewer started
  -- The operand has a token at least, so the operators are read with fewer tokens left.
  have left : place.advance.size ≤ size := by
    obtain ⟨symbols, derivation, eq, -⟩ := pending
    have some_symbol := Derivation.ne_nil_of_startsOperand derivation.startsOperand
    have length := congrArg List.length eq
    simp only [List.length_append, Cursor.length_symbols] at length
    have := List.length_pos_iff.2 some_symbol
    omega
  exact operators_sound sound left (Nat.le_trans left enough) pending loose
    (Nat.le_trans floor.level_rank_le_five tight) rest

/-- **Expressions are read as they are derived**, whatever the depth, by induction on the bound. -/
theorem expression_sound {recorded : List ParseError} :
    Sound limit depth bound ((Context.plain limit recorded).expression bound depth) := by
  induction bound generalizing depth with
  | zero =>
    intro floor cursor last tree small run
    -- Without a token left there is no inner expression, so any reader will do for them.
    have sound (depth : Nat) :
        Sound limit depth 0 (fun _ => (do throw (.noOperand (← current)))) := by
      intro _ _ _ _ _ run
      cases run
    exact expressionStep_sound (fun depth _ => sound depth) (Nat.le_refl 0) (Nat.le_succ_of_le small)
      run
  | succ bound ih => exact expressionStep_sound (fun _ _ => ih) (Nat.le_succ bound)

end Monkey.Parse
