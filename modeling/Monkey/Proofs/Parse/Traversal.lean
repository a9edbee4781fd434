import Monkey.Proofs.Parse.Correspondence

/-! # Readings that correspond all the way

From token to token a loop and a reader that recurses on a bound do what corresponds, if there is
fuel for one round more than there are tokens left, and the bound is at least their number. Every
level of nesting takes a token, so no level is deeper than the number of tokens that were there at
the start. There is one lemma for each reader, made of the laws of `Related`; `expression_related`
goes by induction on the tokens that are left, and `items_related` brings it to whole streams. -/

namespace Monkey

open Parse ParseM

namespace Correspondence

variable {R : Correspondence} {α : Type} {size depth : Nat}

/-- Answers that correspond: the same value, or errors that correspond by `Fails`. -/
inductive Answers (R : Correspondence) : Except ParseError α → Except ParseError α → Prop where
  | ok {value : α} : Answers R (.ok value) (.ok value)
  | error {error error' : ParseError} :
      R.Fails error error' → Answers R (.error error) (.error error')

/-- What two contexts decide by themselves corresponds: whether expressions may nest one level
deeper, from depths up to a certain one, and what the rules of the grammar's own answer. -/
structure Contexts (R : Correspondence) (most : Nat) (left right : Context) : Prop where
  descend {depth : Nat} {token token' : Token} (size : Nat) : depth ≤ most → R.Like token token' →
    R.Related size depth (checkDepth left.grammar.nestingLimit depth token)
      (checkDepth right.grammar.nestingLimit depth token')
  operand {token token' : Token} : R.Like token token' →
    Option.Rel
      (fun rule rule' => R.Answers (rule token left.recorded) (rule' token' right.recorded))
      (left.grammar.rules.operand token.kind) (right.grammar.rules.operand token'.kind)
  operator {token token' : Token} (tree : Expr) : R.Like token token' →
    Option.Rel
      (fun rule rule' =>
        R.Answers (rule token left.recorded tree) (rule' token' right.recorded tree))
      (left.grammar.rules.operator token.kind) (right.grammar.rules.operator token'.kind)

/-- What two contexts do at an operator corresponds: their own rules answer what corresponds, or
they do what the language does at the same operator. -/
inductive Actions (R : Correspondence) (left right : Context) (token token' : Token) (tree : Expr) :
    OperatorAction → OperatorAction → Prop where
  | custom {rule rule' : OperatorRule} :
      R.Answers (rule token left.recorded tree) (rule' token' right.recorded tree) →
        Actions R left right token token' tree (.custom rule) (.custom rule')
  | builtin (operator : Operator) :
      Actions R left right token token' tree (.builtin operator) (.builtin operator)

variable {left right : Context} {most fuel bound told : Nat} {inner : ExprReader}

/-- What is found for two tokens that correspond, by `Rules.action?`, corresponds too. -/
theorem Contexts.actions (contexts : R.Contexts most left right) {token token' : Token}
    (tree : Expr) (like : R.Like token token') :
    Option.Rel (R.Actions left right token token' tree) (left.grammar.rules.action? token.kind)
      (right.grammar.rules.action? token'.kind) := by
  have rules := contexts.operator tree like
  rw [Rules.action?.eq_def, Rules.action?.eq_def]
  generalize left.grammar.rules.operator token.kind = rule at rules
  generalize right.grammar.rules.operator token'.kind = rule' at rules
  cases rules with
  | some answers => exact .some (.custom answers)
  | none =>
    dsimp only
    rw [← R.kind_eq like]
    cases Operator.ofKind? token.kind with
    | none => exact .none
    | some operator => exact .some (.builtin operator)

/-- With the same nesting limit both readings go one level deeper at the same time, and otherwise
fail with errors that correspond. -/
theorem checkDepth_related (size : Nat) (limit : Option Nat) {token token' : Token}
    (deep : ∀ limit,
      R.Fails (.nestingTooDeep limit token.position) (.nestingTooDeep limit token'.position)) :
    R.Related size depth (checkDepth limit depth token) (checkDepth limit depth token') := by
  cases limit with
  | none => exact .pure _
  | some limit => exact .ite (.throw (deep limit)) (.pure _)

/-- A rule's answer is what is read, so answers that correspond make readers that do. -/
theorem ofExcept_related {answer answer' : Except ParseError α} (same : R.Answers answer answer') :
    R.Related size depth (MonadExcept.ofExcept answer : LoopM α)
      (MonadExcept.ofExcept answer') := by
  cases same with
  | ok => exact .pure _
  | error fails => exact .throw fails

/-! ## Lists in parentheses, and statements -/

/-- A closing parenthesis ends what was read, with the same value on both sides. -/
theorem close_related {value : α} :
    R.Related size depth (do let _ ← expect .rparen; return value)
      (do let _ ← expect .rparen; return value) :=
  (Related.expect _ fun _ _ _ => .pure _).mono (Nat.le_succ size)

/-- The parameters after a comma (`moreParameters`) are read alike, by induction on the tokens that
are left. -/
theorem moreParameters_related (burns : size < fuel) (enough : size ≤ bound) :
    R.Related size depth (moreParameters fuel) (moreParameters bound) := by
  induction size generalizing fuel bound with
  | zero =>
    obtain ⟨fuel, rfl⟩ : ∃ fewer, fuel = fewer + 1 := ⟨fuel - 1, by omega⟩
    cases bound with
    | zero =>
      refine .peek_left fun token ended => ?_
      rw [if_neg (by rw [ended (Nat.zero_le 1)]; decide)]
      exact close_related
    | succ bound =>
      refine .peek fun token token' like ended => ?_
      rw [← R.kind_eq like, ended (Nat.zero_le 1)]
      exact close_related
  | succ size ih =>
    match fuel, bound with
    | fuel + 1, bound + 1 =>
      have rest := ih (Nat.lt_of_succ_lt_succ burns) (Nat.le_of_succ_le_succ enough)
      refine .peek fun token token' like _ => ?_
      rw [← R.kind_eq like]
      refine .ite (.advance ?_) close_related
      refine (Related.expect _ fun name name' like => ?_).mono (Nat.le_succ _)
      rw [← R.literal_eq like]
      exact .bind rest fun _ => .pure _

/-- The `parameters` of a function are read alike, with the parentheses around them. -/
theorem parameters_related (burns : size < fuel) (enough : size ≤ bound) :
    R.Related size depth (parameters fuel) (parameters bound) := by
  refine (Related.expect _ fun _ _ _ => .peek fun token token' like _ => ?_).mono (Nat.le_succ _)
  rw [← R.kind_eq like]
  refine .ite (.move (.pure _)) ((Related.expect _ fun name name' like => ?_).mono (Nat.le_succ _))
  rw [← R.literal_eq like]
  exact .bind (moreParameters_related burns enough) fun _ => .pure _

/-- An `integer` literal is read alike from tokens that correspond, which have the same text. -/
theorem integer_related {token token' : Token} (like : R.Like token token') :
    R.Related size depth (integer token) (integer token') := by
  have fails := R.invalidInteger like
  rw [integer, integer, ← R.literal_eq like]
  rw [← R.literal_eq like] at fails
  cases Decimal.read? token.literal with
  | some value => exact .pure (α := Expr) _
  | none => exact .throw (α := Expr) fails

section

variable {loop : ExprLoop} (same : ∀ floor, R.Related size depth (loop floor) (inner floor))

include same

/-- A `statement` is read alike if its expressions are: one case for each kind of statement. -/
theorem statement_related : R.Related size depth (statement loop) (statement inner) := by
  have valued (make : Expr → Stmt) : R.Related size depth
      (do
        let value ← loop .lowest
        skipSemicolon
        return make value)
      (do
        let value ← inner .lowest
        skipSemicolon
        return make value) :=
    .bind (same _) fun _ => .skipSemicolon (.pure _)
  refine .current fun token token' like _ => ?_
  rw [← R.kind_eq like]
  cases token.kind
  case letKw =>
    refine (Related.expect _ fun name name' like => ?_).mono (Nat.le_succ size)
    rw [← R.literal_eq like]
    exact (Related.expect _ fun _ _ _ => .move (valued _)).mono (Nat.le_succ size)
  case returnKw =>
    refine .peek fun token token' like _ => ?_
    rw [← R.kind_eq like]
    cases token.kind
    case semicolon => exact .move (.pure _)
    case rbrace | eof => exact .pure _
    all_goals exact .move (valued _)
  all_goals exact valued _

/-- The `statements` of a block are read alike if their expressions are, by induction on the tokens
that are left. -/
theorem statements_related (burns : size < fuel) (enough : size ≤ bound) :
    R.Related size depth (statements loop fuel) (statements inner bound) := by
  induction size generalizing fuel bound with
  | zero =>
    obtain ⟨fuel, rfl⟩ : ∃ fewer, fuel = fewer + 1 := ⟨fuel - 1, by omega⟩
    cases bound with
    | zero =>
      refine .current fun token token' like ended => ?_
      rw [ended rfl]
      exact .throw (R.unexpectedToken _ like)
    | succ bound =>
      refine .current fun token token' like ended => ?_
      rw [← R.kind_eq like, ended rfl]
      exact .throw (R.unexpectedToken _ like)
  | succ size ih =>
    match fuel, bound with
    | fuel + 1, bound + 1 =>
      have rest := ih (fun floor => (same floor).mono (Nat.le_succ size))
        (Nat.lt_of_succ_lt_succ burns) (Nat.le_of_succ_le_succ enough)
      refine .current fun token token' like _ => ?_
      rw [← R.kind_eq like]
      cases token.kind
      case rbrace => exact .pure _
      case eof => exact .throw (R.unexpectedToken _ like)
      all_goals exact .bind (statement_related same) fun _ =>
        .advance (.bind rest fun _ => .pure _)

/-- A `block` is read alike if its expressions are; its brace is one token more. -/
theorem block_related (burns : size < fuel) (enough : size ≤ bound) :
    R.Related (size + 1) depth (block loop fuel) (block inner bound) :=
  .expect _ fun _ _ _ => .move (statements_related same burns enough)

/-- The arguments after a comma (`moreArguments`) are read alike if their expressions are, by
induction on the tokens that are left. -/
theorem moreArguments_related (burns : size < fuel) (enough : size ≤ bound) :
    R.Related size depth (moreArguments loop fuel) (moreArguments inner bound) := by
  induction size generalizing fuel bound with
  | zero =>
    obtain ⟨fuel, rfl⟩ : ∃ fewer, fuel = fewer + 1 := ⟨fuel - 1, by omega⟩
    cases bound with
    | zero =>
      refine .peek_left fun token ended => ?_
      rw [if_neg (by rw [ended (Nat.zero_le 1)]; decide)]
      exact close_related
    | succ bound =>
      refine .peek fun token token' like ended => ?_
      rw [← R.kind_eq like, ended (Nat.zero_le 1)]
      exact close_related
  | succ size ih =>
    match fuel, bound with
    | fuel + 1, bound + 1 =>
      have fewer (floor : Precedence) := (same floor).mono (Nat.le_succ size)
      have rest := ih fewer (Nat.lt_of_succ_lt_succ burns) (Nat.le_of_succ_le_succ enough)
      refine .peek fun token token' like _ => ?_
      rw [← R.kind_eq like]
      exact .ite (.advance (.move (.bind (fewer _) fun _ => .bind rest fun _ => .pure _)))
        close_related

/-- The `arguments` of a call are read alike if their expressions are; their parenthesis is one
token more. -/
theorem arguments_related (burns : size < fuel) (enough : size ≤ bound) :
    R.Related (size + 1) depth (arguments loop fuel) (arguments inner bound) := by
  refine .peek fun token token' like _ => ?_
  rw [← R.kind_eq like]
  exact .ite (.move (.pure _)) (.advance (.bind (same _) fun _ =>
    .bind (moreArguments_related same burns enough) fun _ => .pure _))

/-! ## Operands and operators -/

/-- A `unary` operation is read alike if its operand is; its sign is one token more. -/
theorem unary_related (op : UnaryOp) :
    R.Related (size + 1) depth (unary loop op) (unary inner op) :=
  .advance (.bind (same _) fun _ => .pure _)

/-- A `group` is read alike if its expression is; its parenthesis is one token more. -/
theorem group_related : R.Related (size + 1) depth (group loop) (group inner) :=
  .advance (.bind (same _) fun _ => close_related)

/-- A `conditional` is read alike if its condition and its blocks are; its keyword is one token
more. -/
theorem conditional_related (burns : size < fuel) (enough : size ≤ bound) :
    R.Related (size + 1) depth (conditional loop fuel) (conditional inner bound) := by
  have body := (block_related same burns enough).mono (Nat.le_succ size)
  refine .expect _ fun _ _ _ => .move (.bind (same _) fun _ => ?_)
  refine (Related.expect _ fun _ _ _ => ?_).mono (Nat.le_succ size)
  refine .bind body fun _ => .peek fun token token' like _ => ?_
  rw [← R.kind_eq like]
  exact .ite (.move (.bind body fun _ => .pure _)) (.pure _)

/-- A `function` is read alike if the expressions in its body are; its keyword is one token more. -/
theorem function_related (burns : size + 1 < fuel) (enough : size + 1 ≤ bound) :
    R.Related (size + 1) depth (function loop fuel) (function inner bound) :=
  .bind (parameters_related burns enough) fun _ =>
    .bind (block_related same (Nat.lt_of_succ_lt burns) (Nat.le_of_succ_le enough)) fun _ =>
      .pure _

/-- What is done at an operator is read alike if its expressions are, where the two
`OperatorAction`s correspond. -/
theorem operation_related (burns : size < fuel) (enough : size ≤ bound) {token token' : Token}
    (like : R.Like token token') {tree : Expr} {action action' : OperatorAction}
    (actions : R.Actions left right token token' tree action action') :
    R.Related (size + 1) depth (left.operation loop fuel token tree action)
      (right.operation inner bound token' tree action') := by
  cases actions with
  | custom answers => exact ofExcept_related answers
  | builtin operator =>
    cases operator with
    | binary op =>
      rw [Context.operation, Context.operation, ← R.kind_eq like]
      exact .advance (.bind (same _) fun _ => .pure _)
    | call => exact .bind (arguments_related same burns enough) fun _ => .pure _

end

/-! ## Expressions -/

section

variable {loop : ExprLoop} {reader : Nat → ExprReader} {floor : Precedence}

/-- An `operand` is read alike if the expressions in it are, which come behind its first token.
Where no token is left only a rule of the grammar's own makes an operand. -/
theorem operand_related (contexts : R.Contexts most left right)
    (same : ∀ fewer, size = fewer + 1 → ∀ floor, R.Related fewer depth (loop floor) (inner floor))
    (burns : size < fuel) (enough : size ≤ bound) :
    R.Related size depth (left.operand loop fuel) (right.operand inner bound) := by
  refine .current fun token token' like ended => ?_
  have rules := contexts.operand like
  generalize left.grammar.rules.operand token.kind = rule at rules
  generalize right.grammar.rules.operand token'.kind = rule' at rules
  cases rules with
  | some answers => exact ofExcept_related answers
  | none =>
    rw [← R.kind_eq like]
    cases size with
    | zero =>
      rw [ended rfl]
      exact .throw (R.noOperand like)
    | succ size =>
      have same := same size rfl
      have burns' := Nat.lt_of_succ_lt burns
      have enough' := Nat.le_of_succ_le enough
      cases token.kind
      case ident =>
        rw [← R.literal_eq like]
        exact .pure _
      case int => exact integer_related like
      case trueKw | falseKw => exact .pure _
      case bang | minus => exact unary_related same _
      case lparen => exact group_related same
      case ifKw => exact conditional_related same burns' enough'
      case fnKw => exact function_related same burns enough
      all_goals exact .throw (R.noOperand like)

/-- Behind the last token there is no operator, since the end of the input binds no tighter than any
`floor`. -/
theorem operators_ended (last : size ≤ 1) (tree : Expr) :
    R.Related size depth (left.operators (fun _ => loop) floor (fuel + 1) told tree)
      (right.operators reader floor bound depth tree) false := by
  -- The end of the input has no entry in the precedence table, and nothing is below `lowest`.
  have ends : ¬(TokenKind.eof ≠ .semicolon ∧ floor < .ofKind .eof) :=
    fun ⟨_, tighter⟩ => Precedence.not_lt_lowest floor tighter
  cases bound with
  | zero =>
    refine .peek_left fun token ended => ?_
    rw [ended last, if_neg ends]
    exact .pure _
  | succ bound =>
    refine .peek fun token token' like ended => ?_
    rw [← R.kind_eq like, ended last, if_neg ends, if_neg ends]
    exact .pure _

/-- An operator is a token, so there is one token less for each level that the `operators` add. The
induction is on the tokens that are left. -/
theorem operators_related (contexts : R.Contexts most left right)
    (same : ∀ depth fewer floor, depth + fewer ≤ most → fewer < size →
      R.Related fewer depth (loop floor) (reader depth floor))
    (allowed : depth + size ≤ most + 1) (burns : size < fuel) (enough : size ≤ bound)
    (tree : Expr) :
    R.Related size depth (left.operators (fun _ => loop) floor fuel told tree)
      (right.operators reader floor bound depth tree) false := by
  -- The depth grows while the size falls, so that `allowed` holds all along.
  induction size generalizing fuel bound depth told tree with
  | zero =>
    obtain ⟨fuel, rfl⟩ : ∃ fewer, fuel = fewer + 1 := ⟨fuel - 1, by omega⟩
    exact operators_ended (Nat.zero_le 1) tree
  | succ size ih =>
    match size, fuel, bound with
    | 0, _ + 1, _ => exact operators_ended (Nat.le_refl 1) tree
    | size + 1, fuel + 1, bound + 1 =>
      refine .peek fun token token' like _ => ?_
      have found := contexts.actions tree like
      rw [← R.kind_eq like] at found ⊢
      refine .ite ?_ (.pure _)
      generalize left.grammar.rules.action? token.kind = action at found ⊢
      generalize right.grammar.rules.action? token.kind = action' at found ⊢
      cases found with
      | none => exact .pure _
      | some actions =>
        have inner (floor : Precedence) := same (depth + 1) size floor (by omega) (by omega)
        have further depth fewer floor (allowed : depth + fewer ≤ most) (less : fewer < size + 1) :=
          same depth fewer floor allowed (Nat.lt_succ_of_lt less)
        have deeper := contexts.descend (size + 1) (by omega : depth ≤ most) like
        refine .advance (.descend deeper (.bind ?_ ?_))
        · exact operation_related inner (by omega) (by omega) like actions
        · exact fun whole => ih further (by omega) (by omega) (by omega) whole

/-- Expressions are read alike if those inside them are: the step lemma for `expressionStep`. -/
theorem expressionStep_related (contexts : R.Contexts most left right)
    (same : ∀ depth fewer floor, depth + fewer ≤ most → fewer < size →
      R.Related fewer depth (Fueled.expression left fuel floor) (reader depth floor))
    (allowed : depth + size ≤ most) (burns : size < fuel + 1) (enough : size ≤ bound) :
    R.Related size depth (Fueled.expression left (fuel + 1) floor)
      (right.expressionStep reader bound depth floor) := by
  refine .restoring (.current fun token token' like _ =>
    .descend (contexts.descend _ (by omega) like) (.bind ?_ fun first => ?_))
  · exact operand_related contexts (fun fewer _ floor => same _ _ floor (by omega) (by omega)) burns
      enough
  · exact operators_related contexts same (by omega) burns enough first

/-- **Expressions are read alike**, however deep they nest, while there are as many tokens, by
induction on the tokens that are left. -/
theorem expression_related (contexts : R.Contexts most left right) (allowed : depth + size ≤ most)
    (burns : size < fuel) (enough : size ≤ bound) :
    R.Related size depth (Fueled.expression left fuel floor)
      (right.expression bound depth floor) := by
  induction fuel generalizing bound size depth floor with
  | zero => cases burns
  | succ fuel ih =>
    cases bound with
    | zero =>
      exact expressionStep_related contexts (fun _ _ _ _ _ => by omega) allowed burns enough
    | succ bound =>
      exact expressionStep_related contexts
        (fun _ _ _ allowed less => ih allowed (by omega) (by omega)) allowed burns enough

end

/-! ## Programs -/

/-- What two grammars read corresponds, behind errors that correspond in some way: their `Contexts`
do, and they stop recovery at the same operators. -/
structure Grammars (R : Correspondence) (most : Nat)
    (Recorded : List ParseError → List ParseError → Prop) (grammar grammar' : Grammar) : Prop where
  contexts {recorded recorded' : List ParseError} :
    Recorded recorded recorded' → R.Contexts most ⟨grammar, recorded⟩ ⟨grammar', recorded'⟩
  record {recorded recorded' : List ParseError} {error error' : ParseError} :
    R.Fails error error' → Recorded recorded recorded' →
      Recorded (error :: recorded) (error' :: recorded')
  hasOperator (kind : TokenKind) :
    grammar.rules.hasOperator kind = grammar'.rules.hasOperator kind

/-- Statements that correspond start at cursors that do, and their results are `Answers` that do. -/
structure Items (R : Correspondence) (item item' : ParsedItem) : Prop where
  start : R.At item.start item'.start
  result : R.Answers item.result item'.result

/-- What was read corresponds, statement by statement, and reading ended at cursors that do. -/
structure Outcomes (R : Correspondence) (outcome outcome' : ParseOutcome) : Prop where
  items : List.Forall₂ R.Items outcome.items outcome'.items
  cursor : R.At outcome.cursor outcome'.cursor

/-- Readings that correspond made the same `statements`, and `errors` that correspond. -/
theorem Outcomes.statements_errors {outcome outcome' : ParseOutcome}
    (outcomes : R.Outcomes outcome outcome') :
    outcome.statements = outcome'.statements ∧
      List.Forall₂ R.Fails outcome.errors outcome'.errors := by
  obtain ⟨items, cursor⟩ := outcome
  obtain ⟨items', cursor'⟩ := outcome'
  have same := outcomes.items
  clear outcomes
  dsimp only [ParseOutcome.statements, ParseOutcome.errors] at same ⊢
  induction same with
  | nil => exact ⟨rfl, .nil⟩
  | @cons item item' _ _ first _ ih =>
    obtain ⟨start, result⟩ := item
    obtain ⟨start', result'⟩ := item'
    obtain ⟨-, answers⟩ := first
    cases answers with
    | @ok tree => exact ⟨congrArg (tree :: ·) ih.1, ih.2⟩
    | error fails => exact ⟨ih.1, .cons fails ih.2⟩

variable {Recorded : List ParseError → List ParseError → Prop} {grammar grammar' : Grammar}
  {recorded recorded' : List ParseError} {cursor cursor' : Cursor}

/-- The errors recorded behind statements that correspond do so too, with the error of a broken one
in front. -/
theorem Grammars.record_item (grammars : R.Grammars most Recorded grammar grammar')
    {item item' : ParsedItem} (items : R.Items item item') (logs : Recorded recorded recorded') :
    Recorded (item.error?.toList ++ recorded) (item'.error?.toList ++ recorded') := by
  obtain ⟨start, result⟩ := item
  obtain ⟨start', result'⟩ := item'
  obtain ⟨-, answers⟩ := items
  cases answers with
  | ok => exact logs
  | error fails => exact grammars.record fails logs

/-- Cursors that correspond are at the end of the input at the same time. -/
theorem atEnd_eq (together : R.At cursor cursor') : cursor.atEnd = cursor'.atEnd := by
  rw [Cursor.atEnd, Cursor.atEnd, R.kind_eq (R.like_current together)]

/-- Cursors that correspond have passed as many braces, with the current token among them. -/
theorem openedThrough_eq (together : R.At cursor cursor') :
    cursor.openedThrough = cursor'.openedThrough := by
  rw [Cursor.openedThrough, Cursor.openedThrough, R.opened_eq together,
    R.kind_eq (R.like_current together)]

/-- Recovery stops at cursors that correspond, by the recursion of `Cursor.recover`. -/
theorem at_recover (grammars : R.Grammars most Recorded grammar grammar') (floor : Nat)
    (together : R.At cursor cursor') :
    R.At (cursor.recover grammar.rules floor) (cursor'.recover grammar'.rules floor) := by
  -- What the second reading does, as the first one decides it.
  have same {cursor cursor' : Cursor} (together : R.At cursor cursor') :
      cursor'.recover grammar'.rules floor =
        if cursor.atEnd then cursor'
        else if cursor.openedThrough ≤ floor ∧ cursor.current.kind = .semicolon then cursor'
        else if cursor.openedThrough ≤ floor ∧ cursor.current.kind = .rbrace ∧
            ¬(cursor.peek.kind = .elseKw ∨ grammar.rules.hasOperator cursor.peek.kind) then
          if cursor.peek.kind = .semicolon then cursor'.advance else cursor'
        else cursor'.advance.recover grammar'.rules floor := by
    have current_kind := R.kind_eq (R.like_current together)
    have peek_kind : cursor.peek.kind = cursor'.peek.kind :=
      R.kind_eq (R.like_current (R.at_advance together))
    rw [Cursor.recover, R.atEnd_eq together, R.openedThrough_eq together, current_kind, peek_kind,
      grammars.hasOperator]
  fun_induction Cursor.recover grammar.rules floor cursor generalizing cursor' with
  | case1 cursor ended => rwa [same together, if_pos ended]
  | case2 cursor inside ends => rwa [same together, if_neg inside, if_pos ends]
  | case3 cursor inside other ends semicolon =>
    rw [same together, if_neg inside, if_neg other, if_pos ends, if_pos semicolon]
    exact R.at_advance together
  | case4 cursor inside other ends nothing =>
    rwa [same together, if_neg inside, if_neg other, if_pos ends, if_neg nothing]
  | case5 cursor inside other other' ih =>
    rw [same together, if_neg inside, if_neg other, if_neg other']
    exact ih (R.at_advance together)

/-- One statement is read alike and, if it is broken, its end is found alike, unless the first
reading fails with an error that excuses it. -/
theorem item_related (grammars : R.Grammars most Recorded grammar grammar')
    (logs : Recorded recorded recorded') (together : R.At cursor cursor')
    (allowed : cursor.size ≤ most) (burns : cursor.size < fuel) (enough : cursor.size ≤ bound) :
    ∃ item next, Fueled.item grammar fuel recorded ⟨cursor, 0⟩ = some (item, ⟨next, 0⟩) ∧
      next.size ≤ cursor.size - 1 ∧
      ((∃ error, item.error? = some error ∧ R.Excused error) ∨
        R.Items item (grammar'.parseItem bound recorded' cursor').1 ∧
          R.At next (grammar'.parseItem bound recorded' cursor').2) := by
  have inner (floor : Precedence) :
      R.Related cursor.size 0 (Fueled.expression ⟨grammar, recorded⟩ fuel floor)
        (Context.expression ⟨grammar', recorded'⟩ bound 0 floor) :=
    expression_related (grammars.contexts logs) (by omega) burns enough
  obtain ⟨result, ⟨last, counted⟩, run, le, stays, ends⟩ :=
    statement_related inner cursor cursor' together (Nat.le_refl _)
  obtain rfl : counted = 0 := stays rfl
  -- However the item ends, the next one starts behind the last token of it.
  have less {place : Cursor} (le : place.size ≤ cursor.size) :
      place.advance.size ≤ cursor.size - 1 := by
    rw [Cursor.size_advance]
    exact Nat.sub_le_sub_right le 1
  have recovered (place : Cursor) (floor : Nat) :
      (place.recover grammar.rules floor).size ≤ place.size :=
    (Cursor.reaches_recover grammar.rules floor place).size_le
  rw [Fueled.item, run, Grammar.parseItem]
  generalize statement (Context.expression ⟨grammar', recorded'⟩ bound 0) cursor' = other at ends
  cases ends with
  | ok places => exact ⟨_, _, rfl, less le, .inr ⟨⟨together, .ok⟩, R.at_advance places⟩⟩
  | error fails places =>
    refine ⟨_, _, rfl, less (Nat.le_trans (recovered _ _) le),
      .inr ⟨⟨together, .error fails⟩, ?_⟩⟩
    rw [← R.openedThrough_eq together]
    exact R.at_advance (at_recover grammars _ places)
  | excused excused =>
    exact ⟨_, _, rfl, less (Nat.le_trans (recovered _ _) le), .inl ⟨_, rfl, excused⟩⟩

/-- Statements are read alike up to the end of the input, unless the first reading records an error
that excuses it; from there on it only has to end. -/
theorem items_related (grammars : R.Grammars most Recorded grammar grammar')
    (excused : ∀ error, R.Excused error → ∀ fuel recorded cursor, cursor.size < fuel →
      ∃ outcome, Fueled.items grammar fuel recorded ⟨cursor, 0⟩ = some outcome)
    (logs : Recorded recorded recorded') (together : R.At cursor cursor')
    (allowed : cursor.size ≤ most) (burns : cursor.size < fuel) (enough : cursor.size ≤ bound) :
    ∃ outcome, Fueled.items grammar fuel recorded ⟨cursor, 0⟩ = some outcome ∧
      ((∃ error ∈ outcome.errors, R.Excused error) ∨
        R.Outcomes outcome (grammar'.parseFrom bound recorded' cursor')) := by
  induction bound generalizing fuel recorded recorded' cursor cursor' with
  | zero =>
    obtain ⟨fuel, rfl⟩ : ∃ fewer, fuel = fewer + 1 := ⟨fuel - 1, by omega⟩
    have ended := Cursor.atEnd_of_size_eq_zero (Nat.le_zero.1 enough)
    exact ⟨_, Fueled.items_atEnd ended, .inr ⟨.nil, together⟩⟩
  | succ bound ih =>
    obtain ⟨fuel, rfl⟩ : ∃ fewer, fuel = fewer + 1 := ⟨fuel - 1, by omega⟩
    have same_end := R.atEnd_eq together
    by_cases ended : cursor.atEnd = true
    · rw [Grammar.parseFrom, if_pos (same_end ▸ ended)]
      exact ⟨_, Fueled.items_atEnd ended, .inr ⟨.nil, together⟩⟩
    · have some_token := mt Cursor.atEnd_of_size_eq_zero ended
      obtain ⟨item, next, read, less, found⟩ :=
        item_related grammars logs together allowed burns enough
      have burns : next.size < fuel := by omega
      obtain ⟨error, failed, excuse⟩ | ⟨items, nexts⟩ := found
      · -- The second reading may go on as it likes, and the first one still ends.
        obtain ⟨rest, others⟩ := excused error excuse fuel _ next burns
        exact ⟨_, Fueled.items_inside ended read others,
          .inl ⟨error, List.mem_filterMap.2 ⟨item, .head _, failed⟩, excuse⟩⟩
      · obtain ⟨rest, others, found⟩ :=
          ih (grammars.record_item items logs) nexts (by omega) burns (by omega)
        refine ⟨_, Fueled.items_inside ended read others, ?_⟩
        obtain ⟨error, mem, excuse⟩ | outcomes := found
        · obtain ⟨broken, mem, failed⟩ := List.mem_filterMap.1 mem
          exact .inl ⟨error, List.mem_filterMap.2 ⟨broken, .tail _ mem, failed⟩, excuse⟩
        · rw [Grammar.parseFrom, if_neg (same_end ▸ ended)]
          exact .inr ⟨.cons items outcomes.items, outcomes.cursor⟩

end Correspondence

end Monkey
