import Monkey.Proofs.Parse.Success

/-! # Where a reader gets to

For each reader of `Parse` the tokens and the inner readers with which it succeeds. Inner readers
may fail for the nesting limit; then the reader fails for it too, which is what `Leads` says.
These are the steps of which the module on completeness makes its induction, from
`moreParameters_done` to `expressionStep_leads`; `operand_apply`, `operators_stop` and
`operators_step` state what the built-in rules decide. -/

namespace Monkey.Parse

open ParseM

variable {inner : ExprReader} {bound : Nat} {cursor place last : Cursor} {fits also : Prop}

/-! ## Parameters and arguments -/

/-- The parameters end at a closing parenthesis, which is passed. -/
theorem moreParameters_done (closes : cursor.peek.kind = .rparen) :
    moreParameters (m := ParseM) bound cursor = .ok [] cursor.advance := by
  have not_comma : cursor.peek.kind ≠ .comma := by
    rw [closes]
    decide
  cases bound with
  | zero =>
    rw [moreParameters, spent_eq, bind_ok (expect_ok closes)]
    rfl
  | succ bound =>
    rw [moreParameters, peek_bind, if_neg not_comma, bind_ok (expect_ok closes)]
    rfl

/-- A comma and a name go before more parameters, behind which they end. -/
theorem moreParameters_comma {names : List String} (comma : cursor.peek.kind = .comma)
    (named : cursor.advance.peek.kind = .ident)
    (rest : moreParameters (m := ParseM) bound cursor.advance.advance = .ok names last) :
    moreParameters (m := ParseM) (bound + 1) cursor =
      .ok (cursor.advance.peek.literal :: names) last := by
  rw [moreParameters, peek_bind, if_pos comma, advance_bind, bind_ok (expect_ok named),
    bind_ok rest]
  rfl

/-- There are no `parameters` where the parentheses hold nothing. -/
theorem parameters_none (opens : cursor.peek.kind = .lparen)
    (closes : cursor.advance.peek.kind = .rparen) :
    parameters (m := ParseM) bound cursor = .ok [] cursor.advance.advance := by
  rw [parameters, bind_ok (expect_ok opens), peek_bind, if_pos closes]
  rfl

/-- A name in parentheses and more behind it are parameters, as `moreParameters` reads them. -/
theorem parameters_some {names : List String} (opens : cursor.peek.kind = .lparen)
    (named : cursor.advance.peek.kind = .ident)
    (rest : moreParameters (m := ParseM) bound cursor.advance.advance = .ok names last) :
    parameters (m := ParseM) bound cursor = .ok (cursor.advance.peek.literal :: names) last := by
  have not_closed : cursor.advance.peek.kind ≠ .rparen := by
    rw [named]
    decide
  rw [parameters, bind_ok (expect_ok opens), peek_bind, if_neg not_closed,
    bind_ok (expect_ok named), bind_ok rest]
  rfl

/-- The arguments end at a closing parenthesis, which is passed. -/
theorem moreArguments_done (closes : cursor.peek.kind = .rparen) :
    moreArguments inner bound cursor = .ok [] cursor.advance := by
  have not_comma : cursor.peek.kind ≠ .comma := by
    rw [closes]
    decide
  cases bound with
  | zero =>
    rw [moreArguments, spent_eq, bind_ok (expect_ok closes)]
    rfl
  | succ bound =>
    rw [moreArguments, peek_bind, if_neg not_comma, bind_ok (expect_ok closes)]
    rfl

/-- Behind a comma arguments are read as behind an opening parenthesis, since no parenthesis closes
there. -/
theorem moreArguments_comma (comma : cursor.peek.kind = .comma)
    (not_closed : cursor.advance.peek.kind ≠ .rparen) :
    moreArguments inner (bound + 1) cursor = arguments inner bound cursor.advance := by
  rw [moreArguments, peek_bind, if_pos comma, advance_bind, arguments, peek_bind,
    if_neg not_closed]

/-- There are no `arguments` where the parentheses hold nothing. -/
theorem arguments_none (closes : cursor.peek.kind = .rparen) :
    arguments inner bound cursor = .ok [] cursor.advance := by
  rw [arguments, peek_bind, if_pos closes]
  rfl

/-- An expression in parentheses and more behind it are `arguments`, if both fit. -/
theorem arguments_leads {tree : Expr} {trees : List Expr}
    (not_closed : cursor.peek.kind ≠ .rparen)
    (first : Leads (inner .lowest cursor.advance) fits (.ok tree place))
    (rest : fits → Leads (moreArguments inner bound place) also (.ok trees last)) :
    Leads (arguments inner bound cursor) (fits ∧ also) (.ok (tree :: trees) last) := by
  rw [arguments, peek_bind, if_neg not_closed, advance_bind]
  exact first.bind fun here => (rest here).bind_eq rfl

/-! ## Statements and blocks -/

/-- A binding is read up to the end of its value, or the semicolon behind it. -/
theorem statement_let {value : Expr} (word : cursor.current.kind = .letKw)
    (named : cursor.peek.kind = .ident) (assigned : cursor.advance.peek.kind = .assign)
    (first : Leads (inner .lowest cursor.advance.advance.advance) fits (.ok value place)) :
    Leads (statement inner cursor) fits
      (.ok (.letStmt cursor.peek.literal value) (behindSemicolon place)) := by
  rw [statement, current_bind, word]
  show Leads ((expect (m := ParseM) .ident >>= _) cursor) _ _
  rw [bind_ok (expect_ok named), bind_ok (expect_ok assigned), advance_bind]
  refine first.bind_eq ?_
  rw [skipSemicolon_bind]
  rfl

/-- A return without a value stands only before a semicolon, a closing brace or the end. -/
theorem statement_returnNone (word : cursor.current.kind = .returnKw)
    (stops : cursor.peek.kind = .semicolon ∨ cursor.peek.kind = .rbrace ∨
      cursor.peek.kind = .eof) :
    statement inner cursor = .ok (.returnStmt none) (behindSemicolon cursor) := by
  rw [statement, current_bind, word]
  show (peek (m := ParseM) >>= _) cursor = _
  rw [peek_bind, behindSemicolon]
  rcases stops with stops | stops | stops <;> rw [stops] <;> rfl

/-- A return with a value is read up to the end of the value, or the semicolon behind it. -/
theorem statement_returnSome {value : Expr} (word : cursor.current.kind = .returnKw)
    (starts : cursor.peek.kind.startsOperand = true)
    (first : Leads (inner .lowest cursor.advance) fits (.ok value place)) :
    Leads (statement inner cursor) fits
      (.ok (.returnStmt (some value)) (behindSemicolon place)) := by
  -- No token that starts an expression ends the statement.
  have valued : statement inner cursor = (do
      advance
      let value ← inner .lowest
      skipSemicolon
      return .returnStmt (some value) : ParseM Stmt) cursor := by
    rw [statement, current_bind, word]
    show (peek (m := ParseM) >>= _) cursor = _
    rw [peek_bind]
    revert starts
    cases cursor.peek.kind <;> intro starts <;> first | rfl | cases starts
  rw [valued, advance_bind]
  refine first.bind_eq ?_
  rw [skipSemicolon_bind]
  rfl

/-- Any other `statement` is an expression; no expression starts with a keyword of the other
statements. -/
theorem statement_expr {value : Expr} (starts : cursor.current.kind.startsOperand = true)
    (first : Leads (inner .lowest cursor) fits (.ok value place)) :
    Leads (statement inner cursor) fits (.ok (.exprStmt value) (behindSemicolon place)) := by
  -- The keywords of the other statements start no expression.
  have valued : statement inner cursor = (do
      let value ← inner .lowest
      skipSemicolon
      return .exprStmt value : ParseM Stmt) cursor := by
    rw [statement, current_bind]
    revert starts
    cases cursor.current.kind <;> intro starts <;> first | rfl | cases starts
  rw [valued]
  refine first.bind_eq ?_
  rw [skipSemicolon_bind]
  rfl

/-- The `statements` of a block end at a closing brace, which stays the current token. -/
theorem statements_done (closes : cursor.current.kind = .rbrace) :
    statements inner (bound + 1) cursor = .ok [] cursor := by
  rw [statements, current_bind, closes]
  rfl

/-- Any other token starts a statement before the others, behind which they are read. -/
theorem statements_leads {tree : Stmt} {trees : List Stmt}
    (starts : cursor.current.kind ≠ .rbrace ∧ cursor.current.kind ≠ .eof)
    (first : Leads (statement inner cursor) fits (.ok tree place))
    (rest : fits → Leads (statements inner bound place.advance) also (.ok trees last)) :
    Leads (statements inner (bound + 1) cursor) (fits ∧ also) (.ok (tree :: trees) last) := by
  have goes_on : statements inner (bound + 1) cursor = (do
      let first ← statement inner
      advance
      return first :: (← statements inner bound) : ParseM Block) cursor := by
    rw [statements, current_bind]
    revert starts
    cases cursor.current.kind <;> rintro ⟨not_closed, inside⟩ <;>
      first | rfl | exact absurd rfl not_closed | exact absurd rfl inside
  rw [goes_on]
  refine first.bind fun here => ?_
  rw [advance_bind]
  exact (rest here).bind_eq rfl

/-- A `block` holds the statements behind its opening brace, and ends where they do. -/
theorem block_apply (opens : cursor.peek.kind = .lbrace) :
    block inner bound cursor = statements inner bound cursor.advance.advance := by
  rw [block, bind_ok (expect_ok opens), advance_bind]

/-! ## Operands -/

/-- An expression is grouped by a closing parenthesis behind it, and the `group` leaves no trace in
the tree. -/
theorem group_leads {tree : Expr}
    (first : Leads (inner .lowest cursor.advance) fits (.ok tree place))
    (closes : place.peek.kind = .rparen) :
    Leads (group inner cursor) fits (.ok tree place.advance) := by
  rw [group, advance_bind]
  refine first.bind_eq ?_
  rw [bind_ok (expect_ok closes)]
  rfl

/-- An operand completes a `unary` operation; it is read at the precedence of unary operators. -/
theorem unary_leads {op : UnaryOp} {operand : Expr}
    (first : Leads (inner .unary cursor.advance) fits (.ok operand last)) :
    Leads (unary inner op cursor) fits (.ok (.unary op operand) last) := by
  rw [unary, advance_bind]
  exact first.bind_eq rfl

/-- A condition and a block that no `else` follows make a conditional without an alternative. -/
theorem conditional_then {condition : Expr} {consequence : Block}
    (opens : cursor.peek.kind = .lparen)
    (first : Leads (inner .lowest cursor.advance.advance) fits (.ok condition place))
    (closes : place.peek.kind = .rparen)
    (second : fits → Leads (block inner bound place.advance) also (.ok consequence last))
    (other : last.peek.kind ≠ .elseKw) :
    Leads (conditional inner bound cursor) (fits ∧ also)
      (.ok (.cond condition consequence none) last) := by
  rw [conditional, bind_ok (expect_ok opens), advance_bind]
  refine first.bind fun here => ?_
  rw [bind_ok (expect_ok closes)]
  refine (second here).bind_eq ?_
  rw [peek_bind, if_neg other]
  rfl

/-- A condition and two blocks with `else` between them make a conditional with an alternative. -/
theorem conditional_else {condition : Expr} {consequence alternative : Block} {body : Cursor}
    {last_fits : Prop} (opens : cursor.peek.kind = .lparen)
    (first : Leads (inner .lowest cursor.advance.advance) fits (.ok condition place))
    (closes : place.peek.kind = .rparen)
    (second : fits → Leads (block inner bound place.advance) also (.ok consequence body))
    (other : body.peek.kind = .elseKw)
    (third : fits → also →
      Leads (block inner bound body.advance) last_fits (.ok alternative last)) :
    Leads (conditional inner bound cursor) (fits ∧ also ∧ last_fits)
      (.ok (.cond condition consequence (some alternative)) last) := by
  rw [conditional, bind_ok (expect_ok opens), advance_bind]
  refine first.bind fun here => ?_
  rw [bind_ok (expect_ok closes)]
  refine (second here).bind fun there => ?_
  rw [peek_bind, if_pos other, advance_bind]
  exact (third here there).bind_eq rfl

/-- Parameters and a block make a `function`, with the names of the parameters as they are
written. -/
theorem function_leads {names : List String} {body : Block}
    (first : parameters (m := ParseM) bound cursor = .ok names place)
    (second : Leads (block inner bound place) fits (.ok body last)) :
    Leads (function inner bound cursor) fits (.ok (.fn names body) last) := by
  rw [function, bind_ok first]
  exact second.bind_eq rfl

/-- An integer literal is an integer if it denotes one by `Decimal.read?`; the literal is kept in
the tree. -/
theorem integer_ok {token : Token} {value : Int64}
    (read : Decimal.read? token.literal = some value) :
    integer (m := ParseM) token cursor = .ok (.int value token.literal) cursor := by
  rw [integer, read]
  rfl

namespace Context

variable {limit : Option Nat} {recorded : List ParseError} {reader : Nat → ExprReader}
  {floor : Precedence} {depth : Nat}

/-- One level deeper is allowed, or it is too deep: `descend` needs nothing but the depth to fit. -/
theorem descend_leads (token : Token) :
    Leads ((plain limit recorded).descend (m := ParseM) depth token cursor)
      (Within limit (depth + 1)) (.ok () cursor) := by
  refine ⟨fun within => descend_eq_ok_iff.2 ⟨within, rfl⟩, fun beyond => ?_⟩
  cases limit with
  | none => exact absurd nofun beyond
  | some most =>
    have deep : most ≤ depth := Nat.not_lt.1 fun shallow => beyond (Within.some_iff.2 shallow)
    refine ⟨.nestingTooDeep most token.position, cursor, ?_, rfl⟩
    simp only [descend_eq_checkDepth, checkDepth, if_pos deep, throw_apply]

/-- With the built-in rules alone the kind of the first token decides which `operand` is read. -/
theorem operand_apply :
    (plain limit recorded).operand inner bound cursor =
      (match cursor.current.kind with
        | .ident => return .ident cursor.current.literal
        | .int => integer cursor.current
        | .trueKw => return .bool true
        | .falseKw => return .bool false
        | .bang => unary inner .not
        | .minus => unary inner .neg
        | .lparen => group inner
        | .ifKw => conditional inner bound
        | .fnKw => function inner bound
        | _ => throw (.noOperand cursor.current) : ParseM Expr) cursor := rfl

/-- An expression ends where nothing follows that binds tighter than asked for. -/
theorem operators_stop {left : Expr} (loose : cursor.peek.kind.tightness ≤ floor.rank) :
    (plain limit recorded).operators reader floor bound depth left cursor =
      .ok left cursor :=
  operators_of_not_lt (Nat.not_lt.2 loose)

/-- An operator that binds tighter takes the expression before it further, one level deeper, and the
loop goes on behind the whole. -/
theorem operators_step {operator : Operator} {left whole : Expr}
    (stands : Operator.ofKind? cursor.peek.kind = some operator)
    (tighter : floor.rank < cursor.peek.kind.tightness)
    (taken : Within limit (depth + 1) →
      Leads ((plain limit recorded).operation (reader (depth + 1)) bound cursor.peek left
        (.builtin operator) cursor.advance) fits (.ok whole place)) :
    Leads ((plain limit recorded).operators reader floor (bound + 1) depth left cursor)
      (Within limit (depth + 1) ∧ fits)
      ((plain limit recorded).operators reader floor bound (depth + 1) whole place) := by
  rw [operators_plain tighter stands]
  exact (descend_leads _).bind fun within => (taken within).bind_eq rfl

/-- A binary `operation` is completed by its right operand, read at the precedence of the
operator. -/
theorem operation_binary {op : BinaryOp} {token : Token} {left right : Expr}
    (second : Leads (inner (.ofKind token.kind) cursor.advance) fits (.ok right place)) :
    Leads ((plain limit recorded).operation inner bound token left (.builtin (.binary op)) cursor)
      fits (.ok (.binary op left right) place) := by
  rw [operation, advance_bind]
  exact second.bind_eq rfl

/-- A call is completed by its arguments, behind the parenthesis that is its operator. -/
theorem operation_call {token : Token} {left : Expr} {trees : List Expr}
    (second : Leads (arguments inner bound cursor) fits (.ok trees place)) :
    Leads ((plain limit recorded).operation inner bound token left (.builtin .call) cursor) fits
      (.ok (.call left trees) place) :=
  second.bind_eq rfl

/-- An expression goes on from its first operand, one level deeper than where it stands. -/
theorem expressionStep_leads {first : Expr}
    (started : Within limit (depth + 1) →
      Leads ((plain limit recorded).operand (reader (depth + 1)) bound cursor) fits
        (.ok first place)) :
    Leads ((plain limit recorded).expressionStep reader bound depth floor cursor)
      (Within limit (depth + 1) ∧ fits)
      ((plain limit recorded).operators reader floor bound (depth + 1) first place) := by
  rw [expressionStep, current_bind]
  exact (descend_leads _).bind fun within => (started within).bind_eq rfl

end Context

end Monkey.Parse
