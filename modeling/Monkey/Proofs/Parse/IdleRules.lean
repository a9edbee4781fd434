import Monkey.Proofs.Parse.Bounds
import Monkey.Syntax.Equality

/-! # Rules that are never asked

How tightly a token binds is looked up before what is done at it is. A kind without an entry in
`Precedence.table` is as low as `Precedence.lowest`, nothing is below that, and so an expression is
never carried on at such a kind: an operator rule that is set for it is not looked up by
`Context.operators`. Only recovery looks it up, to see whether an expression goes on behind a
closing brace. Grammars that differ in such rules alone therefore read every statement alike, and up
to the first statement that is broken they read the same.

* `Grammar.ReadsAs` — grammars that differ in such rules alone; `Grammar.readsAs_setOperator`.
* `Context.operators_readsAs`, `Context.expression_readsAs` — they read the same expressions.
* `Grammar.parseFrom_readsAs`, `Grammar.parse_setOperator` — and the same programs, up to the first
  error. -/

namespace Monkey

open Parse ParseM

namespace Grammar

/-- **Grammars that read alike**: they have the same nesting limit and the same rules, and find the
same things done at the operators that have an entry in `Precedence.table`. -/
structure ReadsAs (grammar other : Grammar) : Prop where
  operand : grammar.rules.operand = other.rules.operand
  action? {kind : TokenKind} : kind ∈ Precedence.table.map Prod.fst →
    grammar.rules.action? kind = other.rules.action? kind
  nestingLimit : grammar.nestingLimit = other.nestingLimit

/-- One more operator rule, at a kind without an entry in `Precedence.table`, makes a grammar that
reads as it did. -/
theorem readsAs_setOperator (grammar : Grammar) {kind : TokenKind}
    (absent : kind ∉ Precedence.table.map Prod.fst) (rule : OperatorRule) :
    grammar.ReadsAs { grammar with rules := grammar.rules.setOperator kind rule } where
  operand := rfl
  action? {other} mem := by
    have apart : other ≠ kind := by
      rintro rfl
      exact absent mem
    exact (grammar.rules.action?_setOperator_of_ne rule apart).symm
  nestingLimit := rfl

end Grammar

/-! ## Statements -/

namespace Parse.Context

variable {grammar other : Grammar} (same : grammar.ReadsAs other) (recorded : List ParseError)

include same

/-- Both go one level deeper at the same time. -/
theorem descend_readsAs (depth : Nat) (token : Token) :
    descend (m := ParseM) ⟨grammar, recorded⟩ depth token =
      descend ⟨other, recorded⟩ depth token := by
  rw [descend.eq_def, descend.eq_def, same.nestingLimit]

/-- Operands are read by the same rules. -/
theorem operand_readsAs (inner : ExprReader) (bound : Nat) :
    operand ⟨grammar, recorded⟩ inner bound = operand ⟨other, recorded⟩ inner bound := by
  simp only [operand, same.operand]

/-- The operators behind an operand are read alike. -/
theorem operators_readsAs (reader : Nat → ExprReader) (floor : Precedence) (bound depth : Nat)
    (left : Expr) :
    operators ⟨grammar, recorded⟩ reader floor bound depth left =
      operators ⟨other, recorded⟩ reader floor bound depth left := by
  -- Along the bound: one operator more for each round, as long as the next token binds tighter.
  induction bound generalizing depth left with
  | zero => rfl
  | succ bound ih =>
    rw [operators, operators]
    refine bind_congr fun token => ?_
    by_cases tighter : floor < .ofKind token.kind
    · -- Nothing is below `lowest`, so the kind stands in the table, where both find the same.
      rw [same.action? (Precedence.mem_table_of_lt_ofKind tighter)]
      simp only [ih, descend_readsAs same]
      rfl
    · -- Neither looks for anything to do.
      have stops : ¬(token.kind ≠ .semicolon ∧ floor < .ofKind token.kind) :=
        fun goesOn => tighter goesOn.2
      rw [if_neg stops, if_neg stops]

/-- Expressions are read alike, at every depth and behind whatever errors. -/
theorem expression_readsAs (bound : Nat) :
    expression ⟨grammar, recorded⟩ bound = expression ⟨other, recorded⟩ bound := by
  have step (reader : Nat → ExprReader) (bound depth : Nat) :
      expressionStep ⟨grammar, recorded⟩ reader bound depth =
        expressionStep ⟨other, recorded⟩ reader bound depth := by
    funext floor
    simp only [expressionStep, descend_readsAs same, operand_readsAs same, operators_readsAs same]
  induction bound with
  | zero => exact funext (step _ 0)
  | succ bound ih =>
    rw [expression, expression, ih]
    exact funext (step _ (bound + 1))

end Parse.Context

/-! ## Programs -/

namespace Grammar

variable {grammar other : Grammar} {bound : Nat} {recorded : List ParseError} {cursor : Cursor}

/-- Whatever the bound, as long as it is enough, the rest of a stream is read as the same. -/
theorem parseFrom_congr {bound' : Nat} (enough : cursor.size ≤ bound)
    (enough' : cursor.size ≤ bound') :
    grammar.parseFrom bound recorded cursor = grammar.parseFrom bound' recorded cursor := by
  have same {bound : Nat} (enough : cursor.size ≤ bound) :=
    Correspondence.items_eq (Correspondence.grammars_exact grammar cursor.size)
      (rfl : recorded = recorded) (Nat.lt_succ_self _) enough
  exact Option.some.inj ((same enough).symm.trans (same enough'))

/-- Where reading goes on behind a statement that failed at a place. -/
def resume (grammar : Grammar) (start place : Cursor) : Cursor :=
  (place.recover grammar.rules start.openedThrough).advance

/-- What is read behind a statement that failed at a place. -/
def parseBehind (grammar : Grammar) (start place : Cursor) (errors : List ParseError) :
    ParseOutcome :=
  grammar.parseFrom (grammar.resume start place).size errors (grammar.resume start place)

/-- Two grammars that read alike make the same statement of a place and go on behind it at the same
place, or fail there with the same error and at the same place. -/
theorem parseItem_readsAs (same : grammar.ReadsAs other) (bound : Nat)
    (recorded : List ParseError) (cursor : Cursor) :
    (∃ tree next, grammar.parseItem bound recorded cursor = (⟨cursor, .ok tree⟩, next) ∧
        other.parseItem bound recorded cursor = (⟨cursor, .ok tree⟩, next)) ∨
      ∃ error place,
        grammar.parseItem bound recorded cursor =
            (⟨cursor, .error error⟩, grammar.resume cursor place) ∧
          other.parseItem bound recorded cursor =
            (⟨cursor, .error error⟩, other.resume cursor place) := by
  rw [parseItem, parseItem, ← Context.expression_readsAs same]
  cases statement (Context.expression ⟨grammar, recorded⟩ bound 0) cursor with
  | ok tree last => exact .inl ⟨tree, last.advance, rfl, rfl⟩
  | error error place => exact .inr ⟨error, place, rfl, rfl⟩

/-- Two grammars that read alike read the same up to the first error. -/
theorem parseFrom_readsAs (same : grammar.ReadsAs other) (enough : cursor.size ≤ bound) :
    let outcome := grammar.parseFrom bound recorded cursor
    let outcome' := other.parseFrom bound recorded cursor
    (outcome = outcome' ∧ outcome.errors = []) ∨
      ∃ before start place error, (∀ item ∈ before, item.error? = none) ∧
        outcome.items = before ++ ⟨start, .error error⟩ ::
          (grammar.parseBehind start place (error :: recorded)).items ∧
        outcome'.items = before ++ ⟨start, .error error⟩ ::
          (other.parseBehind start place (error :: recorded)).items := by
  -- Along the statements: as long as they can be read, both go on at the same place.
  induction bound generalizing cursor with
  | zero => exact .inl ⟨rfl, rfl⟩
  | succ bound ih =>
    by_cases ended : cursor.atEnd = true
    · rw [parseFrom_atEnd ended, parseFrom_atEnd ended]
      exact .inl ⟨rfl, rfl⟩
    · obtain ⟨tree, next, read, read'⟩ | ⟨error, place, read, read'⟩ :=
        parseItem_readsAs same (bound + 1) recorded cursor
      · intro outcome outcome'
        have items : outcome.items = _ := parseFrom_inside ended read
        have items' : outcome'.items = _ := parseFrom_inside ended read'
        obtain ⟨whole, clean⟩ | ⟨before, start, place, error, good, rest, rest'⟩ :=
          ih (size_parseItem_le enough read)
        · refine .inl ⟨?_, ?_⟩
          · show grammar.parseFrom _ _ _ = other.parseFrom _ _ _
            rw [parseFrom, parseFrom, if_neg ended, if_neg ended, read, read']
            simp only [ParsedItem.error?, Option.toList_none, List.nil_append, whole]
          · rw [(parseFrom_ok ended read).1, clean]
        · refine .inr ⟨⟨cursor, .ok tree⟩ :: before, start, place, error, ?_, ?_, ?_⟩
          · exact List.forall_mem_cons.2 ⟨rfl, good⟩
          · exact items.trans (congrArg (_ :: ·) rest)
          · exact items'.trans (congrArg (_ :: ·) rest')
      · -- Both fail here, and each goes on where its own recovery leads.
        refine .inr ⟨[], cursor, place, error, List.forall_mem_nil _, ?_, ?_⟩
        · refine (parseFrom_inside ended read).trans (congrArg (_ :: ·) ?_)
          rw [parseBehind, parseFrom_congr (size_parseItem_le enough read) (Nat.le_refl _)]
          rfl
        · refine (parseFrom_inside ended read').trans (congrArg (_ :: ·) ?_)
          rw [parseBehind, parseFrom_congr (size_parseItem_le enough read') (Nat.le_refl _)]
          rfl

/-- **One more operator rule**, at a kind without an entry in `Precedence.table`, changes nothing up
to the first error, whatever rules the grammar has. Either no error is recorded before or after, and
the program is the same; or the same statements are read, and the one behind them starts at the same
place and fails with the same error at the same place. What is different then is only where recovery
leads from there. -/
theorem parse_setOperator (grammar : Grammar) {kind : TokenKind}
    (absent : kind ∉ Precedence.table.map Prod.fst) (rule : OperatorRule) (stream : TokenStream) :
    let more : Grammar := { grammar with rules := grammar.rules.setOperator kind rule }
    let outcome := grammar.parse stream
    let outcome' := more.parse stream
    (outcome.errors = [] ∧ outcome'.errors = [] ∧ outcome.program = outcome'.program) ∨
      ∃ before start place error, (∀ item ∈ before, item.error? = none) ∧
        outcome.items =
          before ++ ⟨start, .error error⟩ :: (grammar.parseBehind start place [error]).items ∧
        outcome'.items =
          before ++ ⟨start, .error error⟩ :: (more.parseBehind start place [error]).items := by
  intro more outcome outcome'
  obtain ⟨same, clean⟩ | broken :=
    parseFrom_readsAs (readsAs_setOperator grammar absent rule)
      (Nat.le_refl (Cursor.start stream).size)
  · have same : outcome = outcome' := same
    exact .inl ⟨clean, same ▸ clean, congrArg ParseOutcome.program same⟩
  · exact .inr broken

/-- A rule for names makes a name behind a closing brace go on with what failed within the braces.
So both fail alike in `fn() { ) } x; y`, and then only one of them reads the `x`. -/
theorem parse_setOperator_ident :
    let rule : OperatorRule := fun _ _ left => .ok left
    let more : Grammar := { standard with rules := standard.rules.setOperator .ident rule }
    let token (kind : TokenKind) (literal : String) : Token := ⟨kind, literal, .start⟩
    let stream : TokenStream := ⟨[token .fnKw "fn", token .lparen "(", token .rparen ")",
      token .lbrace "\x7b", token .rparen ")", token .rbrace "\x7d", token .ident "x",
      token .semicolon ";", token .ident "y"], .start⟩
    .ident ∉ Precedence.table.map Prod.fst ∧
      (∃ before start place error, (∀ item ∈ before, item.error? = none) ∧
        (standard.parse stream).items =
          before ++ ⟨start, .error error⟩ :: (standard.parseBehind start place [error]).items ∧
        (more.parse stream).items =
          before ++ ⟨start, .error error⟩ :: (more.parseBehind start place [error]).items) ∧
      (standard.parse stream).statements = [.exprStmt (.ident "x"), .exprStmt (.ident "y")] ∧
      (more.parse stream).statements = [.exprStmt (.ident "y")] := by
  intro rule more token stream
  have absent : .ident ∉ Precedence.table.map Prod.fst := by decide
  have broken : (standard.parse stream).errors ≠ [] := by decide +kernel
  refine ⟨absent, ?_, by decide +kernel, by decide +kernel⟩
  obtain ⟨clean, -, -⟩ | both := parse_setOperator standard absent rule stream
  · exact absurd clean broken
  · exact both

end Grammar

end Monkey
