import Monkey.Proofs.Parse.Outcome
import Monkey.Proofs.Parse.Tightness

/-! # What a reader has read

For each reader of `Parse` what its success says: which tokens it saw, which inner readers it
used, and where it stopped. Proofs about what is read go through these lemmas, from
`parameters_eq_ok` to `expressionStep_eq_ok`, and need no reader's text. Where operands and
operators are concerned they are about the built-in rules alone (`plain`). -/

namespace Monkey.Parse

open ParseM

variable {inner : ExprReader} {bound : Nat} {cursor last : Cursor}

/-- A list of parameters is empty, or it is a name and more of them, as `moreParameters` reads them.
-/
theorem parameters_eq_ok {names : List String}
    (run : parameters (m := ParseM) bound cursor = .ok names last) :
    cursor.peek.kind = .lparen ∧
      ((cursor.advance.peek.kind = .rparen ∧ names = [] ∧ last = cursor.advance.advance) ∨
        (cursor.advance.peek.kind = .ident ∧ ∃ more, names = cursor.advance.peek.literal :: more ∧
          moreParameters (m := ParseM) bound cursor.advance.advance = .ok more last)) := by
  simp only [parameters, expect_bind_eq_ok_iff, peek_bind] at run
  obtain ⟨opens, run⟩ := run
  refine ⟨opens, ?_⟩
  split at run
  · next closes =>
    -- nothing between the parentheses
    simp only [advance_bind, pure_apply, EStateM.Result.ok.injEq] at run
    exact .inl ⟨closes, run.1.symm, run.2.symm⟩
  · -- a name first
    rw [expect_bind_eq_ok_iff] at run
    obtain ⟨named, run⟩ := run
    simp only [bind_eq_ok_iff, pure_apply, EStateM.Result.ok.injEq] at run
    obtain ⟨more, place, rest, rfl, rfl⟩ := run
    exact .inr ⟨named, more, rfl, rest⟩

/-- After a parameter the list ends, or a comma and one more name come, and a bound that is one
less. -/
theorem moreParameters_eq_ok {names : List String}
    (run : moreParameters (m := ParseM) bound cursor = .ok names last) :
    (cursor.peek.kind = .rparen ∧ names = [] ∧ last = cursor.advance) ∨
      (cursor.peek.kind = .comma ∧ cursor.advance.peek.kind = .ident ∧ ∃ fewer more,
        bound = fewer + 1 ∧ names = cursor.advance.peek.literal :: more ∧
        moreParameters (m := ParseM) fewer cursor.advance.advance = .ok more last) := by
  cases bound with
  | zero =>
    -- Without a round left only the closing parenthesis is taken.
    simp only [moreParameters, spent_eq, expect_bind_eq_ok_iff, pure_apply,
      EStateM.Result.ok.injEq] at run
    exact .inl ⟨run.1, run.2.1.symm, run.2.2.symm⟩
  | succ fewer =>
    simp only [moreParameters, peek_bind] at run
    split at run
    · next comma =>
      rw [advance_bind, expect_bind_eq_ok_iff] at run
      obtain ⟨named, run⟩ := run
      simp only [bind_eq_ok_iff, pure_apply, EStateM.Result.ok.injEq] at run
      obtain ⟨more, place, rest, rfl, rfl⟩ := run
      exact .inr ⟨comma, named, fewer, more, rfl, rfl, rest⟩
    · simp only [expect_bind_eq_ok_iff, pure_apply, EStateM.Result.ok.injEq] at run
      exact .inl ⟨run.1, run.2.1.symm, run.2.2.symm⟩

/-- A list of arguments is empty, or it is an expression and more of them, as `moreArguments` reads
them. -/
theorem arguments_eq_ok {trees : List Expr} (run : arguments inner bound cursor = .ok trees last) :
    (cursor.peek.kind = .rparen ∧ trees = [] ∧ last = cursor.advance) ∨
      ∃ tree more place, trees = tree :: more ∧ inner .lowest cursor.advance = .ok tree place ∧
        moreArguments inner bound place = .ok more last := by
  simp only [arguments, peek_bind] at run
  split at run
  · next closes =>
    simp only [advance_bind, pure_apply, EStateM.Result.ok.injEq] at run
    exact .inl ⟨closes, run.1.symm, run.2.symm⟩
  · rw [advance_bind] at run
    simp only [bind_eq_ok_iff, pure_apply, EStateM.Result.ok.injEq] at run
    obtain ⟨tree, place, first, more, end_, rest, rfl, rfl⟩ := run
    exact .inr ⟨tree, more, place, rfl, first, rest⟩

/-- After an argument the list ends, or a comma and one more expression come, and a bound that is
one less. -/
theorem moreArguments_eq_ok {trees : List Expr}
    (run : moreArguments inner bound cursor = .ok trees last) :
    (cursor.peek.kind = .rparen ∧ trees = [] ∧ last = cursor.advance) ∨
      (cursor.peek.kind = .comma ∧ ∃ fewer tree more place, bound = fewer + 1 ∧
        trees = tree :: more ∧ inner .lowest cursor.advance.advance = .ok tree place ∧
        moreArguments inner fewer place = .ok more last) := by
  cases bound with
  | zero =>
    -- Without a round left only the closing parenthesis is taken.
    simp only [moreArguments, spent_eq, expect_bind_eq_ok_iff, pure_apply,
      EStateM.Result.ok.injEq] at run
    exact .inl ⟨run.1, run.2.1.symm, run.2.2.symm⟩
  | succ fewer =>
    simp only [moreArguments, peek_bind] at run
    split at run
    · next comma =>
      rw [advance_bind, advance_bind] at run
      simp only [bind_eq_ok_iff, pure_apply, EStateM.Result.ok.injEq] at run
      obtain ⟨tree, place, first, more, end_, rest, rfl, rfl⟩ := run
      exact .inr ⟨comma, fewer, tree, more, place, rfl, rfl, first, rest⟩
    · simp only [expect_bind_eq_ok_iff, pure_apply, EStateM.Result.ok.injEq] at run
      exact .inl ⟨run.1, run.2.1.symm, run.2.2.symm⟩

/-- A `statement` is a binding, a return with or without a value, or an expression; a semicolon
behind it is passed. -/
theorem statement_eq_ok {tree : Stmt} (run : statement inner cursor = .ok tree last) :
    (∃ value place, cursor.current.kind = .letKw ∧ cursor.peek.kind = .ident ∧
        cursor.advance.peek.kind = .assign ∧ tree = .letStmt cursor.peek.literal value ∧
        inner .lowest cursor.advance.advance.advance = .ok value place ∧
        last = behindSemicolon place) ∨
      (cursor.current.kind = .returnKw ∧ cursor.peek.kind = .semicolon ∧
        tree = .returnStmt none ∧ last = cursor.advance) ∨
      (cursor.current.kind = .returnKw ∧ (cursor.peek.kind = .rbrace ∨ cursor.peek.kind = .eof) ∧
        tree = .returnStmt none ∧ last = cursor) ∨
      (∃ value place, cursor.current.kind = .returnKw ∧ tree = .returnStmt (some value) ∧
        inner .lowest cursor.advance = .ok value place ∧ last = behindSemicolon place) ∨
      (∃ value place, tree = .exprStmt value ∧ inner .lowest cursor = .ok value place ∧
        last = behindSemicolon place) := by
  rw [statement, current_bind] at run
  -- The first token decides the form, and behind `return` the second one does.
  generalize cursor.current.kind = kind at run
  split at run
  · -- `let`
    rw [expect_bind_eq_ok_iff] at run
    obtain ⟨named, run⟩ := run
    rw [expect_bind_eq_ok_iff] at run
    obtain ⟨assigned, run⟩ := run
    rw [advance_bind, bind_eq_ok_iff] at run
    obtain ⟨value, place, first, run⟩ := run
    simp only [skipSemicolon_bind, pure_apply, EStateM.Result.ok.injEq] at run
    exact .inl ⟨value, place, rfl, named, assigned, run.1.symm, first, run.2.symm⟩
  · -- `return`
    rw [peek_bind] at run
    generalize cursor.peek.kind = kind at run
    split at run
    · -- a semicolon
      simp only [advance_bind, pure_apply, EStateM.Result.ok.injEq] at run
      exact .inr (.inl ⟨rfl, rfl, run.1.symm, run.2.symm⟩)
    · -- a closing brace
      simp only [pure_apply, EStateM.Result.ok.injEq] at run
      exact .inr (.inr (.inl ⟨rfl, .inl rfl, run.1.symm, run.2.symm⟩))
    · -- the end of the input
      simp only [pure_apply, EStateM.Result.ok.injEq] at run
      exact .inr (.inr (.inl ⟨rfl, .inr rfl, run.1.symm, run.2.symm⟩))
    · -- a value
      rw [advance_bind, bind_eq_ok_iff] at run
      obtain ⟨value, place, first, run⟩ := run
      simp only [skipSemicolon_bind, pure_apply, EStateM.Result.ok.injEq] at run
      exact .inr (.inr (.inr (.inl ⟨value, place, rfl, run.1.symm, first, run.2.symm⟩)))
  · -- an expression
    rw [bind_eq_ok_iff] at run
    obtain ⟨value, place, first, run⟩ := run
    simp only [skipSemicolon_bind, pure_apply, EStateM.Result.ok.injEq] at run
    exact .inr (.inr (.inr (.inr ⟨value, place, run.1.symm, first, run.2.symm⟩)))

/-- The `statements` of a block end at a closing brace, or one comes before the others, and a bound
that is one less. -/
theorem statements_eq_ok {trees : Block} (run : statements inner bound cursor = .ok trees last) :
    (cursor.current.kind = .rbrace ∧ trees = [] ∧ last = cursor) ∨
      ∃ fewer tree more place, bound = fewer + 1 ∧ trees = tree :: more ∧
        statement inner cursor = .ok tree place ∧
        statements inner fewer place.advance = .ok more last := by
  cases bound with
  | zero =>
    simp only [statements, spent_eq, current_bind, throw_apply] at run
    cases run
  | succ fewer =>
    rw [statements, current_bind] at run
    generalize cursor.current.kind = kind at run
    split at run
    · simp only [pure_apply, EStateM.Result.ok.injEq] at run
      exact .inl ⟨rfl, run.1.symm, run.2.symm⟩
    · simp only [throw_apply] at run
      cases run
    · rw [bind_eq_ok_iff] at run
      obtain ⟨tree, place, first, run⟩ := run
      rw [advance_bind] at run
      simp only [bind_eq_ok_iff, pure_apply, EStateM.Result.ok.injEq] at run
      obtain ⟨more, end_, rest, rfl, rfl⟩ := run
      exact .inr ⟨fewer, tree, more, place, rfl, rfl, first, rest⟩

/-- A `block` is an opening brace and the statements behind it, up to its closing brace. -/
theorem block_eq_ok {trees : Block} (run : block inner bound cursor = .ok trees last) :
    cursor.peek.kind = .lbrace ∧
      statements inner bound cursor.advance.advance = .ok trees last := by
  simpa only [block, expect_bind_eq_ok_iff, advance_bind] using run

/-- A `group` is an expression before a closing parenthesis, at which the reader stops. -/
theorem group_eq_ok {tree : Expr} (run : group inner cursor = .ok tree last) :
    ∃ place, inner .lowest cursor.advance = .ok tree place ∧ place.peek.kind = .rparen ∧
      last = place.advance := by
  rw [group, advance_bind, bind_eq_ok_iff] at run
  obtain ⟨value, place, first, run⟩ := run
  simp only [expect_bind_eq_ok_iff, pure_apply, EStateM.Result.ok.injEq] at run
  obtain ⟨closes, rfl, rfl⟩ := run
  exact ⟨place, first, closes, rfl⟩

/-- A `unary` operation is an operator and an operand that binds as tightly, read by the inner
reader. -/
theorem unary_eq_ok {op : UnaryOp} {tree : Expr} (run : unary inner op cursor = .ok tree last) :
    ∃ operand, tree = .unary op operand ∧ inner .unary cursor.advance = .ok operand last := by
  rw [unary, advance_bind] at run
  simp only [bind_eq_ok_iff, pure_apply, EStateM.Result.ok.injEq] at run
  obtain ⟨operand, place, first, rfl, rfl⟩ := run
  exact ⟨operand, rfl, first⟩

/-- A conditional is a condition in parentheses, a block, and perhaps a block behind `else`. -/
theorem conditional_eq_ok {tree : Expr} (run : conditional inner bound cursor = .ok tree last) :
    ∃ condition test consequence body, cursor.peek.kind = .lparen ∧
      inner .lowest cursor.advance.advance = .ok condition test ∧ test.peek.kind = .rparen ∧
      block inner bound test.advance = .ok consequence body ∧
      ((body.peek.kind ≠ .elseKw ∧ tree = .cond condition consequence none ∧ last = body) ∨
        ∃ alternative, body.peek.kind = .elseKw ∧
          block inner bound body.advance = .ok alternative last ∧
          tree = .cond condition consequence (some alternative)) := by
  rw [conditional, expect_bind_eq_ok_iff] at run
  obtain ⟨opens, run⟩ := run
  rw [advance_bind, bind_eq_ok_iff] at run
  obtain ⟨condition, test, first, run⟩ := run
  rw [expect_bind_eq_ok_iff] at run
  obtain ⟨closes, run⟩ := run
  rw [bind_eq_ok_iff] at run
  obtain ⟨consequence, body, second, run⟩ := run
  refine ⟨condition, test, consequence, body, opens, first, closes, second, ?_⟩
  rw [peek_bind] at run
  split at run
  · next other =>
    -- `else` and a second block
    rw [advance_bind] at run
    simp only [bind_eq_ok_iff, pure_apply, EStateM.Result.ok.injEq] at run
    obtain ⟨alternative, place, third, rfl, rfl⟩ := run
    exact .inr ⟨alternative, other, third, rfl⟩
  · next other =>
    simp only [pure_apply, EStateM.Result.ok.injEq] at run
    exact .inl ⟨other, run.1.symm, run.2.symm⟩

/-- A `function` is a list of parameters and a block, at whose end the reader stops. -/
theorem function_eq_ok {tree : Expr} (run : function inner bound cursor = .ok tree last) :
    ∃ names place body, parameters (m := ParseM) bound cursor = .ok names place ∧
      block inner bound place = .ok body last ∧ tree = .fn names body := by
  simp only [function, bind_eq_ok_iff, pure_apply, EStateM.Result.ok.injEq] at run
  obtain ⟨names, place, first, body, end_, second, rfl, rfl⟩ := run
  exact ⟨names, place, body, first, second, rfl⟩

/-- An integer is a literal that denotes a signed 64-bit integer by `Decimal.read?`, and is kept
with it. -/
theorem integer_eq_ok {token : Token} {tree : Expr}
    (run : integer (m := ParseM) token cursor = .ok tree last) :
    ∃ value, Decimal.read? token.literal = some value ∧ tree = .int value token.literal ∧
      last = cursor := by
  unfold integer at run
  generalize Decimal.read? token.literal = read at run
  split at run
  · next value =>
    simp only [pure_apply, EStateM.Result.ok.injEq] at run
    exact ⟨value, rfl, run.1.symm, run.2.symm⟩
  · simp only [throw_apply] at run
    cases run

namespace Context

variable {limit : Option Nat} {recorded : List ParseError}

/-- Where a statement is read by the built-in rules alone, with some errors recorded before it. -/
abbrev plain (limit : Option Nat) (recorded : List ParseError) : Context :=
  ⟨⟨.builtin, limit⟩, recorded⟩

/-- An expression goes on only as deep as the limit allows, and going deeper is no move. -/
theorem descend_eq_ok_iff {depth : Nat} {token : Token} {done : Unit} :
    (plain limit recorded).descend (m := ParseM) depth token cursor = .ok done last ↔
      Within limit (depth + 1) ∧ cursor = last := by
  rw [descend_eq_checkDepth]
  cases limit with
  | none =>
    constructor
    · rintro ⟨⟩
      exact ⟨nofun, rfl⟩
    · rintro ⟨-, rfl⟩
      rfl
  | some most =>
    rw [Within.some_iff]
    by_cases deep : most ≤ depth
    · simp only [checkDepth, if_pos deep]
      constructor
      · nofun
      · rintro ⟨allowed, -⟩
        exact absurd deep (Nat.not_le.2 allowed)
    · simp only [checkDepth, if_neg deep]
      constructor
      · rintro ⟨⟩
        exact ⟨Nat.not_le.1 deep, rfl⟩
      · rintro ⟨-, rfl⟩
        rfl

/-- An operand is one of the built-in forms, as its first token says: one case for each `TokenKind`
that starts one. -/
theorem operand_eq_ok {tree : Expr}
    (run : (plain limit recorded).operand inner bound cursor = .ok tree last) :
    (cursor.current.kind = .ident ∧ tree = .ident cursor.current.literal ∧ last = cursor) ∨
      (cursor.current.kind = .int ∧ integer (m := ParseM) cursor.current cursor = .ok tree last) ∨
      (cursor.current.kind = .trueKw ∧ tree = .bool true ∧ last = cursor) ∨
      (cursor.current.kind = .falseKw ∧ tree = .bool false ∧ last = cursor) ∨
      (∃ op : UnaryOp, cursor.current.kind = op.kind ∧ unary inner op cursor = .ok tree last) ∨
      (cursor.current.kind = .lparen ∧ group inner cursor = .ok tree last) ∨
      (cursor.current.kind = .ifKw ∧ conditional inner bound cursor = .ok tree last) ∨
      (cursor.current.kind = .fnKw ∧ function inner bound cursor = .ok tree last) := by
  -- The built-in rules add no forms, so the kind of the first token decides.
  rw [operand, current_bind] at run
  simp only [Rules.builtin] at run
  generalize cursor.current.kind = kind at run
  split at run
  · simp only [pure_apply, EStateM.Result.ok.injEq] at run
    exact .inl ⟨rfl, run.1.symm, run.2.symm⟩
  · exact .inr (.inl ⟨rfl, run⟩)
  · simp only [pure_apply, EStateM.Result.ok.injEq] at run
    exact .inr (.inr (.inl ⟨rfl, run.1.symm, run.2.symm⟩))
  · simp only [pure_apply, EStateM.Result.ok.injEq] at run
    exact .inr (.inr (.inr (.inl ⟨rfl, run.1.symm, run.2.symm⟩)))
  · exact .inr (.inr (.inr (.inr (.inl ⟨.not, rfl, run⟩))))
  · exact .inr (.inr (.inr (.inr (.inl ⟨.neg, rfl, run⟩))))
  · exact .inr (.inr (.inr (.inr (.inr (.inl ⟨rfl, run⟩)))))
  · exact .inr (.inr (.inr (.inr (.inr (.inr (.inl ⟨rfl, run⟩))))))
  · exact .inr (.inr (.inr (.inr (.inr (.inr (.inr ⟨rfl, run⟩))))))
  · simp only [throw_apply] at run
    cases run

variable {reader : Nat → ExprReader} {floor : Precedence} {depth : Nat}

/-- With the built-in rules alone a token that binds tighter than `floor` stands for one of their
operators, and that is what is done there. -/
theorem operators_plain {operator : Operator} {left : Expr}
    (tighter : floor < .ofKind cursor.peek.kind)
    (stands : Operator.ofKind? cursor.peek.kind = some operator) :
    (plain limit recorded).operators reader floor (bound + 1) depth left cursor =
      (do
        (plain limit recorded).descend depth cursor.peek
        let whole ← (plain limit recorded).operation (reader (depth + 1)) bound cursor.peek left
          (.builtin operator)
        (plain limit recorded).operators reader floor bound (depth + 1) whole) cursor.advance := by
  refine operators_of_lt tighter ?_
  rw [Rules.action?_builtin, stands, Option.map_some]

/-- After an operand the expression ends, or a binary operator or a call that binds tighter than
`floor` takes it further. -/
theorem operators_eq_ok {left tree : Expr}
    (run : (plain limit recorded).operators reader floor bound depth left cursor = .ok tree last) :
    (tree = left ∧ last = cursor ∧ (bound = 0 ∨ cursor.peek.kind.tightness ≤ floor.rank)) ∨
      ∃ fewer, bound = fewer + 1 ∧ Within limit (depth + 1) ∧
        ((∃ op right place, cursor.peek.kind = op.kind ∧ floor.rank < op.precedence.rank ∧
            reader (depth + 1) op.precedence cursor.advance.advance = .ok right place ∧
            (plain limit recorded).operators reader floor fewer (depth + 1)
              (.binary op left right) place = .ok tree last) ∨
          ∃ trees place, cursor.peek.kind = .lparen ∧
            arguments (reader (depth + 1)) fewer cursor.advance = .ok trees place ∧
            (plain limit recorded).operators reader floor fewer (depth + 1) (.call left trees)
              place = .ok tree last) := by
  by_cases tighter : floor < .ofKind cursor.peek.kind
  · cases bound with
    | zero =>
      simp only [operators, spent_eq, pure_apply, EStateM.Result.ok.injEq] at run
      exact .inl ⟨run.1.symm, run.2.symm, .inl rfl⟩
    | succ fewer =>
      -- a token that binds tighter is an operator, which takes a level
      obtain ⟨operator, stands⟩ := Operator.exists_ofKind?_of_lt tighter
      rw [operators_plain tighter stands, bind_eq_ok_iff] at run
      obtain ⟨_, place, descended, run⟩ := run
      obtain ⟨within, rfl⟩ := descend_eq_ok_iff.1 descended
      rw [bind_eq_ok_iff] at run
      obtain ⟨whole, place, taken, rest⟩ := run
      refine .inr ⟨fewer, rfl, within, ?_⟩
      cases operator with
      | binary op =>
        have sign := TokenKind.eq_kind_of_binary stands
        simp only [operation, advance_bind, bind_eq_ok_iff, pure_apply,
          EStateM.Result.ok.injEq] at taken
        obtain ⟨right, _, second, rfl, rfl⟩ := taken
        rw [sign] at tighter second
        exact .inl ⟨op, right, _, sign, tighter, second, rest⟩
      | call =>
        simp only [operation, bind_eq_ok_iff, pure_apply, EStateM.Result.ok.injEq] at taken
        obtain ⟨trees, _, second, rfl, rfl⟩ := taken
        exact .inr ⟨trees, _, TokenKind.eq_lparen_of_call stands, second, rest⟩
  · -- what comes next is left to whoever asked for this expression
    rw [operators_of_not_lt tighter, EStateM.Result.ok.injEq] at run
    exact .inl ⟨run.1.symm, run.2.symm, .inr (Nat.not_lt.1 tighter)⟩

/-- An expression is an operand and the operators after it, one level deeper than where it stands.
-/
theorem expressionStep_eq_ok {tree : Expr}
    (run : (plain limit recorded).expressionStep reader bound depth floor cursor = .ok tree last) :
    Within limit (depth + 1) ∧ ∃ first place,
      (plain limit recorded).operand (reader (depth + 1)) bound cursor = .ok first place ∧
      (plain limit recorded).operators reader floor bound (depth + 1) first place =
        .ok tree last := by
  rw [expressionStep, current_bind, bind_eq_ok_iff] at run
  obtain ⟨_, place, descended, run⟩ := run
  obtain ⟨within, rfl⟩ := descend_eq_ok_iff.1 descended
  rw [bind_eq_ok_iff] at run
  exact ⟨within, run⟩

end Context

end Monkey.Parse
