import Monkey.Eval.Basic

/-! # Integer arithmetic

Expressions that are made of integer literals, negation and the four operations on integers, as
trees of their own: `Arithmetic`. Each step is reduced to 64 bits, so without a division it is
enough to reduce the value of the whole expression (`Arithmetic.value?_of_undivided`). With
divisions the first one by zero decides: operands come before the operation, and the left one
before the right one (`Arithmetic.zeroDividends`). The result on the language is
`Arithmetic.eval_exact`. -/

namespace Monkey

/-- **An integer reduced to signed 64 bits**: the number of the same residue that is in range. -/
def wrap (value : Int) : Int := value.bmod Int64.size

/-- The operators that make an integer of two integers; comparisons make truth values instead. -/
inductive ArithmeticOp where
  /-- Sum, `+`. -/
  | add
  /-- Difference, `-`. -/
  | sub
  /-- Product, `*`. -/
  | mul
  /-- Quotient, `/`, cut off toward zero. -/
  | div
  deriving DecidableEq, Repr

namespace ArithmeticOp

/-- The operator in a program, as a `BinaryOp`. -/
def toBinaryOp : ArithmeticOp → BinaryOp
  | add => .add
  | sub => .sub
  | mul => .mul
  | div => .div

/-- The value of an operation on integers of any size; a quotient is cut off toward zero, by
`Int.tdiv`. -/
def exact : ArithmeticOp → Int → Int → Int
  | add, left, right => left + right
  | sub, left, right => left - right
  | mul, left, right => left * right
  | div, left, right => left.tdiv right

/-- An operation on 64-bit integers comes to its value by `exact`, reduced by `wrap`, unless it
divides by zero. -/
theorem applyIntegers_cases (op : ArithmeticOp) (left right : Int64) :
    (op = div ∧ right.toInt = 0 ∧
        op.toBinaryOp.applyIntegers left right = .error (.divisionByZero left)) ∨
      ¬(op = div ∧ right.toInt = 0) ∧ ∃ value : Int64,
        op.toBinaryOp.applyIntegers left right = .integer value ∧
          value.toInt = wrap (op.exact left.toInt right.toInt) := by
  cases op with
  | add => exact .inr ⟨nofun, _, rfl, Int64.toInt_add left right⟩
  | sub => exact .inr ⟨nofun, _, rfl, Int64.toInt_sub left right⟩
  | mul => exact .inr ⟨nofun, _, rfl, Int64.toInt_mul left right⟩
  | div =>
    by_cases zero : right = 0
    · subst zero
      exact .inl ⟨rfl, rfl, rfl⟩
    · have nonzero : right.toInt ≠ 0 := fun same => zero (Int64.toInt_inj.1 same)
      have applied : div.toBinaryOp.applyIntegers left right = .integer (left / right) :=
        if_neg zero
      exact .inr ⟨fun both => nonzero both.2, _, applied, Int64.toInt_div left right⟩

/-- Reducing the operands before an operation other than division makes no difference to its reduced
value. -/
theorem wrap_exact_wrap {op : ArithmeticOp} (undivided : op ≠ div) (left right : Int) :
    wrap (op.exact (wrap left) (wrap right)) = wrap (op.exact left right) := by
  cases op with
  | add => exact (Int.add_bmod left right _).symm
  | sub => exact (Int.sub_bmod left right _).symm
  | mul => exact (Int.mul_bmod left right _).symm
  | div => exact absurd rfl undivided

end ArithmeticOp

/-- **Expressions of integer arithmetic**, apart from the other expressions of the language. -/
inductive Arithmetic where
  /-- A literal with the text it was written as, which need not be its shortest form. -/
  | literal (value : Int64) (text : String)
  /-- The negation of an expression, `-x`. -/
  | negated (operand : Arithmetic)
  /-- An operation on two expressions, such as `x + y`. -/
  | operation (op : ArithmeticOp) (left right : Arithmetic)

namespace Arithmetic

/-- The expression in a program, as an `Expr`. -/
def toExpr : Arithmetic → Expr
  | literal value text => .int value text
  | negated operand => .unary .neg operand.toExpr
  | operation op left right => .binary op.toBinaryOp left.toExpr right.toExpr

/-- **The value step by step**, where every step is reduced to 64 bits. A division by zero has none,
and neither has what it is an operand of. -/
def value? : Arithmetic → Option Int
  | literal value _ => some value.toInt
  | negated operand => operand.value?.map fun value => wrap (-value)
  | operation op left right =>
    match left.value?, right.value? with
    | some dividend, some divisor =>
      if op = .div ∧ divisor = 0 then none else some (wrap (op.exact dividend divisor))
    | _, _ => none

/-- **The exact value** of an expression, on integers of any size. -/
def exactValue : Arithmetic → Int
  | literal value _ => value.toInt
  | negated operand => -operand.exactValue
  | operation op left right => op.exact left.exactValue right.exactValue

/-- The divisions in an expression, dividend and divisor: operands before operations, and from left
to right, which is the order in which they are evaluated. -/
def divisions : Arithmetic → List (Arithmetic × Arithmetic)
  | literal .. => []
  | negated operand => operand.divisions
  | operation op left right =>
    left.divisions ++ right.divisions ++ if op = .div then [(left, right)] else []

/-- The values of the dividends of those `divisions`, in order, whose operands have values and whose
divisor has the value zero. The first of them is the one that ends an evaluation. -/
def zeroDividends (tree : Arithmetic) : List Int :=
  tree.divisions.filterMap fun (dividend, divisor) =>
    if divisor.value? = some 0 then dividend.value? else none

/-- Divisions by zero in the operands come before the operation, which adds itself if it is one. -/
theorem zeroDividends_operation (op : ArithmeticOp) (left right : Arithmetic) :
    (operation op left right).zeroDividends = left.zeroDividends ++ right.zeroDividends ++
      if op = .div ∧ right.value? = some 0 then left.value?.toList else [] := by
  simp only [zeroDividends, divisions, List.filterMap_append]
  congr 1
  by_cases divides : op = .div
  · by_cases zero : right.value? = some 0
    · cases value : left.value? <;> simp [divides, zero, value]
    · simp [divides, zero]
  · simp [divides]

/-- What an expression comes to goes by its `value?` and its `zeroDividends`. -/
inductive ComesTo (tree : Arithmetic) : Value → Prop where
  /-- Without a division by zero it is the value, step by step. -/
  | integer {value : Int64} : tree.value? = some value.toInt → tree.zeroDividends = [] →
      ComesTo tree (.integer value)
  /-- Otherwise it is an error that names the dividend of the first one. -/
  | divisionByZero {dividend : Int64} : tree.value? = none →
      tree.zeroDividends.head? = some dividend.toInt →
      ComesTo tree (.error (.divisionByZero dividend))

/-- An evaluation by `Expr.eval` comes to what `value?` and `zeroDividends` say, and leaves the
bindings alone. -/
theorem eval_comesTo (config : Config) (call : Caller) (env : Env) (heap : Heap)
    (tree : Arithmetic) :
    ∃ result, (tree.toExpr.eval config call env).run heap = (result, heap) ∧
      tree.ComesTo result := by
  induction tree with
  | literal value text => exact ⟨_, rfl, .integer rfl rfl⟩
  | negated operand ih =>
    obtain ⟨result, run, comes⟩ := ih
    rw [toExpr, Expr.eval, EvalM.proceed_run, run]
    cases comes with
    | @integer value stands none =>
      refine ⟨_, rfl, .integer ?_ none⟩
      rw [value?, stands, Option.map_some, Int64.toInt_neg]
      rfl
    | divisionByZero stands first =>
      refine ⟨_, rfl, .divisionByZero ?_ first⟩
      rw [value?, stands, Option.map_none]
  | operation op left right leftIh rightIh =>
    obtain ⟨leftResult, leftRun, leftComes⟩ := leftIh
    obtain ⟨rightResult, rightRun, rightComes⟩ := rightIh
    rw [toExpr, Expr.eval, EvalM.proceed_run, leftRun]
    cases leftComes with
    | divisionByZero stands first =>
      -- The right operand is not evaluated.
      refine ⟨_, rfl, .divisionByZero (by rw [value?, stands]) ?_⟩
      rw [zeroDividends_operation, List.append_assoc, List.head?_append, first]
      rfl
    | @integer dividend leftStands leftNone =>
      simp only [EvalM.proceed_run, rightRun]
      cases rightComes with
      | divisionByZero stands first =>
        refine ⟨_, rfl, .divisionByZero (by rw [value?, leftStands, stands]) ?_⟩
        rw [zeroDividends_operation, leftNone, List.nil_append, List.head?_append, first]
        rfl
      | @integer divisor rightStands rightNone =>
        refine ⟨_, rfl, ?_⟩
        have dividends : (operation op left right).zeroDividends =
            if op = .div ∧ divisor.toInt = 0 then [dividend.toInt] else [] := by
          rw [zeroDividends_operation, leftNone, rightNone, leftStands, rightStands]
          simp only [Option.some.injEq]
          rfl
        have value : (operation op left right).value? = if op = .div ∧ divisor.toInt = 0 then none
            else some (wrap (op.exact dividend.toInt divisor.toInt)) := by
          rw [value?, leftStands, rightStands]
        obtain ⟨divides, zero, applied⟩ | ⟨other, result, applied, same⟩ :=
          op.applyIntegers_cases dividend divisor
        · rw [if_pos ⟨divides, zero⟩] at dividends value
          rw [BinaryOp.apply, applied]
          exact .divisionByZero value (by rw [dividends]; rfl)
        · rw [if_neg other] at dividends value
          rw [BinaryOp.apply, applied]
          exact .integer (by rw [value, same]) dividends

/-- Without a division every step may be left unreduced but the last one: `value?` is `exactValue`,
reduced once. -/
theorem value?_of_undivided {tree : Arithmetic} (undivided : tree.divisions = []) :
    tree.value? = some (wrap tree.exactValue) := by
  induction tree with
  | literal value text => exact congrArg some (Int64.toInt_bmod_size value).symm
  | negated operand ih =>
    have reduced : wrap (-wrap operand.exactValue) = wrap (-operand.exactValue) :=
      Int.bmod_neg_bmod
    rw [value?, ih undivided, Option.map_some, reduced, exactValue]
  | operation op left right leftIh rightIh =>
    rw [divisions, List.append_eq_nil_iff, List.append_eq_nil_iff] at undivided
    obtain ⟨⟨leftUndivided, rightUndivided⟩, none⟩ := undivided
    have other : op ≠ .div := by
      rintro rfl
      cases none
    rw [value?, leftIh leftUndivided, rightIh rightUndivided, exactValue,
      ← ArithmeticOp.wrap_exact_wrap other]
    exact if_neg fun both => other both.1

/-- **Arithmetic is exact modulo 2 to the 64th.** An expression comes to an integer or to a division
by zero, under every configuration. It comes to the error exactly if some division whose operands
have values has the divisor zero, and the error names the dividend of the first such division; and
it comes to an integer exactly if that is its value step by step. Without a division that is the
exact value of the whole expression, reduced once. -/
theorem eval_exact (config : Config) (call : Caller) (env : Env) (heap : Heap)
    (tree : Arithmetic) :
    let result := ((tree.toExpr.eval config call env).run heap).1
    ((∃ value, result = .integer value) ∨
        ∃ dividend, result = .error (.divisionByZero dividend)) ∧
      (∀ dividend : Int64,
        (result = .error (.divisionByZero dividend) ↔
          tree.zeroDividends.head? = some dividend.toInt) ∧
        (RuntimeError.divisionByZero dividend).message =
          "division by zero: " ++ toString dividend.toInt ++ " / 0") ∧
      (∀ value : Int64, result = .integer value ↔ tree.value? = some value.toInt) ∧
      (tree.divisions = [] →
        ∃ value : Int64, result = .integer value ∧ value.toInt = wrap tree.exactValue) := by
  intro result
  obtain ⟨came, run, comes⟩ := tree.eval_comesTo config call env heap
  have same : result = came := congrArg Prod.fst run
  rw [same]
  cases comes with
  | @integer value stands none =>
    refine ⟨.inl ⟨value, rfl⟩, fun dividend => ⟨?_, rfl⟩, fun other => ?_, fun undivided => ?_⟩
    · rw [none]
      exact ⟨nofun, nofun⟩
    · rw [stands, Option.some.injEq, Int64.toInt_inj, Value.integer.injEq]
    · have exactly := value?_of_undivided undivided
      rw [stands] at exactly
      exact ⟨value, rfl, Option.some.inj exactly⟩
  | @divisionByZero dividend stands first =>
    refine ⟨.inr ⟨dividend, rfl⟩, fun other => ⟨?_, rfl⟩, fun value => ?_, fun undivided => ?_⟩
    · rw [first, Option.some.injEq, Int64.toInt_inj, Value.error.injEq,
        RuntimeError.divisionByZero.injEq]
    · rw [stands]
      exact ⟨nofun, nofun⟩
    · rw [value?_of_undivided undivided] at stands
      cases stands

/-- The expression `(9223372036854775807 + 1) * -3` overflows twice, and is as if it had been
reduced once. -/
theorem eval_exact_overflow :
    let sum := operation .add (literal Int64.maxValue "9223372036854775807") (literal 1 "1")
    let tree := operation .mul sum (negated (literal 3 "3"))
    tree.divisions = [] ∧ ∃ value : Int64,
      ((tree.toExpr.eval .standard (Value.call .standard 256) ⟨0, []⟩).run .empty).1 =
        .integer value ∧ value.toInt = -9223372036854775808 := by
  intro sum tree
  have exactly := eval_exact .standard (Value.call .standard 256) ⟨0, []⟩ .empty tree
  obtain ⟨value, came, reduced⟩ := exactly.2.2.2 rfl
  exact ⟨rfl, value, came, reduced.trans (by decide)⟩

/-- The least integer divided by minus one is itself. -/
example : (operation .div
      (operation .sub (negated (literal Int64.maxValue "9223372036854775807")) (literal 1 "1"))
      (negated (literal 1 "1"))).value? = some Int64.minValue.toInt := by decide

/-- In `(1 - 4 / 0) * (5 / 0) / 0` only the first two divisions have operands with values. -/
example : (operation .div (operation .mul
      (operation .sub (literal 1 "1") (operation .div (literal 4 "4") (literal 0 "0")))
      (operation .div (literal 5 "5") (literal 0 "0"))) (literal 0 "0")).zeroDividends =
    [4, 5] := by
  decide

end Arithmetic

end Monkey
