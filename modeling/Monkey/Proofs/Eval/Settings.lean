import Monkey.Eval.Basic

/-! # What the settings change

One tree is evaluated from the same bindings under two configurations. Some errors are fatal:
where the configurations part, the first evaluation has come to one of them. No construct stops an
error, whatever its cause, so the first evaluation as a whole ends with a fatal error, or nothing
has parted and both come to the same value and the same bindings: they are `EvalM.SameUnless`.

There are two settings. A higher limit on calls changes nothing but the error that reports the
lower one (`Node.eval_eq_of_limit_le`), and a policy that ignores type errors changes nothing
where no type error is reported (`Node.eval_ignore_eq_report`). -/

namespace Monkey

variable {fatal : RuntimeError → Prop}

/-- **The same, unless something fatal happens**: from the same bindings an evaluation fails for a
fatal cause, or another one comes to the same value and bindings. -/
def EvalM.SameUnless {α : Type} (fatal : RuntimeError → Prop) (failed : RuntimeError → α)
    (plain plain' : EvalM α) : Prop :=
  ∀ heap : Heap, (∃ cause, fatal cause ∧ (plain.run heap).1 = failed cause) ∨
    plain'.run heap = plain.run heap

/-- A value is a fatal error, or another one is the same; nothing is said about the other one
otherwise. -/
def Value.SameUnless (fatal : RuntimeError → Prop) (value value' : Value) : Prop :=
  (∃ cause, fatal cause ∧ value = .error cause) ∨ value' = value

/-- Operands of the wrong kind are answered alike by two configurations, or fatally by the first. -/
def Config.SameUnless (fatal : RuntimeError → Prop) (config config' : Config) : Prop :=
  ∀ cause : RuntimeError, cause.isTypeError = true →
    (config.typeError cause).SameUnless fatal (config'.typeError cause)

/-! ## Operators -/

section Operators

variable {config config' : Config}

/-- A unary operator answers alike, or fatally, as its only answer that depends on settings is
`Config.typeError`. -/
theorem UnaryOp.apply_sameUnless (same : config.SameUnless fatal config') (op : UnaryOp)
    (operand : Value) : (op.apply config operand).SameUnless fatal (op.apply config' operand) := by
  cases op with
  | not => exact .inr rfl
  | neg =>
    cases operand with
    | integer value => exact .inr rfl
    | _ => exact same _ rfl

/-- A binary operator answers alike, or fatally, as its only answer that depends on settings is
`Config.typeError`. -/
theorem BinaryOp.apply_sameUnless (same : config.SameUnless fatal config') (op : BinaryOp)
    (left right : Value) :
    (op.apply config left right).SameUnless fatal (op.apply config' left right) := by
  unfold apply
  split
  · exact .inr rfl
  · split
    · exact .inr rfl
    · exact .inr rfl
    · split <;> exact same _ rfl

end Operators

/-! ## Steps -/

namespace EvalM.SameUnless

variable {α β : Type} {failed : RuntimeError → α} {failed' : RuntimeError → β}
  {plain plain' : EvalM α}

/-- What does not depend on the settings is the same under both of them. -/
theorem refl (plain : EvalM α) : SameUnless fatal failed plain plain := fun _ => .inr rfl

/-- Values that are just there are the same or the first one is fatal, whatever the bindings. -/
theorem pure {value value' : Value} (same : value.SameUnless fatal value') :
    SameUnless fatal Value.error (Pure.pure value) (Pure.pure value') := by
  intro heap
  obtain fails | rfl := same
  · exact .inl fails
  · exact .inr rfl

/-- Where the first evaluation fails for a fatal cause, the other one may come to anything. -/
theorem throw {cause : RuntimeError} (ends : fatal cause) (plain' : EvalM α) :
    SameUnless fatal failed (Pure.pure (failed cause)) plain' := fun _ => .inl ⟨cause, ends, rfl⟩

/-- Steps in turn; the second one passes on what is fatal in the first, and so the whole fails for
the same cause. -/
theorem bind {next next' : α → EvalM β} (first : SameUnless fatal failed plain plain')
    (second : ∀ value, SameUnless fatal failed' (next value) (next' value))
    (passed : ∀ cause, next (failed cause) = Pure.pure (failed' cause)) :
    SameUnless fatal failed' (plain >>= next) (plain' >>= next') := by
  intro heap
  change (∃ cause, fatal cause ∧
      ((next (plain.run heap).1).run (plain.run heap).2).1 = failed' cause) ∨
    (next' (plain'.run heap).1).run (plain'.run heap).2 =
      (next (plain.run heap).1).run (plain.run heap).2
  obtain ⟨cause, ends, fails⟩ | same := first heap
  · refine .inl ⟨cause, ends, ?_⟩
    rw [fails, passed]
    rfl
  · rw [same]
    exact second _ _

/-- In `EvalM.proceed` an error is passed on, a fatal one too, and any other value goes to the next
step. -/
theorem proceed {first first' : EvalM Value} {next next' : Value → EvalM Value}
    (same : SameUnless fatal Value.error first first')
    (second : ∀ value, SameUnless fatal Value.error (next value) (next' value)) :
    SameUnless fatal Value.error (first.proceed next) (first'.proceed next') := by
  refine same.bind (fun value => ?_) fun _ => rfl
  cases value with
  | error cause => exact refl _
  | _ => exact second _

/-- What a value wraps is taken out of it by `Value.unwrap`, which leaves errors as they are. -/
theorem unwrap {first first' : EvalM Value} (same : SameUnless fatal Value.error first first') :
    SameUnless fatal Value.error (return (← first).unwrap) (return (← first').unwrap) :=
  same.bind (fun _ => refl _) fun _ => rfl

end EvalM.SameUnless

/-! ## Trees -/

section Trees

open EvalM

variable {config config' : Config} {call call' : Caller} {env : Env}

/-- Calls come to the same, or they fail for a fatal cause, whatever is called with whatever
arguments. -/
abbrev SameUnlessCalls (fatal : RuntimeError → Prop) (call call' : Caller) : Prop :=
  ∀ function arguments,
    SameUnless fatal Value.error (call function arguments) (call' function arguments)

mutual

/-- An expression comes to the same, or fails for a fatal cause, if calls do: operators and calls
are all that may part. -/
theorem Expr.sameUnless (same : config.SameUnless fatal config')
    (calls : SameUnlessCalls fatal call call') : (tree : Expr) →
    SameUnless fatal Value.error (tree.eval config call env) (tree.eval config' call' env)
  | .int _ _ | .bool _ | .fn _ _ | .ident _ => .refl _
  | .unary op operand => (operand.sameUnless same calls).proceed fun value =>
      .pure (op.apply_sameUnless same value)
  | .binary op left right =>
    (left.sameUnless same calls).proceed fun leftValue =>
      (right.sameUnless same calls).proceed fun rightValue =>
        .pure (op.apply_sameUnless same leftValue rightValue)
  | .cond condition consequence none => by
    refine (condition.sameUnless same calls).proceed fun value => ?_
    split
    · exact Stmt.sameUnlessList same calls consequence .null
    · exact .refl _
  | .cond condition consequence (some alternative) => by
    refine (condition.sameUnless same calls).proceed fun value => ?_
    split
    · exact Stmt.sameUnlessList same calls consequence .null
    · exact Stmt.sameUnlessList same calls alternative .null
  | .call callee arguments => by
    refine (callee.sameUnless same calls).proceed fun function => ?_
    refine (Expr.sameUnlessList same calls arguments).bind (fun values => ?_) fun _ => rfl
    cases values with
    | error cause => exact .refl _
    | ok values => exact calls function values

/-- Expressions in turn come to the same, or one of them fails for a fatal cause. -/
theorem Expr.sameUnlessList (same : config.SameUnless fatal config')
    (calls : SameUnlessCalls fatal call call') : (trees : List Expr) →
    SameUnless fatal Except.error (Expr.evalList config call env trees)
      (Expr.evalList config' call' env trees)
  | [] => .refl _
  | first :: rest => by
    refine (first.sameUnless same calls).bind (fun value => ?_) fun _ => rfl
    cases value with
    | error cause => exact .refl _
    | _ =>
      refine (Expr.sameUnlessList same calls rest).bind (fun values => ?_) fun _ => rfl
      exact .refl _

/-- A statement comes to the same, or fails for a fatal cause, and then binds nothing itself. -/
theorem Stmt.sameUnless (same : config.SameUnless fatal config')
    (calls : SameUnlessCalls fatal call call') : (tree : Stmt) →
    SameUnless fatal Value.error (tree.eval config call env) (tree.eval config' call' env)
  | .letStmt _ value => (value.sameUnless same calls).proceed fun _ => .refl _
  | .returnStmt none => .refl _
  | .returnStmt (some value) => (value.sameUnless same calls).proceed fun _ => .refl _
  | .exprStmt value => value.sameUnless same calls

/-- Statements in turn come to the same, or one of them fails for a fatal cause. -/
theorem Stmt.sameUnlessList (same : config.SameUnless fatal config')
    (calls : SameUnlessCalls fatal call call') : (trees : List Stmt) → (last : Value) →
    SameUnless fatal Value.error (Stmt.evalList config call env last trees)
      (Stmt.evalList config' call' env last trees)
  | [], _ => .refl _
  | first :: rest, _ => by
    refine (first.sameUnless same calls).bind (fun value => ?_) fun _ => rfl
    split
    · exact .refl _
    · exact Stmt.sameUnlessList same calls rest value

end

/-- The statements of a program come to the same, or one of them fails for a fatal cause. -/
theorem Program.sameUnlessFrom (same : config.SameUnless fatal config')
    (calls : SameUnlessCalls fatal call call') (trees : List Stmt) (last : Value) :
    SameUnless fatal Value.error (Program.evalFrom config call env last trees)
      (Program.evalFrom config' call' env last trees) := by
  induction trees generalizing last with
  | nil => exact .refl _
  | cons first rest ih =>
    refine (first.sameUnless same calls).bind (fun value => ?_) fun _ => rfl
    cases value with
    | returned value | error cause => exact .refl _
    | _ => exact ih _

/-- A node comes to the same, or fails for a fatal cause: the four cases of `Node.eval`. -/
theorem Node.sameUnless (same : config.SameUnless fatal config')
    (calls : SameUnlessCalls fatal call call') (node : Node) :
    SameUnless fatal Value.error (node.eval config call env) (node.eval config' call' env) := by
  cases node with
  | program tree => exact Program.sameUnlessFrom same calls tree.statements .null
  | block tree => exact (Stmt.sameUnlessList same calls tree .null).unwrap
  | statement tree => exact (tree.sameUnless same calls).unwrap
  | expression tree => exact tree.sameUnless same calls

end Trees

/-! ## Calls -/

namespace Value

open EvalM

variable {config config' : Config} {run run' : Option (Env → Block → EvalM Value)}

/-- **Bodies are evaluated alike.** Where no call is left, that is fatal, or it is reported alike.
-/
inductive BodiesSameUnless (fatal : RuntimeError → Prop) (config config' : Config) :
    Option (Env → Block → EvalM Value) → Option (Env → Block → EvalM Value) → Prop where
  /-- That no call is left on the left is fatal, whatever is left on the right. -/
  | refused {run' : Option (Env → Block → EvalM Value)} :
      fatal (.callsTooDeep config.maxCallDepth) → BodiesSameUnless fatal config config' none run'
  /-- No call is left on either side, and the limit that is reported is the same. -/
  | none : config'.maxCallDepth = config.maxCallDepth →
      BodiesSameUnless fatal config config' none none
  /-- There is a call left on both sides, and bodies come to the same, unless something fatal
  happens. -/
  | some {run run' : Env → Block → EvalM Value} :
      (∀ env body, EvalM.SameUnless fatal Value.error (run env body) (run' env body)) →
      BodiesSameUnless fatal config config' (some run) (some run')

/-- Calls come to the same, or they fail for a fatal cause, if the bodies of functions do. -/
theorem callWith_sameUnless (bodies : BodiesSameUnless fatal config config' run run') :
    SameUnlessCalls fatal (callWith config run) (callWith config' run') := by
  intro function arguments
  cases function with
  | function parameters body env =>
    change EvalM.SameUnless fatal Value.error
      (if parameters.length ≠ arguments.length then _ else _)
      (if parameters.length ≠ arguments.length then _ else _)
    by_cases wrong : parameters.length ≠ arguments.length
    · rw [if_pos wrong, if_pos wrong]
      exact .refl _
    · rw [if_neg wrong, if_neg wrong]
      cases bodies with
      | refused ends => exact .throw ends _
      | none limit =>
        rw [limit]
        exact .refl _
      | some bodies =>
        -- Both calls add the same scope and bind the same values in it.
        intro heap
        exact (bodies _ body).unwrap _
  | _ => exact .refl _

/-- Of two limits the higher one makes calls come to the same, unless the lower one is exceeded: by
induction on the calls that the lower one leaves. -/
theorem call_sameUnless_of_le {low high : Config} (policy : high.typeErrors = low.typeErrors)
    {left more : Nat} (le : left ≤ more) :
    SameUnlessCalls (· = .callsTooDeep low.maxCallDepth) (call low left) (call high more) := by
  have same : low.SameUnless (· = .callsTooDeep low.maxCallDepth) high := by
    intro cause _
    refine .inr ?_
    rw [Config.typeError, policy]
    rfl
  induction left generalizing more with
  | zero =>
    cases more with
    | zero => exact callWith_sameUnless (.refused rfl)
    | succ more => exact callWith_sameUnless (.refused rfl)
  | succ left ih =>
    obtain ⟨more, rfl⟩ : ∃ fewer, more = fewer + 1 := ⟨more - 1, by omega⟩
    have calls := ih (Nat.le_of_succ_le_succ le)
    exact callWith_sameUnless (.some fun _ body => Stmt.sameUnlessList same calls body .null)

/-- Configurations with the same limit make calls come to the same, unless an answer is fatal: by
induction on the calls that are left. -/
theorem call_sameUnless (same : config.SameUnless fatal config')
    (limit : config'.maxCallDepth = config.maxCallDepth) (left : Nat) :
    SameUnlessCalls fatal (call config left) (call config' left) := by
  induction left with
  | zero => exact callWith_sameUnless (.none limit)
  | succ left ih =>
    exact callWith_sameUnless (.some fun _ body => Stmt.sameUnlessList same ih body .null)

end Value

/-! ## Two limits -/

namespace Node

/-- **A higher limit on calls** changes nothing but the error that the lower one is exceeded:
whatever else a node comes to, and whatever it leaves bound, it does so under every higher limit,
however many calls are open. -/
theorem eval_eq_of_limit_le (policy : TypeErrorPolicy) {low high : Nat} (le : low ≤ high)
    (depth : Nat) (env : Env) (node : Node) {heap : Heap} :
    let config : Config := { typeErrors := policy, maxCallDepth := low }
    let config' : Config := { typeErrors := policy, maxCallDepth := high }
    ((node.eval config (Value.call config (low - depth)) env).run heap).1 ≠
        .error (.callsTooDeep low) →
      (node.eval config' (Value.call config' (high - depth)) env).run heap =
        (node.eval config (Value.call config (low - depth)) env).run heap := by
  intro config config' granted
  have fewer : low - depth ≤ high - depth := Nat.sub_le_sub_right le depth
  have policies : config'.typeErrors = config.typeErrors := rfl
  have calls : SameUnlessCalls (· = .callsTooDeep low) (Value.call config (low - depth))
      (Value.call config' (high - depth)) := Value.call_sameUnless_of_le policies fewer
  have same : config.SameUnless (· = .callsTooDeep low) config' := fun _ _ => .inr rfl
  obtain ⟨cause, rfl, refused⟩ | equal := node.sameUnless same calls heap
  · exact absurd refused granted
  · exact equal

/-- With one call open, `fn(x) { fn() { x }() }(1)` takes two more; it comes to the same under the
limit of three calls and under that of 256. -/
theorem eval_nested_call :
    let low : Config := { maxCallDepth := 3 }
    let inner : Expr := .fn [] [.exprStmt (.ident "x")]
    let node : Node := .expression (.call (.fn ["x"] [.exprStmt (.call inner [])]) [.int 1 "1"])
    let env := (Heap.empty.newScope []).1
    let heap := (Heap.empty.newScope []).2
    3 ≤ 256 ∧ ((node.eval low (Value.call low 2) env).run heap).1 ≠ .error (.callsTooDeep 3) ∧
      ((node.eval .standard (Value.call .standard 255) env).run heap).1 = .integer 1 := by
  intro low inner node env heap
  have value : ((node.eval low (Value.call low 2) env).run heap).1 = .integer 1 := rfl
  have granted : ((node.eval low (Value.call low 2) env).run heap).1 ≠
      .error (.callsTooDeep 3) := by
    rw [value]
    nofun
  have le : 3 ≤ 256 := by decide
  have equal := eval_eq_of_limit_le .report le 1 env node granted
  exact ⟨le, granted, (congrArg Prod.fst equal).trans value⟩

end Node

/-! ## Two policies -/

/-- An error that says that operands are of the wrong kind, be it of that cause or raised by the
host with such words. -/
def Value.SaysTypeError (value : Value) : Prop :=
  ∃ cause rest, value = .error cause ∧
    (cause.message = "unknown operator: " ++ rest ∨ cause.message = "type mismatch: " ++ rest)

/-- Whatever is wrong with the kinds of operands, `RuntimeError.message` says so. -/
theorem Value.saysTypeError_error {cause : RuntimeError} (kinds : cause.isTypeError = true) :
    (Value.error cause).SaysTypeError := by
  cases cause with
  | unaryOperand op operand =>
    refine ⟨_, op.sign ++ operand.name, rfl, .inl ?_⟩
    change "unknown operator: " ++ op.sign ++ operand.name = _
    rw [String.append_assoc]
  | binaryOperands op operands =>
    refine ⟨_, operands.name ++ " " ++ op.sign ++ " " ++ operands.name, rfl, .inl ?_⟩
    change "unknown operator: " ++ operands.name ++ " " ++ op.sign ++ " " ++ operands.name = _
    simp only [String.append_assoc]
  | mixedOperands op left right =>
    refine ⟨_, left.name ++ " " ++ op.sign ++ " " ++ right.name, rfl, .inr ?_⟩
    change "type mismatch: " ++ left.name ++ " " ++ op.sign ++ " " ++ right.name = _
    simp only [String.append_assoc]
  | _ => cases kinds

/-- **To ignore type errors** changes nothing where none is reported: unless a node comes to an
error that says that operands are of the wrong kind, it comes to the same and leaves the same bound
when such operands give null. In particular all errors that have other causes stay as they are. -/
theorem Node.eval_ignore_eq_report (limit left : Nat) (env : Env) (node : Node) (heap : Heap) :
    let strict : Config := { typeErrors := .report, maxCallDepth := limit }
    let lenient : Config := { typeErrors := .ignore, maxCallDepth := limit }
    let reporting := (node.eval strict (Value.call strict left) env).run heap
    let ignoring := (node.eval lenient (Value.call lenient left) env).run heap
    (¬reporting.1.SaysTypeError → ignoring = reporting) ∧
      ∀ cause, cause.isTypeError = false → reporting.1 = .error cause → ignoring = reporting := by
  intro strict lenient reporting ignoring
  have same : strict.SameUnless (·.isTypeError = true) lenient :=
    fun cause kinds => .inl ⟨cause, kinds, rfl⟩
  have calls := Value.call_sameUnless same rfl left
  obtain ⟨cause, kinds, reported⟩ | equal := node.sameUnless same calls heap
  · constructor
    · intro silent
      refine absurd ?_ silent
      rw [reported]
      exact Value.saysTypeError_error kinds
    · intro other otherwise failed
      cases reported.symm.trans failed
      rw [kinds] at otherwise
      cases otherwise
  · exact ⟨fun _ => equal, fun _ _ _ => equal⟩

/-- In `true + 1 / 0` the division fails before the operands of the sum can be of the wrong kind, so
to ignore these changes nothing. -/
theorem Node.eval_division_before_sum :
    let division : Expr := .binary .div (.int 1 "1") (.int 0 "0")
    let node : Node := .expression (.binary .add (.bool true) division)
    let env := (Heap.empty.newScope []).1
    let heap := (Heap.empty.newScope []).2
    ((node.eval .standard (Value.call .standard 256) env).run heap).1 = .error (.divisionByZero 1) ∧
      RuntimeError.isTypeError (.divisionByZero 1) = false ∧
      ((node.eval .lenient (Value.call .lenient 256) env).run heap).1 =
        .error (.divisionByZero 1) := by
  intro division node env heap
  have reported : ((node.eval .standard (Value.call .standard 256) env).run heap).1 =
      .error (.divisionByZero 1) := rfl
  have equal := (eval_ignore_eq_report 256 256 env node heap).2 _ rfl reported
  exact ⟨reported, rfl, (congrArg Prod.fst equal).trans reported⟩

end Monkey
