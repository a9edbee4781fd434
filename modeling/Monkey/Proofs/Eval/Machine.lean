import Monkey.Eval.Basic

/-! # A machine

An evaluator whose current environment and number of open calls are state, like the bindings:
`Machine`. A call puts a new environment in place of the current one, counts itself, and puts both
back when the body has been evaluated, whatever that comes to (`MachineM.enter`). A machine comes
to the value and the bindings that an evaluation in its environment comes to, and at the end its
environment and its open calls are those of the start: `MachineM.Runs`, which leads to
`Node.execute_runs` and `Value.apply_runs`. -/

namespace Monkey

/-- **The state of an evaluation**: where it is, how many calls are open, and all bindings. -/
structure Machine where
  env : Env
  depth : Nat
  heap : Heap

/-- **An evaluation on a machine**, which may change all of its state. -/
abbrev MachineM := StateM Machine

namespace MachineM

/-- A step on the bindings that depends on the current environment, such as to look a name up there.
-/
def step {α : Type} (action : Env → EvalM α) : MachineM α := fun machine =>
  let (result, heap) := (action machine.env).run machine.heap
  (result, { machine with heap })

/-- Goes on with the value of an evaluation, unless it is an error, as `EvalM.proceed` does. -/
def proceed (first : MachineM Value) (next : Value → MachineM Value) : MachineM Value := do
  match ← first with
  | .error cause => return .error cause
  | value => next value

/-- **Evaluates a body in another environment**, as one more open call, and puts back what it
replaced. -/
def enter {α : Type} (inner : Env) (body : MachineM α) : MachineM α := do
  let outer := (← get).env
  modify fun machine => { machine with env := inner, depth := machine.depth + 1 }
  let result ← body
  modify fun machine => { machine with env := outer, depth := machine.depth - 1 }
  return result

end MachineM

section Trees

variable (config : Config) (call : Value → List Value → MachineM Value)

mutual

/-- **The value of an expression** in the current environment; otherwise it is evaluated as by
`Expr.eval`. -/
def Expr.execute : Expr → MachineM Value
  | .int value _ => return .integer value
  | .bool value => return .boolean value
  | .ident name => MachineM.step (EvalM.lookup · name)
  | .unary op operand => operand.execute.proceed fun value => return op.apply config value
  | .binary op left right =>
    left.execute.proceed fun leftValue =>
      right.execute.proceed fun rightValue => return op.apply config leftValue rightValue
  | .cond condition consequence none =>
    condition.execute.proceed fun value =>
      if value.isTruthy then Stmt.executeList .null consequence else return .null
  | .cond condition consequence (some alternative) =>
    condition.execute.proceed fun value =>
      if value.isTruthy then Stmt.executeList .null consequence
      else Stmt.executeList .null alternative
  | .fn parameters body => return .function parameters body (← get).env
  | .call callee arguments =>
    callee.execute.proceed fun function => do
      match ← Expr.executeList arguments with
      | .error cause => return .error cause
      | .ok values => call function values

/-- The values of some expressions, or the first error among them, as by `Expr.evalList`. -/
def Expr.executeList : List Expr → MachineM (Except RuntimeError (List Value))
  | [] => return .ok []
  | expression :: rest => do
    match ← expression.execute with
    | .error cause => return .error cause
    | value =>
      match ← Expr.executeList rest with
      | .error cause => return .error cause
      | .ok values => return .ok (value :: values)

/-- The value of a statement, as by `Stmt.eval`; a `let` binds its name in the current environment.
-/
def Stmt.execute : Stmt → MachineM Value
  | .letStmt name value =>
    value.execute.proceed fun value => do
      MachineM.step (EvalM.bindName · name value)
      return .null
  | .returnStmt none => return .returned .null
  | .returnStmt (some value) => value.execute.proceed fun value => return .returned value
  | .exprStmt value => value.execute

/-- The value of the last of some statements that is reached, or `last` if there is none, as by
`Stmt.evalList`. -/
def Stmt.executeList (last : Value) : List Stmt → MachineM Value
  | [] => return last
  | statement :: rest => do
    let value ← statement.execute
    if value.ends then
      return value
    else
      Stmt.executeList value rest

end

/-- The value of the last of some statements of a program that is reached, or `last` if there is
none, as by `Program.evalFrom`. -/
def Program.executeFrom (last : Value) : List Stmt → MachineM Value
  | [] => return last
  | statement :: rest => do
    match ← statement.execute config call with
    | .returned value => return value
    | .error cause => return .error cause
    | value => Program.executeFrom value rest

/-- The value of a node in the current environment, as by `Node.eval`. -/
def Node.execute : Node → MachineM Value
  | .program tree => Program.executeFrom config call .null tree.statements
  | .block tree => return (← Stmt.executeList config call .null tree).unwrap
  | .statement tree => return (← tree.execute config call).unwrap
  | .expression tree => tree.execute config call

end Trees

namespace Value

/-- Applies a value to arguments, with the checks of `Value.callWith`; `run` evaluates a body in
what is then the current environment. -/
def applyWith (config : Config) (run : Block → MachineM Value) :
    Value → List Value → MachineM Value
  | .function parameters body env, arguments => do
    if parameters.length ≠ arguments.length then
      return .error (.wrongArity parameters.length arguments.length)
    else if config.maxCallDepth ≤ (← get).depth then
      return .error (.callsTooDeep config.maxCallDepth)
    else
      let inner ← MachineM.step fun _ => EvalM.newScope env.chain
      MachineM.step fun _ => EvalM.bindNames inner parameters arguments
      return (← MachineM.enter inner (run body)).unwrap
  | callee, _ => return .error (.notCallable callee.kind)

/-- Applies a value to arguments; no more calls than `bound` can be opened inside each other. -/
def applyWithin (config : Config) : Nat → Value → List Value → MachineM Value
  | 0 => applyWith config fun _ => return .error (.callsTooDeep config.maxCallDepth)
  | bound + 1 =>
    applyWith config (Stmt.executeList config (applyWithin config bound) .null)

/-- **Applies a value to arguments.** The bound is never reached before the limit of the machine,
which is counted in its state. -/
def apply (config : Config) : Value → List Value → MachineM Value :=
  applyWithin config config.maxCallDepth

end Value

/-! ## Machines put back what they replace -/

/-- **With so many open calls** a machine comes to what an evaluation in its environment comes to.
It ends in the environment and with the open calls that it started with. -/
def MachineM.Runs {α : Type} (depth : Nat) (executed : MachineM α) (plain : Env → EvalM α) : Prop :=
  ∀ (env : Env) (heap : Heap), executed.run ⟨env, depth, heap⟩ =
    (((plain env).run heap).1, ⟨env, depth, ((plain env).run heap).2⟩)

namespace MachineM.Runs

variable {α β : Type} {depth : Nat} {executed : MachineM α} {plain : Env → EvalM α}

/-- A value that is just there is the same on a machine, which stays as it is. -/
theorem pure (value : α) : Runs depth (Pure.pure value) fun _ => Pure.pure value := fun _ _ => rfl

/-- Steps in turn: the second one starts where the first one has put everything back. -/
theorem bind {next : α → MachineM β} {next' : Env → α → EvalM β} (first : Runs depth executed plain)
    (second : ∀ value, Runs depth (next value) (next' · value)) :
    Runs depth (executed >>= next) fun env => plain env >>= next' env := by
  intro env heap
  change (next (executed.run ⟨env, depth, heap⟩).1).run (executed.run ⟨env, depth, heap⟩).2 = _
  rw [first env heap]
  exact second _ env _

/-- A step on the bindings by `MachineM.step` leaves environment and open calls alone. -/
theorem step (action : Env → EvalM α) : Runs depth (MachineM.step action) action := fun _ _ => rfl

/-- In `MachineM.proceed` an error is passed on, and any other value goes to the next step, as in
`EvalM.proceed`. -/
theorem proceed {first : MachineM Value} {first' : Env → EvalM Value} {next : Value → MachineM Value}
    {next' : Env → Value → EvalM Value} (same : Runs depth first first')
    (second : ∀ value, Runs depth (next value) (next' · value)) :
    Runs depth (first.proceed next) fun env => (first' env).proceed (next' env) := by
  refine same.bind fun value => ?_
  cases value with
  | error cause => exact pure _
  | _ => exact second _

/-- A limit on the open calls is reached, or it is not, and the machine does one thing or the other.
-/
theorem limit {limit : Nat} {refused granted : MachineM α}
    (reached : limit ≤ depth → Runs depth refused plain)
    (below : depth < limit → Runs depth granted plain) :
    Runs depth (do if limit ≤ (← get).depth then refused else granted) plain := by
  intro env heap
  change (if limit ≤ depth then refused else granted).run ⟨env, depth, heap⟩ = _
  by_cases deep : limit ≤ depth
  · rw [if_pos deep]
    exact reached deep env heap
  · rw [if_neg deep]
    exact below (Nat.lt_of_not_le deep) env heap

/-- A body is evaluated in another environment, with one more open call, and the current one is put
back. -/
theorem enter {body : MachineM α} (inner : Env) (same : Runs (depth + 1) body plain) :
    Runs depth (MachineM.enter inner body) fun _ => plain inner := by
  intro env heap
  change ((body.run ⟨inner, depth + 1, heap⟩).1, ({ (body.run ⟨inner, depth + 1, heap⟩).2 with
    env, depth := (body.run ⟨inner, depth + 1, heap⟩).2.depth - 1 } : Machine)) = _
  rw [same inner heap]
  rfl

end MachineM.Runs

section Trees

open MachineM Runs

variable {config : Config} {call : Value → List Value → MachineM Value} {caller : Caller}
  {depth : Nat}

/-- Calls come to the same on a machine with so many open calls, whatever is called with whatever
arguments. -/
abbrev RunsCalls (depth : Nat) (call : Value → List Value → MachineM Value) (caller : Caller) :
    Prop :=
  ∀ function arguments, Runs depth (call function arguments) fun _ => caller function arguments

mutual

/-- An expression comes to the same on a machine: `Expr.execute` against `Expr.eval`, if calls do.
-/
theorem Expr.execute_runs (calls : RunsCalls depth call caller) :
    (tree : Expr) → Runs depth (tree.execute config call) (tree.eval config caller ·)
  | .int _ _ | .bool _ | .fn _ _ => fun _ _ => rfl
  | .ident name => .step (EvalM.lookup · name)
  | .unary _ operand => (operand.execute_runs calls).proceed fun _ => .pure _
  | .binary _ left right =>
    (left.execute_runs calls).proceed fun _ => (right.execute_runs calls).proceed fun _ => .pure _
  | .cond condition consequence none => by
    refine (condition.execute_runs calls).proceed fun value => ?_
    split
    · exact Stmt.executeList_runs calls consequence .null
    · exact .pure _
  | .cond condition consequence (some alternative) => by
    refine (condition.execute_runs calls).proceed fun value => ?_
    split
    · exact Stmt.executeList_runs calls consequence .null
    · exact Stmt.executeList_runs calls alternative .null
  | .call callee arguments => by
    refine (callee.execute_runs calls).proceed fun function => ?_
    refine (Expr.executeList_runs calls arguments).bind fun values => ?_
    cases values with
    | error cause => exact .pure _
    | ok values => exact calls function values

/-- Expressions in turn come to the same on a machine: `Expr.executeList` against `Expr.evalList`.
-/
theorem Expr.executeList_runs (calls : RunsCalls depth call caller) : (trees : List Expr) →
    Runs depth (Expr.executeList config call trees) (Expr.evalList config caller · trees)
  | [] => .pure _
  | first :: rest => by
    refine (first.execute_runs calls).bind fun value => ?_
    cases value with
    | error cause => exact .pure _
    | _ =>
      refine (Expr.executeList_runs calls rest).bind fun values => ?_
      cases values <;> exact .pure _

/-- A statement comes to the same on a machine: `Stmt.execute` against `Stmt.eval`. -/
theorem Stmt.execute_runs (calls : RunsCalls depth call caller) :
    (tree : Stmt) → Runs depth (tree.execute config call) (tree.eval config caller ·)
  | .letStmt name _ => (Expr.execute_runs calls _).proceed fun value =>
      (Runs.step (EvalM.bindName · name value)).bind fun _ => .pure _
  | .returnStmt none => .pure _
  | .returnStmt (some value) => (value.execute_runs calls).proceed fun _ => .pure _
  | .exprStmt value => value.execute_runs calls

/-- Statements in turn come to the same on a machine, from the same last value. -/
theorem Stmt.executeList_runs (calls : RunsCalls depth call caller) :
    (trees : List Stmt) → (last : Value) →
    Runs depth (Stmt.executeList config call last trees) (Stmt.evalList config caller · last trees)
  | [], _ => .pure _
  | first :: rest, _ => by
    refine (first.execute_runs calls).bind fun value => ?_
    by_cases ends : value.ends = true
    · simp only [if_pos ends]
      exact .pure _
    · simp only [if_neg ends]
      exact Stmt.executeList_runs calls rest value

end

/-- The statements of a program come to the same on a machine, from the same last value. -/
theorem Program.executeFrom_runs (calls : RunsCalls depth call caller) (trees : List Stmt)
    (last : Value) : Runs depth (Program.executeFrom config call last trees)
      (Program.evalFrom config caller · last trees) := by
  induction trees generalizing last with
  | nil => exact .pure _
  | cons first rest ih =>
    refine (first.execute_runs calls).bind fun value => ?_
    cases value with
    | returned value | error cause => exact .pure _
    | _ => exact ih _

/-- A node comes to the same on a machine: the four cases of `Node.execute`, if calls do. -/
theorem Node.execute_runs (calls : RunsCalls depth call caller) (node : Node) :
    Runs depth (node.execute config call) (node.eval config caller ·) := by
  cases node with
  | program tree => exact Program.executeFrom_runs calls tree.statements .null
  | block tree => exact (Stmt.executeList_runs calls tree .null).bind fun _ => .pure _
  | statement tree => exact (tree.execute_runs calls).bind fun _ => .pure _
  | expression tree => exact tree.execute_runs calls

end Trees

namespace Value

open MachineM

/-- Below the limit there is a call left, and the body of the function is evaluated with one more
open call; at the limit there is none. This is `Value.call`, with calls counted upwards. -/
theorem call_sub (config : Config) (depth : Nat) :
    call config (config.maxCallDepth - depth) = callWith config
      (if depth < config.maxCallDepth then
        some (Block.eval config (call config (config.maxCallDepth - (depth + 1)))) else none) := by
  by_cases below : depth < config.maxCallDepth
  · have more : config.maxCallDepth - depth = config.maxCallDepth - (depth + 1) + 1 := by omega
    rw [if_pos below, more]
    rfl
  · rw [if_neg below, Nat.sub_eq_zero_of_le (Nat.le_of_not_lt below)]
    rfl

/-- A call comes to the same on a machine if the body of the function does, with one more open call.
-/
theorem applyWith_runs {config : Config} {depth : Nat} {run : Block → MachineM Value}
    (bodies : depth < config.maxCallDepth → ∀ body, Runs (depth + 1) (run body) fun env =>
      Block.eval config (call config (config.maxCallDepth - (depth + 1))) env body) :
    RunsCalls depth (applyWith config run) (call config (config.maxCallDepth - depth)) := by
  intro function arguments
  rw [call_sub]
  cases function with
  | function parameters body env =>
    change Runs depth (if parameters.length ≠ arguments.length then _ else _) fun _ =>
      if parameters.length ≠ arguments.length then _ else _
    by_cases wrong : parameters.length ≠ arguments.length
    · simp only [if_pos wrong]
      exact .pure _
    · simp only [if_neg wrong]
      refine .limit (fun reached => ?_) fun below => ?_
      · rw [if_neg (Nat.not_lt_of_le reached)]
        exact .pure _
      · rw [if_pos below]
        exact (Runs.step _).bind fun inner => (Runs.step _).bind fun _ =>
          ((bodies below body).enter inner).bind fun _ => .pure _
  | _ => exact .pure _

/-- Calls come to the same on a machine within any bound that its limit allows to be reached: by
induction on the bound. -/
theorem applyWithin_runs (config : Config) (bound depth : Nat)
    (enough : config.maxCallDepth - depth ≤ bound) :
    RunsCalls depth (applyWithin config bound) (call config (config.maxCallDepth - depth)) := by
  induction bound generalizing depth with
  | zero => exact applyWith_runs fun below => by omega
  | succ bound ih =>
    refine applyWith_runs fun below body => ?_
    exact Stmt.executeList_runs (ih (depth + 1) (by omega)) body .null

/-- Calls come to the same on a machine, with as many left as its limit allows besides those that
are open. -/
theorem apply_runs (config : Config) (depth : Nat) :
    RunsCalls depth (apply config) (call config (config.maxCallDepth - depth)) :=
  applyWithin_runs config config.maxCallDepth depth (Nat.sub_le ..)

end Value

end Monkey
