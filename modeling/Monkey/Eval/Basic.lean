import Monkey.Eval.Operators
import Monkey.Value.Heap

/-! # Evaluation

The value of a tree in an environment: `Expr.eval`, `Stmt.eval`, `Block.eval`, `Program.eval` and,
for any of them, `Node.eval`. Operands, arguments and statements are evaluated from left to right,
and an error ends whatever it occurs in (`EvalM.proceed`). A return passes through the blocks
around it still wrapped as a `Value.returned`, up to the function or program that it ends.

Calls are counted: evaluation knows how many more may be opened inside the current one. A tree is
evaluated by recursion on it, with a `Caller` for the calls in it, and `Value.call` makes such a
caller by recursion on the number of calls that are left. -/

namespace Monkey

/-- **Evaluation**: it may look at the bindings of all scopes, which a `Heap` holds, and change
them. -/
abbrev EvalM := StateM Heap

namespace EvalM

/-- The value of a name in an environment, as `Heap.get?` finds it, or the error
`RuntimeError.unboundName`. -/
def lookup (env : Env) (name : String) : EvalM Value := do
  match (← get).get? env name with
  | some value => return value
  | none => return .error (.unboundName name)

/-- Binds a name to a value in the own scope of an environment, by `Heap.set`; the scopes around it
are left alone. -/
def bindName (env : Env) (name : String) (value : Value) : EvalM Unit :=
  modify fun heap => heap.set env name value

/-- A new environment without bindings of its own, with the scopes `outer` around it. -/
def newScope (outer : List ScopeId) : EvalM Env := modifyGet fun heap => heap.newScope outer

/-- Goes on with the value of an evaluation, unless it is a `Value.error`, which is then the value
of the whole. This is how every construct passes errors on. -/
def proceed (first : EvalM Value) (next : Value → EvalM Value) : EvalM Value := do
  match ← first with
  | .error cause => return .error cause
  | value => next value

/-- Binds names to values, pair by pair from the left, by `bindName`; what has no partner is left
out. -/
def bindNames (env : Env) : List String → List Value → EvalM Unit
  | name :: names, value :: values => do
    bindName env name value
    bindNames env names values
  | _, _ => return ()

/-! ### What a step makes of the bindings -/

/-- Looking a name up changes no binding: `lookup` answers with `Heap.get?` or the error for an
unbound name. -/
theorem lookup_run (env : Env) (name : String) (heap : Heap) :
    (lookup env name).run heap =
      (((heap.get? env name).getD (.error (.unboundName name))), heap) := by
  change (match heap.get? env name with | some _ => _ | none => _ : EvalM Value).run heap = _
  split <;> simp_all <;> rfl

/-- In `proceed` an error is passed on with the bindings as they are then, and any other value goes
to `next`. -/
theorem proceed_run (first : EvalM Value) (next : Value → EvalM Value) (heap : Heap) :
    (first.proceed next).run heap =
      match first.run heap with
      | (.error cause, after) => (.error cause, after)
      | (value, after) => (next value).run after := by
  change (match (first.run heap).1 with
    | .error cause => pure (.error cause) | value => next value : EvalM Value).run
      (first.run heap).2 = _
  rcases first.run heap with ⟨value, after⟩
  cases value <;> rfl

@[simp] theorem newScope_run (outer : List ScopeId) (heap : Heap) :
    (newScope outer).run heap = heap.newScope outer := rfl

end EvalM

/-- How a value is called with arguments; evaluation of trees takes one as a parameter, since calls
are counted elsewhere. -/
abbrev Caller := Value → List Value → EvalM Value

section Trees

variable (config : Config) (call : Caller) (env : Env)

mutual

/-- **The value of an expression** in an environment, where `call` says how functions are called.
Operands come before operators and are evaluated from left to right, and only the branch of a
conditional that its condition selects is evaluated. -/
def Expr.eval : Expr → EvalM Value
  | .int value _ => return .integer value
  | .bool value => return .boolean value
  | .ident name => EvalM.lookup env name
  | .unary op operand => operand.eval.proceed fun value => return op.apply config value
  | .binary op left right =>
    left.eval.proceed fun leftValue =>
      right.eval.proceed fun rightValue => return op.apply config leftValue rightValue
  | .cond condition consequence none =>
    condition.eval.proceed fun value =>
      if value.isTruthy then Stmt.evalList .null consequence else return .null
  | .cond condition consequence (some alternative) =>
    condition.eval.proceed fun value =>
      if value.isTruthy then Stmt.evalList .null consequence else Stmt.evalList .null alternative
  | .fn parameters body => return .function parameters body env
  | .call callee arguments =>
    callee.eval.proceed fun function => do
      match ← Expr.evalList arguments with
      | .error cause => return .error cause
      | .ok values => call function values

/-- The values of some expressions from left to right, or the first error among them; what comes
behind that is not evaluated. -/
def Expr.evalList : List Expr → EvalM (Except RuntimeError (List Value))
  | [] => return .ok []
  | expression :: rest => do
    match ← expression.eval with
    | .error cause => return .error cause
    | value =>
      match ← Expr.evalList rest with
      | .error cause => return .error cause
      | .ok values => return .ok (value :: values)

/-- The value of a statement: a binding comes to `null`, a return to its value wrapped by
`Value.returned`, and an expression to its own value, a return out of it still wrapped. -/
def Stmt.eval : Stmt → EvalM Value
  | .letStmt name value =>
    value.eval.proceed fun value => do
      EvalM.bindName env name value
      return .null
  | .returnStmt none => return .returned .null
  | .returnStmt (some value) => value.eval.proceed fun value => return .returned value
  | .exprStmt value => value.eval

/-- The value of the last of some statements that is reached, or `last` if there is none. Wrapped
values and errors, the values that `Value.ends` says so of, end the list. -/
def Stmt.evalList (last : Value) : List Stmt → EvalM Value
  | [] => return last
  | statement :: rest => do
    let value ← statement.eval
    if value.ends then
      return value
    else
      Stmt.evalList value rest

end

/-- The value of a block, a return in it still wrapped; a block without statements comes to `null`.
-/
def Block.eval (block : Block) : EvalM Value := Stmt.evalList config call env .null block

/-- The value of the last of some statements of a program that is reached, or `last` if there is
none. A return gives the value of the program, unwrapped once. -/
def Program.evalFrom (last : Value) : List Stmt → EvalM Value
  | [] => return last
  | statement :: rest => do
    match ← statement.eval config call env with
    | .returned value => return value
    | .error cause => return .error cause
    | value => Program.evalFrom value rest

/-- **The value of a program**: that of its last statement, or of the first return that is reached.
-/
def Program.eval (program : Program) : EvalM Value :=
  Program.evalFrom config call env .null program.statements

/-- The value of a node. A wrapped value is taken out of its wrapping once, by `Value.unwrap`, at
blocks and statements; only for a single expression a return stays wrapped. -/
def Node.eval : Node → EvalM Value
  | .program tree => tree.eval config call env
  | .block tree => return (← Block.eval config call env tree).unwrap
  | .statement tree => return (← tree.eval config call env).unwrap
  | .expression tree => tree.eval config call env

end Trees

/-- A program goes on behind a statement unless that comes to an error or a wrapped value: one step
of `Program.evalFrom`. -/
theorem Program.evalFrom_run {config : Config} {env : Env} (call : Caller) (last : Value)
    (first : Stmt) (rest : List Stmt) (heap : Heap) :
    (Program.evalFrom config call env last (first :: rest)).run heap =
      match (first.eval config call env).run heap with
      | (.returned value, after) => (value, after)
      | (.error cause, after) => (.error cause, after)
      | (value, after) => (Program.evalFrom config call env value rest).run after := by
  rw [Program.evalFrom, StateT.run_bind]
  rcases (first.eval config call env).run heap with ⟨value, after⟩
  cases value <;> rfl

namespace Value

/-- **Calls a value with arguments.** The callee has to be a function, the number of its arguments
has to be right, and only then there has to be a call left: `run` evaluates a body in an
environment, or is absent if there is none. The body runs in a new scope inside the scopes that the
function carries. -/
def callWith (config : Config) (run : Option (Env → Block → EvalM Value)) : Caller
  | .function parameters body env, arguments => do
    if parameters.length ≠ arguments.length then
      return .error (.wrongArity parameters.length arguments.length)
    else
      match run with
      | none => return .error (.callsTooDeep config.maxCallDepth)
      | some run => do
        let inner ← EvalM.newScope env.chain
        EvalM.bindNames inner parameters arguments
        return (← run inner body).unwrap
  | callee, _ => return .error (.notCallable callee.kind)

/-- Calls a value with arguments where a number of calls may still be opened, this one included: the
body of a function is evaluated with one call less. -/
def call (config : Config) : Nat → Caller
  | 0 => callWith config none
  | left + 1 => callWith config (some (Block.eval config (call config left)))

end Value

end Monkey
