import Monkey.Proofs.Eval.Observed

/-! # Evaluation with exceptions

An evaluator to compare `Node.eval` with. No error is a value here: whatever produces an error
throws it out of the whole evaluation at once, so `Expr.attempt`, `Stmt.attempt` and
`Node.attempt` never look for errors to pass them on. Like an evaluation under observation
(`Expr.observe`), it writes the bindings, the calls and the wrapped values down in a `Trail` on
its way. That the two agree is proved in the module on exceptions. -/

namespace Monkey

/-- An evaluation that a `RuntimeError` is thrown out of; its state is the `Trail` of what has been
bound, called and wrapped so far. -/
abbrev ThrowM := EStateM RuntimeError Trail

namespace ThrowM

/-- The value of a name in an environment, where it has to be bound: otherwise `unboundName`
is thrown. -/
def lookup (env : Env) (name : String) : ThrowM Value := do
  match (← get).heap.get? env name with
  | some value => return value
  | none => throw (.unboundName name)

/-- What an operator answers. `UnaryOp.apply` and `BinaryOp.apply` give errors as values, so an
`error` among them is thrown here. -/
def answer : Value → ThrowM Value
  | .error cause => throw cause
  | value => return value

/-- Wraps a value to be returned, and writes this down in the `Trail` as a `wrapped` value. -/
def wrap (value : Value) : ThrowM Value := do
  modify (·.note (.wrapped value))
  return .returned value

end ThrowM

section Trees

variable (config : Config) (call : Value → List Value → ThrowM Value) (env : Env)

mutual

/-- The value of an expression: the counterpart of `Expr.eval`, with no look at what the parts come
to but for the truth of a condition. -/
def Expr.attempt : Expr → ThrowM Value
  | .int value _ => return .integer value
  | .bool value => return .boolean value
  | .ident name => ThrowM.lookup env name
  | .unary op operand => do
    let value ← operand.attempt
    ThrowM.answer (op.apply config value)
  | .binary op left right => do
    let leftValue ← left.attempt
    let rightValue ← right.attempt
    ThrowM.answer (op.apply config leftValue rightValue)
  | .cond condition consequence none => do
    let value ← condition.attempt
    if value.isTruthy then Stmt.attemptList .null consequence else return .null
  | .cond condition consequence (some alternative) => do
    let value ← condition.attempt
    if value.isTruthy then Stmt.attemptList .null consequence
    else Stmt.attemptList .null alternative
  | .fn parameters body => return .function parameters body env
  | .call callee arguments => do
    let function ← callee.attempt
    let values ← Expr.attemptList arguments
    modify (·.note (.passed values))
    call function values

/-- The values of some expressions, from left to right; the first that throws is the last to be
evaluated. -/
def Expr.attemptList : List Expr → ThrowM (List Value)
  | [] => return []
  | expression :: rest => do
    let value ← expression.attempt
    let values ← Expr.attemptList rest
    return value :: values

/-- The value of a statement, as in `Stmt.eval`; a binding is made by `Trail.bindName` and comes to
null. -/
def Stmt.attempt : Stmt → ThrowM Value
  | .letStmt name value => do
    let value ← value.attempt
    modify (·.bindName env name value)
    return .null
  | .returnStmt none => ThrowM.wrap .null
  | .returnStmt (some value) => do
    let value ← value.attempt
    ThrowM.wrap value
  | .exprStmt value => value.attempt

/-- The value of the last of some statements that is reached, or `last` if there is none. The first
`returned` value ends the list and stays wrapped. -/
def Stmt.attemptList (last : Value) : List Stmt → ThrowM Value
  | [] => return last
  | statement :: rest => do
    match ← statement.attempt with
    | .returned value => return .returned value
    | value => Stmt.attemptList value rest

end

/-- The value of the last of some statements of a program that is reached, or `last` if there is
none. A `returned` value is unwrapped and becomes the value of the program. -/
def Program.attemptFrom (last : Value) : List Stmt → ThrowM Value
  | [] => return last
  | statement :: rest => do
    match ← statement.attempt config call env with
    | .returned value => return value
    | value => Program.attemptFrom value rest

/-- The value of a node, as in `Node.eval`: what blocks and statements come to is unwrapped once. -/
def Node.attempt : Node → ThrowM Value
  | .program tree => Program.attemptFrom config call env .null tree.statements
  | .block tree => return (← Stmt.attemptList config call env .null tree).unwrap
  | .statement tree => return (← tree.attempt config call env).unwrap
  | .expression tree => tree.attempt config call env

end Trees

namespace Value

/-- Calls a value with arguments, where `run` evaluates a body. The callee has to be a function,
then the number of its arguments has to be right, and then there has to be a call left: `run` is
`none` at the depth limit. -/
def attemptWith (config : Config) (run : Option (Env → Block → ThrowM Value)) :
    Value → List Value → ThrowM Value
  | .function parameters body env, arguments => do
    if parameters.length ≠ arguments.length then
      throw (.wrongArity parameters.length arguments.length)
    else
      match run with
      | none => throw (.callsTooDeep config.maxCallDepth)
      | some run => do
        let inner ← modifyGet (·.newScope env.chain)
        modify (·.bindNames inner parameters arguments)
        return (← run inner body).unwrap
  | callee, _ => throw (.notCallable callee.kind)

/-- Calls a value with arguments where a number of calls may still be opened, this one included:
`attemptWith`, with one call less for the body. -/
def attemptCall (config : Config) : Nat → Value → List Value → ThrowM Value
  | 0 => attemptWith config none
  | left + 1 =>
    attemptWith config (some fun env => Stmt.attemptList config (attemptCall config left) env .null)

end Value

end Monkey
