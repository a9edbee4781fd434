import Monkey.Eval.Basic

/-! # Evaluation with abrupt returns

An evaluator to compare with, `Program.complete`. No value is wrapped here: a return throws its
value in the monad `ReturnM`, which leaves all lists of statements around it at once, however deep
they are nested, and is caught by `ReturnM.conclude` where the function was called or where the
program ends. Errors are passed on as values. -/

namespace Monkey

/-- An evaluation that returned values are thrown out of, so that no list of statements has to look
for them. -/
abbrev ReturnM := EStateM Value Heap

namespace ReturnM

/-- The value of a name in an environment, as `EvalM.lookup` has it. -/
def lookup (env : Env) (name : String) : ReturnM Value :=
  return ((← get).get? env name).getD (.error (.unboundName name))

/-- Goes on with the value of an evaluation, unless it is an error, as `EvalM.proceed` does. -/
def proceed (first : ReturnM Value) (next : Value → ReturnM Value) : ReturnM Value := do
  match ← first with
  | .error cause => return .error cause
  | value => next value

/-- Binds names to values, pair by pair, as `EvalM.bindNames` does. -/
def bindNames (env : Env) : List String → List Value → ReturnM Unit
  | name :: names, value :: values => do
    modify (·.set env name value)
    bindNames env names values
  | _, _ => return ()

/-- **The end of a function or program**: it has the value that its body comes to or throws. -/
def conclude (body : ReturnM Value) : ReturnM Value := tryCatch body fun value => return value

end ReturnM

section Trees

variable (config : Config) (call : Value → List Value → ReturnM Value) (env : Env)

mutual

/-- **The value of an expression** where returns are thrown; otherwise it is evaluated as by
`Expr.eval`. -/
def Expr.complete : Expr → ReturnM Value
  | .int value _ => return .integer value
  | .bool value => return .boolean value
  | .ident name => ReturnM.lookup env name
  | .unary op operand => operand.complete.proceed fun value => return op.apply config value
  | .binary op left right =>
    left.complete.proceed fun leftValue =>
      right.complete.proceed fun rightValue => return op.apply config leftValue rightValue
  | .cond condition consequence none =>
    condition.complete.proceed fun value =>
      if value.isTruthy then Stmt.completeList .null consequence else return .null
  | .cond condition consequence (some alternative) =>
    condition.complete.proceed fun value =>
      if value.isTruthy then Stmt.completeList .null consequence
      else Stmt.completeList .null alternative
  | .fn parameters body => return .function parameters body env
  | .call callee arguments =>
    callee.complete.proceed fun function => do
      match ← Expr.completeList arguments with
      | .error cause => return .error cause
      | .ok values => call function values

/-- The values of some expressions, or the first error among them, as by `Expr.evalList`. -/
def Expr.completeList : List Expr → ReturnM (Except RuntimeError (List Value))
  | [] => return .ok []
  | expression :: rest => do
    match ← expression.complete with
    | .error cause => return .error cause
    | value =>
      match ← Expr.completeList rest with
      | .error cause => return .error cause
      | .ok values => return .ok (value :: values)

/-- The value of a statement; a binding comes to `null`, and a return throws its value instead of
wrapping it. -/
def Stmt.complete : Stmt → ReturnM Value
  | .letStmt name value =>
    value.complete.proceed fun value => do
      modify (·.set env name value)
      return .null
  | .returnStmt none => throw .null
  | .returnStmt (some value) => value.complete.proceed fun value => throw value
  | .exprStmt value => value.complete

/-- The value of the last of some statements, or `last` if there is none. Errors end the list;
nothing has to be said about returns, which never get here. -/
def Stmt.completeList (last : Value) : List Stmt → ReturnM Value
  | [] => return last
  | statement :: rest => statement.complete.proceed fun value => Stmt.completeList value rest

end

/-- **The value of a program**: what its statements come to, or what a return among them throws. -/
def Program.complete (program : Program) : ReturnM Value :=
  ReturnM.conclude (Stmt.completeList config call env .null program.statements)

end Trees

namespace Value

/-- Calls a value with arguments, as `Value.callWith` does; `run` evaluates a body, or is absent if
no call is left, and `ReturnM.conclude` ends the body. -/
def completeWith (config : Config) (run : Option (Env → Block → ReturnM Value)) :
    Value → List Value → ReturnM Value
  | .function parameters body env, arguments => do
    if parameters.length ≠ arguments.length then
      return .error (.wrongArity parameters.length arguments.length)
    else
      match run with
      | none => return .error (.callsTooDeep config.maxCallDepth)
      | some run => do
        let inner ← modifyGet (·.newScope env.chain)
        ReturnM.bindNames inner parameters arguments
        ReturnM.conclude (run inner body)
  | callee, _ => return .error (.notCallable callee.kind)

/-- Calls a value with arguments where a number of calls may still be opened, this one included, as
`Value.call` does. -/
def completeCall (config : Config) : Nat → Value → List Value → ReturnM Value
  | 0 => completeWith config none
  | left + 1 =>
    completeWith config
      (some fun env => Stmt.completeList config (completeCall config left) env .null)

end Value

end Monkey
