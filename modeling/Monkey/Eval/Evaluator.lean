import Monkey.Eval.Basic
import Monkey.Parse.Program

/-! # Evaluators

An `Evaluator` keeps a configuration and a global environment, so that the bindings of one program
are in sight of the next. `run` is the whole life of an evaluator: it reads one source, evaluates
it and drops the global bindings. What it reports where it has no value is a `RunError`. -/

namespace Monkey

/-- **An evaluator**: a configuration and a global environment, in which every node it is given is
evaluated. -/
structure Evaluator where
  config : Config
  env : Env

namespace Evaluator

/-- An evaluator over a new environment, with some scopes around it; without any, its environment is
outermost. -/
def new (config : Config := .standard) (outer : List ScopeId := []) : EvalM Evaluator := do
  return ⟨config, ← EvalM.newScope outer⟩

/-- The value of a node in the global environment, outside all calls, so that all `maxCallDepth` of
them are left. -/
def eval (evaluator : Evaluator) (node : Node) : EvalM Value :=
  node.eval evaluator.config (Value.call evaluator.config evaluator.config.maxCallDepth)
    evaluator.env

/-- Drops all global bindings, by `Heap.clear`; scopes around the global environment keep theirs. -/
def reset (evaluator : Evaluator) : EvalM Unit :=
  modify fun heap => heap.clear evaluator.env

end Evaluator

/-- Why a `run` has no value: its source could not be read, or its evaluation came to an error. -/
inductive RunError where
  /-- The source could not be read, for these errors, in the order of the source. -/
  | parse (errors : List ParseError)
  /-- The program was read, and its value is an error of this cause. -/
  | evaluation (cause : RuntimeError)

/-- What a failed run reports: the summary of all parse errors, or the message of the one run-time
error. -/
def RunError.message : RunError → String
  | parse errors => ParseError.summary errors
  | evaluation cause => "evaluation failed: " ++ cause.message

/-- **Reads a source and evaluates it** on an evaluator of its own, whose global bindings are
dropped at the end, whatever the value was. A source with parse errors is not evaluated at all. -/
def run (source : String) (config : Config := .standard) : EvalM (Except RunError Value) :=
  match Program.parse source with
  | .error errors => return .error (.parse errors)
  | .ok program => do
    let evaluator ← Evaluator.new config
    let value ← evaluator.eval (.program program)
    evaluator.reset
    match value with
    | .error cause => return .error (.evaluation cause)
    | value => return .ok value

end Monkey
