import Monkey.Eval.Basic

/-! # Evaluation under observation

What an evaluation does on its way, besides computing values: it changes bindings, passes
arguments and wraps values that are returned, each of which is an `Event`. Under observation, in
the monad `ObserveM`, an evaluation writes all of that down on a `Trail`. It comes to the same
value and the same bindings as one that nobody observes (`Node.observe_shows`,
`Value.observeCall_shows`). -/

namespace Monkey

/-- **What an evaluation does with values**, besides computing them. -/
inductive Event where
  /-- The bindings become these, by a binding or by a new scope. -/
  | changed (heap : Heap)
  /-- A value is called with these arguments, whatever value that is. -/
  | passed (arguments : List Value)
  /-- A value is wrapped to be returned, by a `return` statement. -/
  | wrapped (value : Value)

/-- **The bindings, and what happened so far**, the latest event first. -/
structure Trail where
  heap : Heap
  events : List Event

namespace Trail

/-- The bindings at the start of an observation, when nothing has happened. -/
def start (heap : Heap) : Trail := ⟨heap, []⟩

/-- One more event, which changes no binding. -/
def note (event : Event) (trail : Trail) : Trail := ⟨trail.heap, event :: trail.events⟩

/-- The bindings change, and that is an event. -/
def change (heap : Heap) (trail : Trail) : Trail := ⟨heap, .changed heap :: trail.events⟩

/-- A name is bound in the own scope of an environment, by `Heap.set`, and that is an event. -/
def bindName (env : Env) (name : String) (value : Value) (trail : Trail) : Trail :=
  trail.change (trail.heap.set env name value)

/-- Names are bound to values, pair by pair, each with an event of its own. -/
def bindNames (env : Env) : List String → List Value → Trail → Trail
  | name :: names, value :: values, trail =>
    (trail.bindName env name value).bindNames env names values
  | _, _, trail => trail

/-- A scope is added, with some scopes around it, by `Heap.newScope`, and that is an event. -/
def newScope (outer : List ScopeId) (trail : Trail) : Env × Trail :=
  ((trail.heap.newScope outer).1, trail.change (trail.heap.newScope outer).2)

end Trail

/-- **An evaluation under observation**: it may look at a trail, and add to it. -/
abbrev ObserveM := StateM Trail

namespace ObserveM

/-- The value of a name in an environment, as `EvalM.lookup` has it; to look is no event. -/
def lookup (env : Env) (name : String) : ObserveM Value :=
  return ((← get).heap.get? env name).getD (.error (.unboundName name))

/-- Goes on with the value of an evaluation, unless it is an error, as `EvalM.proceed` does. -/
def proceed (first : ObserveM Value) (next : Value → ObserveM Value) : ObserveM Value := do
  match ← first with
  | .error cause => return .error cause
  | value => next value

/-- Wraps a value to be returned, and writes that down. -/
def wrap (value : Value) : ObserveM Value := do
  modify (·.note (.wrapped value))
  return .returned value

end ObserveM

section Trees

variable (config : Config) (call : Value → List Value → ObserveM Value) (env : Env)

mutual

/-- **The value of an expression** under observation; otherwise it is evaluated as by `Expr.eval`.
-/
def Expr.observe : Expr → ObserveM Value
  | .int value _ => return .integer value
  | .bool value => return .boolean value
  | .ident name => ObserveM.lookup env name
  | .unary op operand => operand.observe.proceed fun value => return op.apply config value
  | .binary op left right =>
    left.observe.proceed fun leftValue =>
      right.observe.proceed fun rightValue => return op.apply config leftValue rightValue
  | .cond condition consequence none =>
    condition.observe.proceed fun value =>
      if value.isTruthy then Stmt.observeList .null consequence else return .null
  | .cond condition consequence (some alternative) =>
    condition.observe.proceed fun value =>
      if value.isTruthy then Stmt.observeList .null consequence
      else Stmt.observeList .null alternative
  | .fn parameters body => return .function parameters body env
  | .call callee arguments =>
    callee.observe.proceed fun function => do
      match ← Expr.observeList arguments with
      | .error cause => return .error cause
      | .ok values => do
        modify (·.note (.passed values))
        call function values

/-- The values of some expressions, or the first error among them, as by `Expr.evalList`. -/
def Expr.observeList : List Expr → ObserveM (Except RuntimeError (List Value))
  | [] => return .ok []
  | expression :: rest => do
    match ← expression.observe with
    | .error cause => return .error cause
    | value =>
      match ← Expr.observeList rest with
      | .error cause => return .error cause
      | .ok values => return .ok (value :: values)

/-- The value of a statement, as by `Stmt.eval`; bindings and wrapped values are written down. -/
def Stmt.observe : Stmt → ObserveM Value
  | .letStmt name value =>
    value.observe.proceed fun value => do
      modify (·.bindName env name value)
      return .null
  | .returnStmt none => ObserveM.wrap .null
  | .returnStmt (some value) => value.observe.proceed ObserveM.wrap
  | .exprStmt value => value.observe

/-- The value of the last of some statements that is reached, or `last` if there is none, as by
`Stmt.evalList`. -/
def Stmt.observeList (last : Value) : List Stmt → ObserveM Value
  | [] => return last
  | statement :: rest => do
    let value ← statement.observe
    if value.ends then
      return value
    else
      Stmt.observeList value rest

end

/-- The value of the last of some statements of a program that is reached, or `last` if there is
none, as by `Program.evalFrom`. -/
def Program.observeFrom (last : Value) : List Stmt → ObserveM Value
  | [] => return last
  | statement :: rest => do
    match ← statement.observe config call env with
    | .returned value => return value
    | .error cause => return .error cause
    | value => Program.observeFrom value rest

/-- The value of a node under observation, as by `Node.eval`. -/
def Node.observe : Node → ObserveM Value
  | .program tree => Program.observeFrom config call env .null tree.statements
  | .block tree => return (← Stmt.observeList config call env .null tree).unwrap
  | .statement tree => return (← tree.observe config call env).unwrap
  | .expression tree => tree.observe config call env

end Trees

namespace Value

/-- Calls a value with arguments, as `Value.callWith` does; `run` evaluates a body, or is absent if
no call is left. -/
def observeWith (config : Config) (run : Option (Env → Block → ObserveM Value)) :
    Value → List Value → ObserveM Value
  | .function parameters body env, arguments => do
    if parameters.length ≠ arguments.length then
      return .error (.wrongArity parameters.length arguments.length)
    else
      match run with
      | none => return .error (.callsTooDeep config.maxCallDepth)
      | some run => do
        let inner ← modifyGet (·.newScope env.chain)
        modify (·.bindNames inner parameters arguments)
        return (← run inner body).unwrap
  | callee, _ => return .error (.notCallable callee.kind)

/-- Calls a value with arguments where a number of calls may still be opened, as `Value.call` does.
-/
def observeCall (config : Config) : Nat → Value → List Value → ObserveM Value
  | 0 => observeWith config none
  | left + 1 =>
    observeWith config (some fun env => Stmt.observeList config (observeCall config left) env .null)

end Value

/-! ## Observation changes nothing -/

/-- **An evaluation under observation shows another one**: it comes to the same value and bindings,
from whatever trail. -/
def ObserveM.Shows {α : Type} (observed : ObserveM α) (plain : EvalM α) : Prop :=
  ∀ trail : Trail, plain.run trail.heap = ((observed.run trail).1, (observed.run trail).2.heap)

namespace ObserveM.Shows

variable {α β : Type} {observed : ObserveM α} {plain : EvalM α}

/-- A value that is just there shows itself. -/
theorem pure (value : α) : Shows (Pure.pure value) (Pure.pure value) := fun _ => rfl

/-- Steps in turn show steps in turn. -/
theorem bind {next : α → ObserveM β} {next' : α → EvalM β} (first : Shows observed plain)
    (second : ∀ value, Shows (next value) (next' value)) :
    Shows (observed >>= next) (plain >>= next') := by
  intro trail
  have step : (plain >>= next').run trail.heap =
      (next' (plain.run trail.heap).1).run (plain.run trail.heap).2 := rfl
  rw [step, first trail]
  exact second _ _

/-- To write something down makes no difference to value and bindings. -/
theorem note {event : Event} (rest : Shows observed plain) :
    Shows (do modify (·.note event); observed) plain := fun trail => rest (trail.note event)

/-- To wrap a value is to write it down and return it as a `Value.returned`. -/
theorem wrap (value : Value) : Shows (ObserveM.wrap value) (Pure.pure (.returned value)) :=
  note (pure _)

/-- A name is looked up in the same bindings, so it has the same value. -/
theorem lookup (env : Env) (name : String) :
    Shows (ObserveM.lookup env name) (EvalM.lookup env name) :=
  fun trail => EvalM.lookup_run env name trail.heap

/-- In `ObserveM.proceed` an error is passed on, and any other value goes to the next step, as in
`EvalM.proceed`. -/
theorem proceed {first : ObserveM Value} {first' : EvalM Value} {next : Value → ObserveM Value}
    {next' : Value → EvalM Value} (same : Shows first first')
    (second : ∀ value, Shows (next value) (next' value)) :
    Shows (first.proceed next) (first'.proceed next') := by
  refine same.bind fun value => ?_
  cases value with
  | error cause => exact pure _
  | _ => exact second _

/-- A name is bound in the same bindings, to the same value. -/
theorem bindName (env : Env) (name : String) (value : Value) :
    Shows (modify (·.bindName env name value)) (EvalM.bindName env name value) := fun _ => rfl

/-- Names are bound in the same bindings, pair by pair. -/
theorem bindNames (env : Env) (names : List String) (values : List Value) :
    Shows (modify (·.bindNames env names values)) (EvalM.bindNames env names values) := by
  induction names generalizing values with
  | nil => exact fun _ => rfl
  | cons name names ih =>
    cases values with
    | nil => exact fun _ => rfl
    | cons value values =>
      intro trail
      exact ih values (trail.bindName env name value)

/-- A scope is added to the same bindings, with the same number. -/
theorem newScope (outer : List ScopeId) :
    Shows (modifyGet (·.newScope outer)) (EvalM.newScope outer) := fun _ => rfl

end ObserveM.Shows

section Trees

open ObserveM Shows

variable {config : Config} {call : Value → List Value → ObserveM Value} {caller : Caller}
  {env : Env}

mutual

/-- An observed expression has its value: `Expr.observe` shows `Expr.eval` if observed calls show
calls. -/
theorem Expr.observe_shows
    (calls : ∀ function arguments, Shows (call function arguments) (caller function arguments)) :
    (tree : Expr) → Shows (tree.observe config call env) (tree.eval config caller env)
  | .int _ _ | .bool _ | .fn _ _ => .pure _
  | .ident name => .lookup env name
  | .unary _ operand => (operand.observe_shows calls).proceed fun _ => .pure _
  | .binary _ left right =>
    (left.observe_shows calls).proceed fun _ => (right.observe_shows calls).proceed fun _ => .pure _
  | .cond condition consequence none => by
    refine (condition.observe_shows calls).proceed fun value => ?_
    split
    · exact Stmt.observeList_shows calls consequence .null
    · exact .pure _
  | .cond condition consequence (some alternative) => by
    refine (condition.observe_shows calls).proceed fun value => ?_
    split
    · exact Stmt.observeList_shows calls consequence .null
    · exact Stmt.observeList_shows calls alternative .null
  | .call callee arguments => by
    refine (callee.observe_shows calls).proceed fun function => ?_
    refine (Expr.observeList_shows calls arguments).bind fun values => ?_
    cases values with
    | error cause => exact .pure _
    | ok values => exact .note (calls function values)

/-- Observed expressions have their values: `Expr.observeList` shows `Expr.evalList`. -/
theorem Expr.observeList_shows
    (calls : ∀ function arguments, Shows (call function arguments) (caller function arguments)) :
    (trees : List Expr) →
    Shows (Expr.observeList config call env trees) (Expr.evalList config caller env trees)
  | [] => .pure _
  | first :: rest => by
    refine (first.observe_shows calls).bind fun value => ?_
    cases value with
    | error cause => exact .pure _
    | _ =>
      refine (Expr.observeList_shows calls rest).bind fun values => ?_
      cases values <;> exact .pure _

/-- An observed statement has its value: `Stmt.observe` shows `Stmt.eval`. -/
theorem Stmt.observe_shows
    (calls : ∀ function arguments, Shows (call function arguments) (caller function arguments)) :
    (tree : Stmt) → Shows (tree.observe config call env) (tree.eval config caller env)
  | .letStmt name value => (value.observe_shows calls).proceed fun value =>
      (bindName env name value).bind fun _ => .pure _
  | .returnStmt none => .wrap _
  | .returnStmt (some value) => (value.observe_shows calls).proceed .wrap
  | .exprStmt value => value.observe_shows calls

/-- Observed statements have the value of the last of them that is reached. -/
theorem Stmt.observeList_shows
    (calls : ∀ function arguments, Shows (call function arguments) (caller function arguments)) :
    (trees : List Stmt) → (last : Value) →
    Shows (Stmt.observeList config call env last trees) (Stmt.evalList config caller env last trees)
  | [], _ => .pure _
  | first :: rest, _ => by
    refine (first.observe_shows calls).bind fun value => ?_
    by_cases ends : value.ends = true
    · rw [if_pos ends, if_pos ends]
      exact .pure _
    · rw [if_neg ends, if_neg ends]
      exact Stmt.observeList_shows calls rest value

end

/-- The observed statements of a program have the value of the last of them that is reached. -/
theorem Program.observeFrom_shows
    (calls : ∀ function arguments, Shows (call function arguments) (caller function arguments))
    (trees : List Stmt) (last : Value) :
    Shows (Program.observeFrom config call env last trees)
      (Program.evalFrom config caller env last trees) := by
  induction trees generalizing last with
  | nil => exact .pure _
  | cons first rest ih =>
    refine (first.observe_shows calls).bind fun value => ?_
    cases value with
    | returned value | error cause => exact .pure _
    | _ => exact ih _

/-- An observed node has its value: `Node.observe` shows `Node.eval` if observed calls show calls.
-/
theorem Node.observe_shows
    (calls : ∀ function arguments, Shows (call function arguments) (caller function arguments))
    (node : Node) :
    Shows (node.observe config call env) (node.eval config caller env) := by
  cases node with
  | program tree => exact Program.observeFrom_shows calls tree.statements .null
  | block tree => exact (Stmt.observeList_shows calls tree .null).bind fun _ => .pure _
  | statement tree => exact (tree.observe_shows calls).bind fun _ => .pure _
  | expression tree => exact tree.observe_shows calls

end Trees

namespace Value

open ObserveM Shows

/-- An observed call has its value if the body of the function has. -/
theorem observeWith_shows {config : Config} {run : Option (Env → Block → ObserveM Value)}
    {run' : Option (Env → Block → EvalM Value)}
    (bodies : Option.Rel (fun run run' => ∀ env body, Shows (run env body) (run' env body))
      run run')
    (function : Value) (arguments : List Value) :
    Shows (observeWith config run function arguments)
      (callWith config run' function arguments) := by
  cases function with
  | function parameters body env =>
    change Shows (if parameters.length ≠ arguments.length then _ else _)
      (if parameters.length ≠ arguments.length then _ else _)
    by_cases wrong : parameters.length ≠ arguments.length
    · rw [if_pos wrong, if_pos wrong]
      exact .pure _
    · rw [if_neg wrong, if_neg wrong]
      cases bodies with
      | none => exact .pure _
      | some bodies =>
        exact (newScope env.chain).bind fun inner =>
          (bindNames inner parameters arguments).bind fun _ =>
            (bodies inner body).bind fun _ => .pure _
  | _ => exact .pure _

/-- An observed call has its value, however many calls are left: by induction on that number. -/
theorem observeCall_shows (config : Config) (left : Nat) (function : Value)
    (arguments : List Value) :
    Shows (observeCall config left function arguments) (call config left function arguments) := by
  induction left generalizing function arguments with
  | zero => exact observeWith_shows .none function arguments
  | succ left ih =>
    exact observeWith_shows (.some fun _ body => Stmt.observeList_shows ih body .null)
      function arguments

end Value

end Monkey
