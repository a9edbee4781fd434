import Monkey.Eval.Evaluator
import Monkey.Proofs.Eval.Wrapping

/-! # Where the wrapper stays inside

The wrapper of a returned value stays inside the function or program that returned it,
`Place.Contain`, for all trees that are return-safe for some places exactly if the places whose
value is kept are among them (`Place.contain_iff`). One way this is `Place.contain_of_keepsValue`;
the other way each of the three places has a program that lets a wrapper out there. -/

namespace Monkey

/-- An event in which nothing wrapped is bound or passed; wrapping itself is one of them. -/
def Event.Unwrapped : Event → Prop
  | .changed heap => heap.All Value.IsUnwrapped
  | .passed arguments => ∀ argument ∈ arguments, argument.IsUnwrapped
  | .wrapped _ => True

/-- In a plain event, where functions are return-safe too, nothing wrapped is bound or passed. -/
theorem Event.unwrapped_of_plain {guarded : Place → Prop} {event : Event}
    (plain : event.All (Value.Plain guarded)) : event.Unwrapped := by
  cases event with
  | changed heap => exact fun id name value bound => (plain id name value bound).isUnwrapped
  | passed arguments => exact fun argument passed => (plain argument passed).isUnwrapped
  | wrapped value => trivial

/-- What a `run` reports is the value of its program in a new environment, unless that is an error.
-/
theorem run_eq_ok {source : String} {program : Program} (parsed : Program.parse source = .ok program)
    {config : Config} {heap : Heap} {value : Value}
    (came : ((run source config).run heap).1 = .ok value) :
    ((program.eval config (Value.call config config.maxCallDepth) (heap.newScope []).1).run
      (heap.newScope []).2).1 = value := by
  rw [run, parsed] at came
  simp only [Evaluator.new, Evaluator.eval, Node.eval, bind_assoc, pure_bind, StateT.run_bind,
    EvalM.newScope_run] at came
  dsimp only [bind] at came
  split at came
  · cases came
  · cases came
    rfl

namespace Place

/-- **The wrapper stays inside**, whatever is evaluated: from plain bindings no return-safe program,
no run of its source and no call of plain values comes to a wrapped value, and on the way of a
program nothing wrapped is bound or passed. -/
def Contain (guarded : Place → Prop) : Prop :=
  ∀ (config : Config) (left : Nat) (env : Env) (heap : Heap), heap.All (Value.Plain guarded) →
    (∀ program : Program, program.ReturnSafe guarded → ∃ (value : Value) (trail : Trail),
      (program.eval config (Value.call config left) env).run heap = (value, trail.heap) ∧
      ((Node.program program).observe config (Value.observeCall config left) env).run
        (.start heap) = (value, trail) ∧
      value.IsUnwrapped ∧ ∀ event ∈ trail.events, event.Unwrapped) ∧
    (∀ (source : String) (program : Program), Program.parse source = .ok program →
      program.ReturnSafe guarded →
      ∀ value : Value, ((run source config).run heap).1 = .ok value → value.IsUnwrapped) ∧
    ∀ (function : Value) (arguments : List Value), function.Plain guarded →
      (∀ argument ∈ arguments, argument.Plain guarded) →
      ((Value.call config left function arguments).run heap).1.IsUnwrapped

/-- The conditional `if (true) { return 1 }`, which comes to a wrapped value. -/
def returningConditional : Expr := .cond (.bool true) [.returnStmt (some (.int 1 "1"))] none

variable {guarded : Place → Prop}

/-- There is no returning conditional within a returning conditional, so `returningConditional` is
itself return-safe. -/
theorem returnSafe_returningConditional : returningConditional.ReturnSafe guarded :=
  ⟨⟨fun _ => rfl, trivial⟩, ⟨fun _ => rfl, trivial⟩, trivial⟩

/-- A first scope binds nothing, so all that it binds is plain. -/
theorem all_plain_newScope : (Heap.empty.newScope []).2.All (Value.Plain guarded) :=
  Heap.All.empty.newScope []

/-- The statement `let x = if (true) { return 1 };` binds a wrapped value, so `letValue` has to be
among the guarded places. -/
theorem Contain.letValue (contain : Contain guarded) : guarded .letValue := by
  refine Classical.byContradiction fun missing => ?_
  let program : Program := ⟨[.letStmt "x" returningConditional]⟩
  have safe : program.ReturnSafe guarded :=
    ⟨⟨fun met => (missing met).elim, returnSafe_returningConditional⟩, trivial⟩
  obtain ⟨value, trail, -, observed, -, events⟩ :=
    (contain .standard 1 (Heap.empty.newScope []).1 _ all_plain_newScope).1 program safe
  cases observed
  let heap := (Heap.empty.newScope []).2
  let global := (Heap.empty.newScope []).1
  have unwrapped : (heap.set global "x" (.returned (.integer 1))).All Value.IsUnwrapped :=
    events (.changed _) (.head _)
  have bound : ((heap.set global "x" (.returned (.integer 1))).scope global.own)["x"]? =
      some (.returned (.integer 1)) := by
    rw [Heap.scope_set_own Nat.zero_lt_one]
    exact Std.TreeMap.getElem?_insert_self
  exact unwrapped global.own "x" _ bound

/-- The program `return if (true) { return 1 };` comes to a wrapped value, so `returnValue` has to
be guarded. -/
theorem Contain.returnValue (contain : Contain guarded) : guarded .returnValue := by
  refine Classical.byContradiction fun missing => ?_
  let program : Program := ⟨[.returnStmt (some returningConditional)]⟩
  have safe : program.ReturnSafe guarded :=
    ⟨⟨fun met => (missing met).elim, returnSafe_returningConditional⟩, trivial⟩
  obtain ⟨value, trail, -, observed, unwrapped, -⟩ :=
    (contain .standard 1 (Heap.empty.newScope []).1 _ all_plain_newScope).1 program safe
  cases observed
  exact unwrapped

/-- The call `fn(x) { }(if (true) { return 1 })` passes a wrapped value, so `argument` has to be
guarded. -/
theorem Contain.argument (contain : Contain guarded) : guarded .argument := by
  refine Classical.byContradiction fun missing => ?_
  let program : Program := ⟨[.exprStmt (.call (.fn ["x"] []) [returningConditional])]⟩
  have safe : program.ReturnSafe guarded :=
    ⟨⟨⟨fun _ => rfl, trivial⟩, ⟨fun met => (missing met).elim, returnSafe_returningConditional⟩,
      trivial⟩, trivial⟩
  obtain ⟨value, trail, -, observed, -, events⟩ :=
    (contain .standard 1 (Heap.empty.newScope []).1 _ all_plain_newScope).1 program safe
  cases observed
  have unwrapped : ∀ argument ∈ [Value.returned (.integer 1)], argument.IsUnwrapped :=
    events (.passed [.returned (.integer 1)]) (.tail _ (.tail _ (.head _)))
  exact unwrapped _ (.head _)

/-- The wrapper stays inside where values that are kept, those at the places of `Place.keepsValue`,
may not come out of returning conditionals. -/
theorem contain_of_keepsValue (strict : ∀ place : Place, place.keepsValue → guarded place) :
    Contain guarded := by
  intro config left env heap plain
  refine ⟨?program, ?source, ?call⟩
  case program =>
    intro program safe
    have shows : ObserveM.Shows ((Node.program program).observe config _ env)
        ((Node.program program).eval config _ env) :=
      Node.observe_shows (Value.observeCall_shows config left) _
    obtain ⟨held, after⟩ := Program.keepsFrom strict (Value.keepsCall strict config left)
      program.statements .null safe (.start heap) (.start plain)
    exact ⟨_, _, shows (.start heap), rfl, (held.plain rfl).isUnwrapped,
      fun event past => Event.unwrapped_of_plain (after.events event past)⟩
  case source =>
    intro source program parsed safe value came
    have kept := Program.eval_keeps strict config config.maxCallDepth (heap.newScope []).1 safe
    rw [← run_eq_ok parsed came]
    exact ((kept _ (plain.newScope [])).1.plain rfl).isUnwrapped
  case call =>
    intro function arguments callee fits
    have kept := Value.call_keeps strict config left (callee.held true).unwrap fits
    exact ((kept heap plain).1.plain rfl).isUnwrapped

/-- **The wrapper stays inside** for all trees that are return-safe for some places exactly if the
places whose value is kept are among them: the value of a binding, the value of a return and the
arguments of a call. -/
theorem contain_iff (guarded : Place → Prop) :
    Contain guarded ↔ ∀ place : Place, place.keepsValue → guarded place := by
  constructor
  · intro contain place keeps
    cases place with
    | letValue => exact contain.letValue
    | returnValue => exact contain.returnValue
    | argument => exact contain.argument
    | condition | operand | callee => cases keeps
  · exact contain_of_keepsValue

end Place

/-- The program `return if (true) { return 1 };` comes to a value that is still wrapped. -/
theorem run_return_returning :
    Program.parse "return if (true) \x7b return 1 \x7d;" =
      .ok ⟨[.returnStmt (some Place.returningConditional)]⟩ ∧
    ((run "return if (true) \x7b return 1 \x7d;").run Heap.empty).1 =
      .ok (.returned (.integer 1)) := by
  have parsed : Program.parse "return if (true) \x7b return 1 \x7d;" =
      .ok ⟨[.returnStmt (some Place.returningConditional)]⟩ := by
    rw [Program.parse, ParseOutcome.toExcept, if_pos (by decide +kernel)]
    exact congrArg Except.ok (by decide +kernel)
  refine ⟨parsed, ?_⟩
  rw [run, parsed]
  rfl

end Monkey
