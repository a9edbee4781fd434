import Monkey.Eval.Evaluator
import Monkey.Proofs.Eval.Alike
import Monkey.Proofs.Eval.Frame

/-! # As good as new

An evaluator that has been used leaves scopes behind, and functions that still see its global
scope. Once its global bindings are dropped none of them is in sight, and no call is open,
whatever the evaluations before came to. So from there it does what a new evaluator does, and the
two agree in all that a program can tell: they are `Machine.Same`, up to the number of the global
scope. The result is `Machine.reset_as_new`. -/

namespace Monkey

/-! ## Evaluations in turn -/

/-- Evaluates some nodes on an evaluator, one after the other, each with the bindings of those
before it. -/
def Evaluator.evalAll (evaluator : Evaluator) : List Node → EvalM (List Value)
  | [] => return []
  | node :: rest => do
    let value ← evaluator.eval node
    return value :: (← evaluator.evalAll rest)

/-- Evaluates some nodes on a machine, one after the other, each from the state that the one before
left. -/
def MachineM.evalAll (config : Config) : List Node → MachineM (List Value)
  | [] => return []
  | node :: rest => do
    let value ← node.execute config (Value.apply config)
    return value :: (← evalAll config rest)

/-- Drops the global bindings of a machine, as `Evaluator.reset` does those of an evaluator. -/
def MachineM.reset (config : Config) : MachineM Unit :=
  MachineM.step fun env => (⟨config, env⟩ : Evaluator).reset

/-- A new evaluator as a machine: its environment is a new scope with nothing around it, and no call
is open. -/
def Machine.new (config : Config) (heap : Heap) : Machine :=
  let (evaluator, heap) := (Evaluator.new config).run heap
  ⟨evaluator.env, 0, heap⟩

section

variable (config : Config) (nodes : List Node)

/-- Outside all calls a machine comes to what an evaluator comes to, node after node, and there it
ends. -/
theorem MachineM.evalAll_runs :
    MachineM.Runs 0 (evalAll config nodes) fun env =>
      (⟨config, env⟩ : Evaluator).evalAll nodes := by
  induction nodes with
  | nil => exact .pure []
  | cons node rest ih =>
    have first : MachineM.Runs 0 (node.execute config (Value.apply config)) fun env =>
        (⟨config, env⟩ : Evaluator).eval node :=
      Node.execute_runs (Value.apply_runs config 0) node
    exact first.bind fun value => ih.bind fun values => .pure (value :: values)

/-- An evaluator writes its global scope alone, whatever nodes it evaluates: `Node.frames` for each
of them. -/
theorem Evaluator.evalAll_frames (env : Env) :
    ((⟨config, env⟩ : Evaluator).evalAll nodes).Frames (· = env.own) := by
  induction nodes with
  | nil => exact .pure []
  | cons node rest ih =>
    exact (Node.frames (Value.call_frames config config.maxCallDepth) node).bind fun value =>
      ih.bind fun values => .pure (value :: values)

/-- Evaluations in turn come to the same up to a renaming: `Node.alike` for each of them. -/
theorem Evaluator.evalAll_alike {ρ : Renaming} {env env' : Env} (envs : env.Same ρ env') :
    EvalM.Alike (fun more => List.Forall₂ (Value.Same more)) ρ
      ((⟨config, env⟩ : Evaluator).evalAll nodes) ((⟨config, env'⟩ : Evaluator).evalAll nodes) := by
  induction nodes generalizing ρ with
  | nil => exact .pure .nil
  | cons node rest ih =>
    refine (Node.alike (Value.call_alike config config.maxCallDepth) envs node).bind
      fun more value value' le same => ?_
    refine (ih (envs.imp le)).bind fun all values values' le' fits => ?_
    exact .pure (.cons (same.mono le') fits)

end

/-! ## Machines that agree -/

/-- The same names are bound in scopes that are the same up to a renaming. -/
theorem Scope.Same.mem_iff {ρ : Renaming} {left right : Scope} (same : left.Same ρ right)
    (name : String) : name ∈ left ↔ name ∈ right := by
  have bound := same name
  rw [Std.TreeMap.mem_iff_isSome_getElem?, Std.TreeMap.mem_iff_isSome_getElem?]
  generalize left[name]? = value, right[name]? = value' at bound ⊢
  cases bound <;> rfl

/-- Among values that are the same in pairs, ground values stand at the same places. -/
theorem Value.Same.getElem?_eq_iff {ρ : Renaming} {values values' : List Value}
    (same : List.Forall₂ (Value.Same ρ) values values') {value : Value} (ground : value.IsGround)
    (place : Nat) : values[place]? = some value ↔ values'[place]? = some value := by
  induction same generalizing place with
  | nil => rfl
  | cons first _ ih =>
    cases place with
    | zero =>
      rw [List.getElem?_cons_zero, List.getElem?_cons_zero, Option.some.injEq, Option.some.injEq]
      constructor
      · rintro rfl
        exact (first.eq_of_isGround (.inl ground)).symm
      · rintro rfl
        exact first.eq_of_isGround (.inr ground)
    | succ place =>
      rw [List.getElem?_cons_succ, List.getElem?_cons_succ]
      exact ih place

/-- **Machines that are the same** up to a renaming of the scopes that are in sight of them, with as
many open calls. -/
structure Machine.Same (ρ : Renaming) (machine machine' : Machine) : Prop where
  env : machine.env.Same ρ machine'.env
  depth : machine.depth = machine'.depth
  heap : ρ.Carries machine.heap machine'.heap

namespace Machine

/-- The same own names are listed by `Heap.names` for machines that are the same. -/
theorem Same.names_eq {ρ : Renaming} {machine machine' : Machine} (same : machine.Same ρ machine') :
    machine.heap.names machine.env = machine'.heap.names machine'.env :=
  Heap.names_eq_of_mem_iff fun name =>
    (same.heap.scope (List.forall₂_cons.1 same.env).1).mem_iff name

/-- Machines that are the same outside all calls come to the same, node after node, and they are the
same again. -/
theorem Same.evalAll {ρ : Renaming} {machine machine' : Machine} (same : machine.Same ρ machine')
    (outside : machine.depth = 0) (config : Config) (nodes : List Node) :
    let outcome := (MachineM.evalAll config nodes).run machine
    let outcome' := (MachineM.evalAll config nodes).run machine'
    ∃ more : Renaming, List.Forall₂ (Value.Same more) outcome.1 outcome'.1 ∧
      outcome.2.Same more outcome'.2 := by
  intro outcome outcome'
  obtain ⟨env, _, heap⟩ := machine
  obtain ⟨env', _, heap'⟩ := machine'
  obtain rfl := outside
  obtain rfl := same.depth
  have run : outcome = _ := MachineM.evalAll_runs config nodes env heap
  have run' : outcome' = _ := MachineM.evalAll_runs config nodes env' heap'
  obtain ⟨more, grows, carries, fits⟩ :=
    Evaluator.evalAll_alike config nodes same.env heap heap' same.heap
  rw [run, run']
  exact ⟨more, fits, same.env.imp grows.le, rfl, carries⟩

/-- When its global bindings are dropped, a machine outside all calls with nothing around its global
scope is the same as a new one, up to the number of that scope. What else has been left behind is in
sight of neither. -/
theorem same_new (config : Config) {own : ScopeId} {heap : Heap} (there : own < heap.scopes.size)
    (other : Heap) : Same (.single own other.scopes.size)
      ((MachineM.reset config).run ⟨⟨own, []⟩, 0, heap⟩).2 (new config other) where
  env := .cons ⟨rfl, rfl⟩ .nil
  depth := rfl
  heap := by
    change Renaming.Carries _ (heap.clear ⟨own, []⟩) (other.newScope []).2
    refine ⟨⟨?left, ?right⟩, ?scope⟩
    case left =>
      rintro _ _ ⟨rfl, -⟩
      rwa [Heap.size_clear]
    case right =>
      rintro _ _ ⟨-, rfl⟩
      simp [Heap.newScope]
    case scope =>
      rintro left _ ⟨rfl, rfl⟩
      have cleared : (heap.clear ⟨left, []⟩).scope left = ∅ := heap.scope_clear_own ⟨left, []⟩
      have new : other.scope other.scopes.size = ∅ := by simp [Heap.scope]
      rw [Heap.scope_newScope, cleared, new]
      exact .empty

/-- **After a reset an evaluator is as good as new.** Let it have evaluated whatever it was given,
with nothing around its global scope: when its global bindings are dropped, it is where it was, and
no call is open. And whatever is evaluated then comes to the same on this evaluator and on a new
one, up to the scopes that functions capture, hence to one and the same if it is an integer, a truth
value, null or an error. In the end both have bound the same global names, to values that are the
same. -/
theorem reset_as_new (config : Config) {own : ScopeId} {heap : Heap}
    (there : own < heap.scopes.size) (other : Heap) (history session : List Node) :
    let used := ((MachineM.evalAll config history).run ⟨⟨own, []⟩, 0, heap⟩).2
    let again := ((MachineM.reset config).run used).2
    let outcome := (MachineM.evalAll config session).run again
    let outcome' := (MachineM.evalAll config session).run (new config other)
    (again.env = ⟨own, []⟩ ∧ again.depth = 0) ∧
    (∃ ρ : Renaming, List.Forall₂ (Value.Same ρ) outcome.1 outcome'.1 ∧
      outcome.2.Same ρ outcome'.2) ∧
    (∀ (place : Nat) (value : Value), value.IsGround →
      (outcome.1[place]? = some value ↔ outcome'.1[place]? = some value)) ∧
    outcome.2.heap.names outcome.2.env = outcome'.2.heap.names outcome'.2.env := by
  intro used again outcome outcome'
  have run : used = ⟨⟨own, []⟩, 0, _⟩ :=
    congrArg Prod.snd (MachineM.evalAll_runs config history ⟨own, []⟩ heap)
  have kept := (Evaluator.evalAll_frames config history ⟨own, []⟩ heap).size_le
  -- A cleared scope corresponds to the empty one of a new evaluator, and nothing else is in reach.
  have start : again.Same (.single own other.scopes.size) (new config other) := by
    have cleared := same_new config (Nat.lt_of_lt_of_le there kept) other
    rwa [← run] at cleared
  have place : again.env = ⟨own, []⟩ ∧ again.depth = 0 :=
    ⟨congrArg Machine.env run, congrArg Machine.depth run⟩
  obtain ⟨ρ, fits, same⟩ := start.evalAll place.2 config session
  refine ⟨place, ⟨ρ, fits, same⟩, fun place value ground => ?_, same.names_eq⟩
  exact Value.Same.getElem?_eq_iff fits ground place

/-- A name that was bound before an evaluation failed is not bound after the reset. -/
theorem reset_as_new_unbound :
    let heap := (Heap.empty.newScope []).2
    let history : List Node := [.statement (.letStmt "x" (.int 5 "5")),
      .expression (.binary .div (.ident "x") (.int 0 "0"))]
    let used := (MachineM.evalAll .standard history).run ⟨⟨0, []⟩, 0, heap⟩
    let again := ((MachineM.reset .standard).run used.2).2
    let outcome := (MachineM.evalAll .standard [.expression (.ident "x")]).run again
    0 < heap.scopes.size ∧ used.1 = [.null, .error (.divisionByZero 5)] ∧
      outcome.1[0]? = some (.error (.unboundName "x")) := by
  intro heap history used again outcome
  have there : 0 < heap.scopes.size := Nat.zero_lt_one
  have fresh := reset_as_new .standard there .empty history [.expression (.ident "x")]
  obtain ⟨-, -, ground, -⟩ := fresh
  exact ⟨there, rfl, (ground 0 (.error (.unboundName "x")) trivial).2 rfl⟩

end Machine

end Monkey
