import Monkey.Proofs.Eval.Frame
import Monkey.Proofs.Eval.Links

/-! # What a machine is left in

Whatever a machine comes to, be it a value, a return or an error, it is back in the environment
and at the number of open calls that it started with. No scope that was there has other bindings,
save the one that names are bound in, and no scope that was there has another scope around it. All
this is `MachineM.Restores`, and `Machine.restores` says it of every node and every call. -/

namespace Monkey

/-- A machine whose environment and whose bindings follow the same `Links`. -/
structure Machine.Linked (links : Links) (machine : Machine) : Prop where
  env : machine.env.Linked links
  heap : machine.heap.Linked links

/-- **From this machine** an evaluation that is given some values comes to what it comes to without
a machine. It restores the machine, it writes no other scopes, and it keeps all links. -/
structure MachineM.Restores (executed : MachineM Value) (plain : EvalM Value)
    (written : ScopeId → Prop) (given : List Value) (machine : Machine) : Prop where
  value_eq : (executed.run machine).1 = (plain.run machine.heap).1
  heap_eq : (executed.run machine).2.heap = (plain.run machine.heap).2
  env_eq : (executed.run machine).2.env = machine.env
  depth_eq : (executed.run machine).2.depth = machine.depth
  frame : machine.heap.Frame written (executed.run machine).2.heap
  linked : ∀ links : Links, machine.Linked links → (∀ value ∈ given, value.Linked links) →
    ∃ more : Links, links <+: more ∧ (executed.run machine).2.Linked more ∧
      (executed.run machine).1.Linked more

/-- An evaluation that comes to the same on a machine restores it, as far as it writes no other
scopes (`EvalM.Frames`) and keeps all links (`EvalM.KeepsLinks`). -/
theorem MachineM.Restores.of_runs {executed : MachineM Value} {plain : Env → EvalM Value}
    {written : ScopeId → Prop} {given : List Value} {machine : Machine}
    (runs : MachineM.Runs machine.depth executed plain) (frames : (plain machine.env).Frames written)
    (keeps : ∀ links, machine.env.Linked links → (∀ value ∈ given, value.Linked links) →
      (plain machine.env).KeepsLinks Value.Linked links) :
    Restores executed (plain machine.env) written given machine := by
  obtain ⟨env, depth, heap⟩ := machine
  have run := runs env heap
  constructor
  case linked =>
    intro links linked fits
    obtain ⟨more, added, after, result⟩ := keeps links linked.env fits heap linked.heap
    rw [run]
    exact ⟨more, added, ⟨linked.env.mono added, after⟩, result⟩
  case frame =>
    rw [run]
    exact frames heap
  all_goals rw [run]

/-- **Every node and every call restores the machine** that it is evaluated on, whatever it comes
to. A node writes the own scope of the environment alone, and a call writes no scope that was there.
-/
theorem Machine.restores (config : Config) (machine : Machine) :
    (∀ node : Node, (node.execute config (Value.apply config)).Restores
      (node.eval config (Value.call config (config.maxCallDepth - machine.depth)) machine.env)
      (· = machine.env.own) [] machine) ∧
    ∀ (function : Value) (arguments : List Value), (Value.apply config function arguments).Restores
      (Value.call config (config.maxCallDepth - machine.depth) function arguments)
      (fun _ => False) (function :: arguments) machine := by
  let left := config.maxCallDepth - machine.depth
  have runs := Value.apply_runs config machine.depth
  constructor
  · intro node
    refine .of_runs (Node.execute_runs runs node) ?_ fun links known _ => ?_
    · exact Node.frames (Value.call_frames config left) node
    · exact Node.keepsLinks (Value.call_keepsLinks config left) known node
  · intro function arguments
    refine .of_runs (runs function arguments) ?_ fun links _ fits => ?_
    · exact Value.call_frames config left _ function arguments
    · rw [List.forall_mem_cons] at fits
      exact Value.call_keepsLinks config left links function arguments fits.1 fits.2

end Monkey
