import Std.Data.TreeMap
import Monkey.Text.Quoted
import Monkey.Value.Basic

/-! # Heaps

The bindings of all scopes. Scopes are only ever added, by `Heap.newScope`; an environment names
the scopes that are in sight, so a binding made in a scope by `Heap.set` is seen by `Heap.get?`
through every environment whose chain passes it. The lemmas say what each operation does to
`Heap.scope`. -/

namespace Monkey

/-- The bindings of one scope, ordered by name, so that names are listed in the order of their code
points. -/
abbrev Scope := Std.TreeMap String Value

/-- **The bindings of all scopes**, each at the place that its number says. -/
structure Heap where
  scopes : Array Scope

namespace Heap

/-- No scope at all, which is what an evaluation from scratch starts with. -/
def empty : Heap := ⟨#[]⟩

instance : Inhabited Heap := ⟨empty⟩

/-- The bindings of a scope; a scope that does not exist has none. -/
def scope (heap : Heap) (id : ScopeId) : Scope := heap.scopes[id]?.getD ∅

/-- Adds an empty scope, with some scopes around it, and gives the environment that binds names in
it. -/
def newScope (heap : Heap) (outer : List ScopeId) : Env × Heap :=
  (⟨heap.scopes.size, outer⟩, ⟨heap.scopes.push ∅⟩)

/-- **The value of a name**: its binding in the nearest scope of `Env.chain` that has one. -/
def get? (heap : Heap) (env : Env) (name : String) : Option Value :=
  env.chain.findSome? fun id => (heap.scope id)[name]?

/-- Binds a name in the own scope of an environment, where an earlier binding of the name is
replaced. -/
def set (heap : Heap) (env : Env) (name : String) (value : Value) : Heap :=
  ⟨heap.scopes.modify env.own (·.insert name value)⟩

/-- Drops all bindings of the own scope of an environment, and leaves the scopes around it alone. -/
def clear (heap : Heap) (env : Env) : Heap :=
  ⟨heap.scopes.modify env.own fun _ => ∅⟩

/-- The names bound in the own scope of an environment, in the order of their code points. -/
def names (heap : Heap) (env : Env) : List String := (heap.scope env.own).keys

/-- A one-line account of an environment: its own names, in the order of `Heap.names`, and whether
scopes are around it. -/
def describe (heap : Heap) (env : Env) : String :=
  "Environment \x7b names: [" ++ ", ".intercalate ((heap.names env).map Quoted.write) ++
    "], enclosed: " ++ toString env.isEnclosed ++ " \x7d"

/-! ### What an operation does to the bindings of a scope -/

@[simp] theorem size_set (heap : Heap) (env : Env) (name : String) (value : Value) :
    (heap.set env name value).scopes.size = heap.scopes.size := by
  simp [set]

@[simp] theorem size_clear (heap : Heap) (env : Env) :
    (heap.clear env).scopes.size = heap.scopes.size := by
  simp [clear]

/-- In `Heap.set` a binding changes the own scope, if there is such a scope. -/
theorem scope_set_own {heap : Heap} {env : Env} (allocated : env.own < heap.scopes.size)
    (name : String) (value : Value) :
    (heap.set env name value).scope env.own = (heap.scope env.own).insert name value := by
  simp [scope, set, Array.getElem_modify, allocated]

/-- In `Heap.set` a binding changes no other scope than the own one. -/
theorem scope_set_of_ne {env : Env} {id : ScopeId} (different : id ≠ env.own) (heap : Heap)
    (name : String) (value : Value) : (heap.set env name value).scope id = heap.scope id := by
  simp [scope, set, Array.getElem?_modify, different.symm]

/-- Behind `Heap.clear` the own scope is without bindings. -/
@[simp] theorem scope_clear_own (heap : Heap) (env : Env) : (heap.clear env).scope env.own = ∅ := by
  by_cases allocated : env.own < heap.scopes.size <;>
    simp [scope, clear, Array.getElem_modify, allocated]

/-- In `Heap.clear` no other scope is changed. -/
theorem scope_clear_of_ne {env : Env} {id : ScopeId} (different : id ≠ env.own) (heap : Heap) :
    (heap.clear env).scope id = heap.scope id := by
  simp [scope, clear, Array.getElem?_modify, different.symm]

/-- A scope that `Heap.newScope` adds has no bindings, and all others keep theirs. -/
@[simp] theorem scope_newScope (heap : Heap) (outer : List ScopeId) (id : ScopeId) :
    (heap.newScope outer).2.scope id = heap.scope id := by
  rcases Nat.lt_trichotomy id heap.scopes.size with below | rfl | above
  · simp [scope, newScope, Array.getElem?_push, Nat.ne_of_lt below]
  · simp [scope, newScope]
  · simp [scope, newScope, Array.getElem?_push, Nat.ne_of_gt above]

/-- Own names are listed once each, in strictly increasing order, as the keys of an ordered map. -/
theorem names_sorted (heap : Heap) (env : Env) :
    (heap.names env).Pairwise fun left right => compare left right = .lt :=
  Std.TreeMap.ordered_keys

/-- The names listed by `Heap.names` are the names bound in the own scope, and no others. -/
theorem mem_names {heap : Heap} {env : Env} {name : String} :
    name ∈ heap.names env ↔ name ∈ heap.scope env.own :=
  Std.TreeMap.mem_keys

end Heap

end Monkey
