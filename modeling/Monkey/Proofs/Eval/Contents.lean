import Mathlib.Data.List.Sort
import Mathlib.Data.String.Basic
import Monkey.Proofs.Eval.Observed

/-! # What bindings hold

A property of values may hold of everything that is bound, `Heap.All`, and of everything that is
bound, passed or wrapped on the way of an evaluation, `Trail.All`. The lemmas say that each step
of an evaluation keeps it. Operators make ground values alone, `Value.IsGround`, which neither
wrap nor capture anything. -/

namespace Monkey

/-- **Bindings all of whose values have a property**, in whatever scope and under whatever name. -/
def Heap.All (good : Value → Prop) (heap : Heap) : Prop :=
  ∀ (id : ScopeId) (name : String) (value : Value), (heap.scope id)[name]? = some value → good value

/-- An event all of whose values have a property: those that are bound then, passed, or wrapped. -/
def Event.All (good : Value → Prop) : Event → Prop
  | .changed heap => heap.All good
  | .passed arguments => ∀ argument ∈ arguments, good argument
  | .wrapped value => good value

/-- **A trail all of whose values have a property**: those that are bound at its end and those of
its events. -/
structure Trail.All (good : Value → Prop) (trail : Trail) : Prop where
  heap : trail.heap.All good
  events : ∀ event ∈ trail.events, event.All good

namespace Heap.All

variable {good : Value → Prop} {heap : Heap}

/-- What a name is bound to, as `Heap.get?` finds it, has the property. -/
theorem get? (all : heap.All good) {env : Env} {name : String} {value : Value}
    (found : heap.get? env name = some value) : good value := by
  obtain ⟨id, -, bound⟩ := List.exists_of_findSome?_eq_some found
  exact all id name value bound

/-- Without a scope nothing is bound, so `Heap.empty` has every property. -/
theorem empty : Heap.empty.All good := by
  intro id name value bound
  simp [scope, Heap.empty] at bound

/-- A new scope binds nothing, so `Heap.newScope` keeps the property. -/
theorem newScope (all : heap.All good) (outer : List ScopeId) : (heap.newScope outer).2.All good := by
  intro id name value bound
  rw [scope_newScope] at bound
  exact all id name value bound

/-- A value with the property may be bound by `Heap.set`, in a scope that exists or not. -/
theorem set (all : heap.All good) (env : Env) (name : String) {value : Value} (fits : good value) :
    (heap.set env name value).All good := by
  intro id other found bound
  by_cases own : id = env.own
  · subst own
    by_cases allocated : env.own < heap.scopes.size
    · rw [scope_set_own allocated, Std.TreeMap.getElem?_insert] at bound
      split at bound
      · cases bound
        exact fits
      · exact all env.own other found bound
    · -- A scope that does not exist takes no binding.
      have none : (heap.set env name value).scope env.own = ∅ := by
        simp [scope, Heap.set, allocated]
      rw [none] at bound
      simp at bound
  · rw [scope_set_of_ne own] at bound
    exact all id other found bound

end Heap.All

namespace Trail.All

variable {good : Value → Prop} {trail : Trail}

/-- At the start of a trail nothing has happened, so only what is bound has to have the property. -/
theorem start {heap : Heap} (all : heap.All good) : (Trail.start heap).All good := ⟨all, nofun⟩

/-- An event whose values have the property may be noted on a trail. -/
theorem note (all : trail.All good) {event : Event} (fits : event.All good) :
    (trail.note event).All good where
  heap := all.heap
  events := List.forall_mem_cons.2 ⟨fits, all.events⟩

/-- The bindings of a trail may become others that have the property. -/
theorem change (all : trail.All good) {heap : Heap} (fits : heap.All good) :
    (trail.change heap).All good where
  heap := fits
  events := List.forall_mem_cons.2 ⟨fits, all.events⟩

/-- A value with the property may be bound on a trail, which notes the change. -/
theorem bindName (all : trail.All good) (env : Env) (name : String) {value : Value}
    (fits : good value) : (trail.bindName env name value).All good :=
  all.change (all.heap.set env name fits)

/-- Values with the property may be bound on a trail, pair by pair. -/
theorem bindNames (all : trail.All good) (env : Env) (names : List String) {values : List Value}
    (fits : ∀ value ∈ values, good value) : (trail.bindNames env names values).All good := by
  induction names generalizing trail values with
  | nil => exact all
  | cons name names ih =>
    cases values with
    | nil => exact all
    | cons value values =>
      rw [List.forall_mem_cons] at fits
      exact ih (all.bindName env name fits.1) fits.2

/-- A scope may be added on a trail, which notes the change. -/
theorem newScope (all : trail.All good) (outer : List ScopeId) :
    (trail.newScope outer).2.All good :=
  all.change (all.heap.newScope outer)

end Trail.All

/-! ## Listings -/

namespace Heap

/-- Own names are listed in increasing order, as code points have it: `names_sorted` in terms of
`<`. -/
theorem names_increasing (heap : Heap) (env : Env) : (heap.names env).Pairwise (· < ·) :=
  (heap.names_sorted env).imp compare_lt_iff_lt.1

/-- The same own names are listed alike by `Heap.names`, however they came to be bound. -/
theorem names_eq_of_mem_iff {heap heap' : Heap} {env env' : Env}
    (same : ∀ name, name ∈ heap.scope env.own ↔ name ∈ heap'.scope env'.own) :
    heap.names env = heap'.names env' := by
  refine (heap.names_increasing env).eq_of_mem_iff (heap'.names_increasing env') fun name => ?_
  rw [mem_names, mem_names, same]

end Heap

/-! ## Operators -/

/-- **A ground value** neither wraps nor captures anything; all that operators answer with is
ground. -/
def Value.IsGround : Value → Prop
  | .returned _ | .function .. => False
  | _ => True

/-- Operands of the wrong kind are answered with a ground value, an error or `null`. -/
theorem Config.typeError_isGround (config : Config) (cause : RuntimeError) :
    (config.typeError cause).IsGround := by
  unfold typeError
  cases config.typeErrors <;> trivial

/-- A unary operator answers with a ground value, by `UnaryOp.apply`. -/
theorem UnaryOp.apply_isGround (config : Config) (op : UnaryOp) (operand : Value) :
    (op.apply config operand).IsGround := by
  cases op with
  | not => trivial
  | neg =>
    cases operand with
    | integer value => trivial
    | _ => exact config.typeError_isGround _

/-- A binary operator on integers answers with a ground value, by `BinaryOp.applyIntegers`. -/
theorem BinaryOp.applyIntegers_isGround (op : BinaryOp) (left right : Int64) :
    (op.applyIntegers left right).IsGround := by
  cases op with
  | div =>
    rw [applyIntegers]
    split <;> trivial
  | _ => trivial

/-- A binary operator answers with a ground value, by `BinaryOp.apply`. -/
theorem BinaryOp.apply_isGround (config : Config) (op : BinaryOp) (left right : Value) :
    (op.apply config left right).IsGround := by
  unfold apply
  split
  · exact op.applyIntegers_isGround _ _
  · split
    · trivial
    · trivial
    · split <;> exact config.typeError_isGround _

end Monkey
