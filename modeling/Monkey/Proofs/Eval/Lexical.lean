import Monkey.Proofs.Eval.Alike
import Monkey.Proofs.Eval.Restoring

/-! # What a call depends on

A function sees the scopes that it captures, the functions bound in those, the scopes that these
capture, and so on: `Heap.Reaches`. A call sees besides what its arguments reach in this way. It
depends on nothing else, neither on the environment that the call stands in nor on any other
scope.

* `Renaming.CarriesReach` — roots that are the same up to a renaming, and so is all that they
  reach.
* `Value.call_carriesReach` — calls from there come to the same, and what they reach then is the
  same.
* `Value.apply_lexical` — the same for machines, which may stand in any environment. -/

namespace Monkey

/-- **The scopes in reach of some values**: those that they capture, and those that are captured by
what is bound in a scope in reach. -/
inductive Heap.Reaches (heap : Heap) (roots : List Value) : ScopeId → Prop
  /-- One of the roots captures the scope. -/
  | captured {value : Value} {id : ScopeId} : value ∈ roots → id ∈ value.captured →
    Reaches heap roots id
  /-- A value that is bound in a scope in reach captures the scope. -/
  | bound {id next : ScopeId} {name : String} {value : Value} : Reaches heap roots id →
    (heap.scope id)[name]? = some value → next ∈ value.captured → Reaches heap roots next

/-- **What is carried over as far as it is in reach**: roots that are the same up to a renaming of
scopes that are there, and so is all that they reach. Bindings out of reach may differ. -/
structure Renaming.CarriesReach (ρ : Renaming) (heap heap' : Heap) (roots roots' : List Value) :
    Prop extends ρ.Between heap heap' where
  same : List.Forall₂ (Value.Same ρ) roots roots'
  scope : ∀ ⦃left right⦄, heap.Reaches roots left → ρ.rel left right →
    (heap.scope left).Same ρ (heap'.scope right)

/-- What is bound in a scope is the same as something that is bound in a scope that is the same up
to `ρ`. -/
theorem Scope.Same.exists_same {ρ : Renaming} {left right : Scope} (same : left.Same ρ right)
    {name : String} {value : Value} (bound : left[name]? = some value) :
    ∃ value', value.Same ρ value' := by
  have found := same name
  rw [bound] at found
  generalize right[name]? = value' at found
  cases found with
  | some same => exact ⟨_, same⟩

namespace Renaming

variable {ρ more : Renaming} {heap heap' after after' : Heap} {roots roots' : List Value}

/-- What is carried over altogether, by `Renaming.Carries`, is carried over as far as some values
reach. -/
theorem Carries.carriesReach (carries : ρ.Carries heap heap')
    (same : List.Forall₂ (Value.Same ρ) roots roots') :
    ρ.CarriesReach heap heap' roots roots' where
  toBetween := carries.toBetween
  same := same
  scope _ _ _ paired := carries.scope paired

/-- A value in a list has a partner in a list of values that are the same up to `ρ`. -/
theorem exists_same (same : List.Forall₂ (Value.Same ρ) roots roots') {value : Value}
    (root : value ∈ roots) : ∃ value', value.Same ρ value' := by
  obtain ⟨place, inside, rfl⟩ := List.getElem_of_mem root
  exact ⟨_, same.get inside (same.length_eq ▸ inside)⟩

namespace CarriesReach

/-- A scope in reach has a partner under the renaming: by induction on how it is reached. -/
theorem exists_rel (carries : ρ.CarriesReach heap heap' roots roots') {id : ScopeId}
    (reached : heap.Reaches roots id) : ∃ id', ρ.rel id id' := by
  induction reached with
  | captured root captured =>
    obtain ⟨value', same⟩ := exists_same carries.same root
    exact same.exists_rel captured
  | bound reached bound captured ih =>
    obtain ⟨id', paired⟩ := ih
    obtain ⟨value', same⟩ := (carries.scope reached paired).exists_same bound
    exact same.exists_rel captured

/-- A scope in reach is there, since the renaming pairs scopes that are. -/
theorem lt (carries : ρ.CarriesReach heap heap' roots roots') {id : ScopeId}
    (reached : heap.Reaches roots id) : id < heap.scopes.size := by
  obtain ⟨id', paired⟩ := carries.exists_rel reached
  exact carries.left_lt paired

/-- The roots are the same up to the pairs in reach alone, as they capture scopes in reach. -/
theorem roots_restrict (carries : ρ.CarriesReach heap heap' roots roots') :
    List.Forall₂ (Value.Same (ρ.restrict (heap.Reaches roots))) roots roots' := by
  have inside : ∀ value ∈ roots, ∀ id ∈ value.captured, heap.Reaches roots id :=
    fun value root id captured => .captured root captured
  refine ((List.forall₂_and_left _ _).2 ⟨inside, carries.same⟩).imp ?_
  exact fun value value' both => both.2.restrict both.1

/-- The pairs in reach carry all bindings over, which brings evaluations in reach down to
`Renaming.Carries`. -/
theorem restrict (carries : ρ.CarriesReach heap heap' roots roots') :
    (ρ.restrict (heap.Reaches roots)).Carries heap heap' where
  left_lt _ _ paired := carries.left_lt paired.1
  right_lt _ _ paired := carries.right_lt paired.1
  scope left right paired := by
    intro name
    have found := carries.scope paired.2 paired.1 name
    generalize bound : (heap.scope left)[name]? = value, (heap'.scope right)[name]? = value'
      at found ⊢
    cases found with
    | some same =>
      exact .some (same.restrict fun id captured => .bound paired.2 bound captured)
    | none => exact .none

/-- Pairs out of reach do no harm: if the pairs in reach have grown, then so have all pairs, and
they carry over what is reached then. -/
theorem grow (carries : ρ.CarriesReach heap heap' roots roots')
    (grows : (ρ.restrict (heap.Reaches roots)).Grows more heap heap' after after')
    (last : more.Carries after after') {value value' : Value} (same : value.Same more value') :
    ∃ all : Renaming, ρ.Grows all heap heap' after after' ∧
      all.CarriesReach after after' (value :: roots) (value' :: roots') := by
  have agree : ∀ ⦃left right left' right' : ScopeId⦄, ρ.rel left right → more.rel left' right' →
      (left = left' ↔ right = right') := by
    intro left right left' right' paired paired'
    rcases grows.fresh paired' with old | ⟨new, new'⟩
    · exact ρ.eq_iff paired old.1
    · have other := Nat.ne_of_lt (Nat.lt_of_lt_of_le (carries.left_lt paired) new)
      have other' := Nat.ne_of_lt (Nat.lt_of_lt_of_le (carries.right_lt paired) new')
      exact ⟨fun met => absurd met other, fun met => absurd met other'⟩
  have le : more ≤ ρ.union more agree := fun _ _ => .inr
  have rootsSame := carries.roots_restrict.imp fun _ _ same => same.mono grows.le
  have within := last.carriesReach (.cons same rootsSame)
  have there := (carries.mono grows.size_le grows.size_le').union last.toBetween agree
  refine ⟨ρ.union more agree, ⟨fun _ _ => .inl, grows.size_le, grows.size_le', ?fresh⟩,
    ⟨there, within.same.imp fun _ _ same => same.mono le, ?scope⟩⟩
  case fresh =>
    rintro left right (old | paired)
    · exact .inl old
    · exact (grows.fresh paired).imp_left And.left
  case scope =>
    intro left right reached paired
    -- A scope that is reached now has a partner among the pairs that have grown, and no other.
    obtain ⟨right', paired'⟩ := within.exists_rel reached
    obtain rfl := (ρ.union more agree).unique.2 paired (.inr paired')
    exact (last.scope paired').mono le

end CarriesReach

end Renaming

/-- If none of the scopes in reach is written, then what is in reach stays the same, up to the
renaming that leaves each scope as it is. -/
theorem Heap.Frame.carriesReach {written : ScopeId → Prop} {heap after : Heap} {roots : List Value}
    (frame : heap.Frame written after)
    (kept : ∀ id, heap.Reaches roots id → id < heap.scopes.size ∧ ¬written id) :
    (Renaming.same.restrict (· < heap.scopes.size)).CarriesReach heap after roots roots := by
  refine ⟨⟨fun _ _ paired => paired.2, ?right⟩, ?same, ?scope⟩
  case right =>
    rintro left _ ⟨rfl, below⟩
    exact Nat.lt_of_lt_of_le below frame.size_le
  case same =>
    exact List.forall₂_same.2 fun value root => (Value.Same.refl value).restrict
      fun id captured => (kept id (.captured root captured)).1
  case scope =>
    rintro left _ reached ⟨rfl, below⟩
    rw [frame.scope_eq left below (kept left reached).2]
    intro name
    generalize bound : (heap.scope left)[name]? = value
    cases value with
    | none => exact .none
    | some value =>
      exact .some <| (Value.Same.refl value).restrict
        fun id captured => (kept id (.bound reached bound captured)).1

namespace Value

variable {config : Config} {ρ : Renaming} {function function' : Value}
  {arguments arguments' : List Value}

/-- **A call depends on what is in reach**: it comes to the same up to a renaming of what the
function and its arguments reach, and again so is all that is in reach then. -/
theorem call_carriesReach {heap heap' : Heap} (config : Config) (left : Nat)
    (carries : ρ.CarriesReach heap heap' (function :: arguments) (function' :: arguments')) :
    ∃ more : Renaming, ρ.Grows more heap heap' ((call config left function arguments).run heap).2
        ((call config left function' arguments').run heap').2 ∧
      more.CarriesReach ((call config left function arguments).run heap).2
        ((call config left function' arguments').run heap').2
        (((call config left function arguments).run heap).1 :: function :: arguments)
        (((call config left function' arguments').run heap').1 :: function' :: arguments') := by
  obtain ⟨callee, passed⟩ := List.forall₂_cons.1 carries.roots_restrict
  obtain ⟨more, grows, last, same⟩ := call_alike config left _ _ _ _ _ callee passed heap heap'
    carries.restrict
  exact carries.grow grows last same

/-- A call that follows the same call comes to the same, up to a renaming, as the first one wrote
nothing in reach. -/
theorem call_again {heap heap' : Heap} (config : Config) (left : Nat)
    (carries : ρ.CarriesReach heap heap' (function :: arguments) (function' :: arguments')) :
    ∃ more : Renaming, Same more ((call config left function arguments).run heap).1
      ((call config left function arguments).run
        ((call config left function arguments).run heap).2).1 := by
  have frame : heap.Frame (fun _ => False) ((call config left function arguments).run heap).2 :=
    call_frames config left _ function arguments heap
  have kept := frame.carriesReach fun id reached => ⟨carries.lt reached, not_false⟩
  obtain ⟨more, -, after⟩ := call_carriesReach config left kept
  exact ⟨more, (List.forall₂_cons.1 after.same).1⟩

/-- **Scoping is lexical.** Two machines with the same number of open calls apply functions to
arguments that are the same up to a renaming, and so is all that these reach: then what they come to
is the same up to the renaming and the scopes that are added, and so is all that it reaches. In
particular a machine that applies one function twice to the same arguments comes both times to one
integer, one truth value, null or one error, if it does so at all. -/
theorem apply_lexical {machine machine' : Machine} (config : Config)
    (depth : machine.depth = machine'.depth)
    (carries : ρ.CarriesReach machine.heap machine'.heap (function :: arguments)
      (function' :: arguments')) :
    let outcome := (apply config function arguments).run machine
    let outcome' := (apply config function' arguments').run machine'
    let again := (apply config function arguments).run outcome.2
    (∃ more : Renaming, ρ.Grows more machine.heap machine'.heap outcome.2.heap outcome'.2.heap ∧
      more.CarriesReach outcome.2.heap outcome'.2.heap (outcome.1 :: function :: arguments)
        (outcome'.1 :: function' :: arguments')) ∧
    (outcome.1.IsGround ∨ again.1.IsGround → again.1 = outcome.1) := by
  intro outcome outcome' again
  -- Both machines have as many calls left, and the rest is about calls on a plain heap.
  let left := config.maxCallDepth - machine.depth
  let plain := (call config left function arguments).run machine.heap
  have run : outcome = (plain.1, ⟨machine.env, machine.depth, plain.2⟩) :=
    apply_runs config machine.depth function arguments machine.env machine.heap
  have run' : outcome' = _ :=
    apply_runs config machine'.depth function' arguments' machine'.env machine'.heap
  have runAgain : again.1 = ((call config left function arguments).run plain.2).1 := by
    change ((apply config function arguments).run outcome.2).1 = _
    rw [run, apply_runs config machine.depth function arguments machine.env plain.2]
  rw [← depth] at run'
  rw [run, run', runAgain]
  refine ⟨call_carriesReach config left carries, fun ground => ?_⟩
  obtain ⟨more, same⟩ := call_again config left carries
  exact (same.eq_of_isGround ground).symm

/-- The function `fn(x) { if (x) { f(y) } else { y } }`, made in this scope and with it the only one
in reach. -/
def recursive (id : ScopeId) : Value :=
  .function ["x"] [.exprStmt (.cond (.ident "x")
    [.exprStmt (.call (.ident "f") [.ident "y"])] (some [.exprStmt (.ident "y")]))] ⟨id, []⟩

/-- A scope that binds a name to the function that is made in it, so that the two refer to each
other, and another name to falsehood. -/
def recursiveScope (id : ScopeId) : Scope :=
  (Std.TreeMap.empty.insert "f" (recursive id)).insert "y" (.boolean false)

/-- The function `fn(x) { if (x) { f(y) } else { y } }` comes to the same, be it made in a first
scope and called from there, or in a second one and called from a first one that binds `y` too. -/
theorem apply_recursive :
    let machine : Machine := ⟨⟨0, []⟩, 3, ⟨#[recursiveScope 0]⟩⟩
    let machine' : Machine :=
      ⟨⟨0, []⟩, 3, ⟨#[Std.TreeMap.empty.insert "y" (.integer 7), recursiveScope 1]⟩⟩
    let outcome := (apply .standard (recursive 0) [.boolean true]).run machine
    let outcome' := (apply .standard (recursive 1) [.boolean true]).run machine'
    (Renaming.single 0 1).CarriesReach machine.heap machine'.heap [recursive 0, .boolean true]
      [recursive 1, .boolean true] ∧
    outcome.1 = .boolean false ∧ outcome'.1 = .boolean false ∧
    ((apply .standard (recursive 0) [.boolean true]).run outcome.2).1 = .boolean false := by
  intro machine machine' outcome outcome'
  have function : (recursive 0).Same (Renaming.single 0 1) (recursive 1) :=
    .function (.cons ⟨rfl, rfl⟩ .nil)
  have carries : (Renaming.single 0 1).CarriesReach machine.heap machine'.heap
      [recursive 0, .boolean true] [recursive 1, .boolean true] := by
    refine ⟨⟨?left, ?right⟩, .cons function (.cons (.boolean true) .nil), ?scope⟩
    case left =>
      rintro _ _ ⟨rfl, rfl⟩
      exact Nat.lt_succ_self 0
    case right =>
      rintro _ _ ⟨rfl, rfl⟩
      exact Nat.lt_succ_self 1
    case scope =>
      rintro _ _ - ⟨rfl, rfl⟩
      exact (Scope.Same.empty.insert "f" function).insert "y" (.boolean false)
  have depth : machine.depth = machine'.depth := rfl
  obtain ⟨⟨more, -, after⟩, again⟩ := apply_lexical .standard depth carries
  have came : outcome.1 = .boolean false := rfl
  have ground : outcome.1.IsGround := by
    rw [came]
    trivial
  have same : outcome.1.Same more outcome'.1 := (List.forall₂_cons.1 after.same).1
  have equal : outcome.1 = outcome'.1 := same.eq_of_isGround (.inl ground)
  have repeated := again (.inl ground)
  exact ⟨carries, came, equal.symm.trans came, repeated.trans came⟩

end Value

end Monkey
