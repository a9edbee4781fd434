import Mathlib.Data.List.Forall2
import Monkey.Proofs.Eval.Contents

/-! # The same up to the numbers of scopes

The number of a scope says when it was added, and programs do not see it: all that they can tell
is whether two functions were made in the very same scope. So two evaluations are compared up to a
`Renaming`, which pairs the scopes of the one with scopes of the other.

* `Value.Same`, `Scope.Same` — values and bindings that differ in the numbers of scopes alone.
* `Value.Same.beq_eq`, `BinaryOp.apply_eq` — programs cannot tell them apart.
* `Renaming.Carries`, `Renaming.Grows` — renamings of all bindings, and how they grow with the
  scopes. -/

namespace Monkey

/-! ## Renamings -/

/-- **A renaming**: pairs of scopes, by `rel`, in which no scope of either side has two partners. -/
structure Renaming where
  rel : ScopeId → ScopeId → Prop
  unique : Relator.BiUnique rel

namespace Renaming

/-- A renaming is extended by one that has its pairs and perhaps some more; `ρ ≤ more` says so. -/
instance : LE Renaming := ⟨fun ρ more => ∀ left right, ρ.rel left right → more.rel left right⟩

/-- The renaming that pairs every scope with itself. -/
def same : Renaming := ⟨Eq, ⟨fun _ _ _ left right => left.trans right.symm,
  fun _ _ _ left right => left.symm.trans right⟩⟩

/-- The renaming of one pair alone, such as two global scopes. -/
def single (left right : ScopeId) : Renaming where
  rel id id' := id = left ∧ id' = right
  unique := ⟨fun _ _ _ first second => first.1.trans second.1.symm,
    fun _ _ _ first second => first.2.trans second.2.symm⟩

/-- The pairs of the scopes of a kind, which are told by the scope on the left. -/
def restrict (ρ : Renaming) (kept : ScopeId → Prop) : Renaming where
  rel left right := ρ.rel left right ∧ kept left
  unique := ⟨fun _ _ _ first second => ρ.unique.1 first.1 second.1,
    fun _ _ _ first second => ρ.unique.2 first.1 second.1⟩

/-- The pairs of two renamings that nowhere contradict each other. -/
def union (ρ σ : Renaming)
    (agree : ∀ ⦃left right left' right'⦄, ρ.rel left right → σ.rel left' right' →
      (left = left' ↔ right = right')) : Renaming where
  rel left right := ρ.rel left right ∨ σ.rel left right
  unique := by
    constructor
    · rintro left left' right (first | first) (second | second)
      · exact ρ.unique.1 first second
      · exact (agree first second).2 rfl
      · exact ((agree second first).2 rfl).symm
      · exact σ.unique.1 first second
    · rintro left right right' (first | first) (second | second)
      · exact ρ.unique.2 first second
      · exact (agree first second).1 rfl
      · exact ((agree second first).1 rfl).symm
      · exact σ.unique.2 first second

variable {ρ more : Renaming}

/-- A renaming extends itself, so `≤` on renamings is reflexive. -/
theorem le_rfl : ρ ≤ ρ := fun _ _ paired => paired

/-- Extensions in turn make an extension, so `≤` on renamings is transitive. -/
theorem le_trans {all : Renaming} (first : ρ ≤ more) (second : more ≤ all) : ρ ≤ all :=
  fun left right paired => second left right (first left right paired)

/-- Two scopes are one exactly if their partners are: this is what equality of functions needs. -/
theorem eq_iff {left left' right right' : ScopeId} (paired : ρ.rel left right)
    (paired' : ρ.rel left' right') : left = left' ↔ right = right' :=
  Relator.rel_eq ρ.unique paired paired'

end Renaming

/-! ## Values -/

/-- Environments whose scopes are paired by a `Renaming`, one after the other, the own one first. -/
abbrev Env.Same (ρ : Renaming) (left right : Env) : Prop :=
  List.Forall₂ ρ.rel left.chain right.chain

/-- **Values that are the same up to a renaming**: they differ at most in the scopes that they
capture, and there as the renaming pairs them. -/
inductive Value.Same (ρ : Renaming) : Value → Value → Prop
  /-- An integer is the same as itself alone. -/
  | integer (value : Int64) : Same ρ (.integer value) (.integer value)
  /-- A truth value is the same as itself alone. -/
  | boolean (value : Bool) : Same ρ (.boolean value) (.boolean value)
  /-- The absence of a value is the same as itself alone. -/
  | null : Same ρ .null .null
  /-- Values on their way out are the same if what they wrap is. -/
  | returned {left right : Value} : Same ρ left right → Same ρ (.returned left) (.returned right)
  /-- A failed evaluation is the same as one that failed for the same cause. -/
  | error (cause : RuntimeError) : Same ρ (.error cause) (.error cause)
  /-- Functions with one text are the same if the environments they were made in are. -/
  | function {parameters : List String} {body : Block} {left right : Env} :
    left.Same ρ right → Same ρ (.function parameters body left) (.function parameters body right)

/-- The scopes that a value captures: those of the environment that a function carries, however deep
it is wrapped. -/
def Value.captured : Value → List ScopeId
  | .function _ _ env => env.chain
  | .returned value => value.captured
  | _ => []

namespace Value.Same

variable {ρ more : Renaming} {left right left' right' : Value}

/-- A ground value (`Value.IsGround`) is the same as itself, whatever the renaming, as it captures
nothing. -/
theorem of_isGround {value : Value} (ground : value.IsGround) : Same ρ value value := by
  cases value with
  | returned | function => exact ground.elim
  | _ => constructor

/-- A ground value is the same as itself alone, whether it stands on the left or on the right. -/
theorem eq_of_isGround (same : Same ρ left right) (ground : left.IsGround ∨ right.IsGround) :
    left = right := by
  cases same with
  | returned | function => exact (or_self_iff.1 ground).elim
  | _ => rfl

/-- More scopes may be paired: what is the same up to `ρ` is so up to every extension of it. -/
theorem mono (same : Same ρ left right) (le : ρ ≤ more) : Same more left right := by
  induction same with
  | returned _ ih => exact .returned ih
  | function envs => exact .function (envs.imp le)
  | _ => constructor

/-- Only the scopes that are captured have to be paired; `Renaming.restrict` may leave the other
pairs out. -/
theorem restrict (same : Same ρ left right) {kept : ScopeId → Prop}
    (captured : ∀ id ∈ left.captured, kept id) : Same (ρ.restrict kept) left right := by
  induction same with
  | returned _ ih => exact .returned (ih captured)
  | function envs =>
    have both := (List.forall₂_and_left _ _).2 ⟨captured, envs⟩
    exact .function (both.imp fun _ _ => And.symm)
  | _ => constructor

/-- A value is the same as itself if each scope is paired with itself, as in `Renaming.same`. -/
theorem refl (value : Value) : Same .same value value := by
  induction value with
  | function parameters body env => exact .function (List.forall₂_same.2 fun _ _ => rfl)
  | returned value ih => exact .returned ih
  | _ => constructor

/-- What is captured on the left has a partner on the right, so `captured` scopes are all paired. -/
theorem exists_rel (same : Same ρ left right) {id : ScopeId} (captured : id ∈ left.captured) :
    ∃ id', ρ.rel id id' := by
  induction same with
  | returned _ ih => exact ih captured
  | function envs =>
    obtain ⟨place, inside, rfl⟩ := List.getElem_of_mem captured
    exact ⟨_, envs.get inside (envs.length_eq ▸ inside)⟩
  | _ => cases captured

/-- Values that are the same wrap values that are, so `Value.unwrap` keeps them so. -/
theorem unwrap (same : Same ρ left right) : Same ρ left.unwrap right.unwrap := by
  cases same with
  | returned same => exact same
  | function envs => exact .function envs
  | _ => constructor

/-! ### What a program can tell -/

/-- Values that are the same are of one `kind`, so the errors that name their kinds are the same. -/
theorem kind_eq (same : Same ρ left right) : left.kind = right.kind := by
  cases same <;> rfl

/-- Conditions with values that are the same hold alike by `isTruthy`, so the same branch is taken.
-/
theorem isTruthy_eq (same : Same ρ left right) : left.isTruthy = right.isTruthy := by
  cases same <;> rfl

/-- Values that are the same end statements alike, for `ends` looks at the wrapper alone. -/
theorem ends_eq (same : Same ρ left right) : left.ends = right.ends := by
  cases same <;> rfl

/-- Values that are the same are equal (`==`) to values that are. For functions this takes that no
scope has two partners, on either side. -/
theorem beq_eq (first : Same ρ left right) (second : Same ρ left' right') :
    (left == left') = (right == right') := by
  change left.beq left' = right.beq right'
  induction first generalizing left' right' with
  | returned _ ih =>
    cases second with
    | returned same => exact ih same
    | _ => rfl
  | function envs =>
    cases second with
    | function envs' =>
      have own := ρ.eq_iff (List.forall₂_cons.1 envs).1 (List.forall₂_cons.1 envs').1
      exact congrArg (_ && ·) (beq_eq_beq.2 own)
    | _ => rfl
  | _ => cases second <;> rfl

end Value.Same

/-- A unary operator answers values that are the same with one value, which is ground or an error.
-/
theorem UnaryOp.apply_eq {ρ : Renaming} (config : Config) (op : UnaryOp) {left right : Value}
    (same : left.Same ρ right) : op.apply config left = op.apply config right := by
  cases op with
  | not => exact congrArg (fun truth => Value.boolean !truth) same.isTruthy_eq
  | neg => cases same <;> rfl

/-- A binary operator answers values that are the same with one value, equality of functions
included. -/
theorem BinaryOp.apply_eq {ρ : Renaming} (config : Config) (op : BinaryOp)
    {left right left' right' : Value} (first : left.Same ρ right) (second : left'.Same ρ right') :
    op.apply config left left' = op.apply config right right' := by
  have equal := first.beq_eq second
  have kind := first.kind_eq
  have kind' := second.kind_eq
  cases first <;> cases second <;> try rfl
  all_goals simp only [apply, bne, equal, kind, kind']

/-! ## Bindings -/

/-- Scopes that bind the same names to values that are the same up to a `Renaming`. -/
def Scope.Same (ρ : Renaming) (left right : Scope) : Prop :=
  ∀ name : String, Option.Rel (Value.Same ρ) left[name]? right[name]?

/-- Scopes without bindings are the same, whatever the renaming. -/
theorem Scope.Same.empty {ρ : Renaming} : Scope.Same ρ ∅ ∅ := by
  intro name
  simp

/-- More scopes may be paired, as for `Value.Same`. -/
theorem Scope.Same.mono {ρ more : Renaming} {left right : Scope} (same : left.Same ρ right)
    (le : ρ ≤ more) : left.Same more right := by
  intro name
  have bound := same name
  generalize left[name]? = value, right[name]? = value' at bound ⊢
  cases bound with
  | some same => exact .some (same.mono le)
  | none => exact .none

/-- Values that are the same may be bound to one name in scopes that are the same, by `insert` on
both sides. -/
theorem Scope.Same.insert {ρ : Renaming} {left right : Scope} (same : left.Same ρ right)
    (name : String) {value value' : Value} (fits : value.Same ρ value') :
    Scope.Same ρ (left.insert name value) (right.insert name value') := by
  intro other
  rw [Std.TreeMap.getElem?_insert, Std.TreeMap.getElem?_insert]
  split
  · exact .some fits
  · exact same other

/-- Paired scopes are there, each on its side, so that scopes which are added have no partner yet.
-/
structure Renaming.Between (ρ : Renaming) (heap heap' : Heap) : Prop where
  left_lt : ∀ ⦃left right⦄, ρ.rel left right → left < heap.scopes.size
  right_lt : ∀ ⦃left right⦄, ρ.rel left right → right < heap'.scopes.size

/-- **A renaming that carries bindings over**: paired scopes are there, and they bind the same names
to values that are the same. -/
structure Renaming.Carries (ρ : Renaming) (heap heap' : Heap) : Prop
    extends ρ.Between heap heap' where
  scope : ∀ ⦃left right⦄, ρ.rel left right → (heap.scope left).Same ρ (heap'.scope right)

/-- **How a renaming grows** while bindings become others: scopes are only ever added, and the pairs
that come in addition are of scopes that were added. -/
structure Renaming.Grows (ρ more : Renaming) (heap heap' after after' : Heap) : Prop where
  le : ρ ≤ more
  size_le : heap.scopes.size ≤ after.scopes.size
  size_le' : heap'.scopes.size ≤ after'.scopes.size
  fresh : ∀ ⦃left right⦄, more.rel left right →
    ρ.rel left right ∨ heap.scopes.size ≤ left ∧ heap'.scopes.size ≤ right

namespace Renaming

variable {ρ more : Renaming} {heap heap' after after' : Heap} {env env' : Env}

namespace Between

/-- Scopes may be added on either side, and paired scopes are still there (`Renaming.Between`). -/
theorem mono (between : ρ.Between heap heap') (le : heap.scopes.size ≤ after.scopes.size)
    (le' : heap'.scopes.size ≤ after'.scopes.size) : ρ.Between after after' where
  left_lt _ _ paired := Nat.lt_of_lt_of_le (between.left_lt paired) le
  right_lt _ _ paired := Nat.lt_of_lt_of_le (between.right_lt paired) le'

/-- The scopes that two renamings pair, by `Renaming.union`, are there if those of each are. -/
theorem union (first : ρ.Between heap heap') (second : more.Between heap heap')
    (agree : ∀ ⦃left right left' right'⦄, ρ.rel left right → more.rel left' right' →
      (left = left' ↔ right = right')) : (ρ.union more agree).Between heap heap' where
  left_lt _ _ paired := paired.elim (fun old => first.left_lt old) (fun new => second.left_lt new)
  right_lt _ _ paired := paired.elim (fun old => first.right_lt old) (fun new => second.right_lt new)

end Between

namespace Carries

/-- A name is bound to values that are the same in environments that are, as `Heap.get?` finds them.
-/
theorem get? (carries : ρ.Carries heap heap') (envs : env.Same ρ env') (name : String) :
    Option.Rel (Value.Same ρ) (heap.get? env name) (heap'.get? env' name) := by
  have chains : List.Forall₂ ρ.rel env.chain env'.chain := envs
  unfold Heap.get?
  generalize env.chain = chain, env'.chain = chain' at chains ⊢
  induction chains with
  | nil => exact .none
  | cons paired _ ih =>
    have bound := carries.scope paired name
    rw [List.findSome?_cons, List.findSome?_cons]
    generalize (heap.scope _)[name]? = value, (heap'.scope _)[name]? = value' at bound ⊢
    cases bound with
    | some same => exact .some same
    | none => exact ih

/-- Values that are the same may be bound in paired scopes, by `Heap.set` on both sides. -/
theorem set (carries : ρ.Carries heap heap') (paired : ρ.rel env.own env'.own) (name : String)
    {value value' : Value} (fits : value.Same ρ value') :
    ρ.Carries (heap.set env name value) (heap'.set env' name value') where
  toBetween := carries.mono (Nat.le_of_eq (Heap.size_set ..).symm)
    (Nat.le_of_eq (Heap.size_set ..).symm)
  scope left right other := by
    by_cases own : left = env.own
    · obtain rfl := own
      obtain rfl := ρ.unique.2 other paired
      rw [Heap.scope_set_own (carries.left_lt paired), Heap.scope_set_own (carries.right_lt paired)]
      exact (carries.scope paired).insert name fits
    · have own' : right ≠ env'.own := fun met => own ((ρ.eq_iff other paired).2 met)
      rw [Heap.scope_set_of_ne own, Heap.scope_set_of_ne own']
      exact carries.scope other

/-- The renaming with one pair more, that of the scopes that `Heap.newScope` adds next on each side.
-/
def next (carries : ρ.Carries heap heap') : Renaming :=
  ρ.union (single heap.scopes.size heap'.scopes.size) <| by
    rintro left right _ _ paired ⟨rfl, rfl⟩
    have new := Nat.ne_of_lt (carries.left_lt paired)
    have new' := Nat.ne_of_lt (carries.right_lt paired)
    exact ⟨fun met => absurd met new, fun met => absurd met new'⟩

/-- Scopes may be added on both sides, by `Heap.newScope`, and paired with each other. -/
theorem newScope (carries : ρ.Carries heap heap') (outer outer' : List ScopeId) :
    carries.next.Carries (heap.newScope outer).2 (heap'.newScope outer').2 where
  toBetween := by
    have old : ρ.Between (heap.newScope outer).2 (heap'.newScope outer').2 :=
      carries.mono (by simp [Heap.newScope]) (by simp [Heap.newScope])
    refine old.union ⟨?left, ?right⟩ _
    case left =>
      rintro _ _ ⟨rfl, -⟩
      simp [Heap.newScope]
    case right =>
      rintro _ _ ⟨-, rfl⟩
      simp [Heap.newScope]
  scope left right paired := by
    rw [Heap.scope_newScope, Heap.scope_newScope]
    rcases paired with paired | ⟨rfl, rfl⟩
    · exact (carries.scope paired).mono fun _ _ => .inl
    · simp [Heap.scope, Scope.Same.empty]

end Carries

namespace Grows

variable {all : Renaming} {last last' : Heap}

/-- Nothing may happen: `Renaming.Grows` is reflexive. -/
theorem refl (ρ : Renaming) (heap heap' : Heap) : ρ.Grows ρ heap heap' heap heap' where
  le := le_rfl
  size_le := Nat.le_refl _
  size_le' := Nat.le_refl _
  fresh _ _ := .inl

/-- One thing may happen after the other: `Renaming.Grows` is transitive. -/
theorem trans (first : ρ.Grows more heap heap' after after')
    (second : more.Grows all after after' last last') : ρ.Grows all heap heap' last last' where
  le := le_trans first.le second.le
  size_le := Nat.le_trans first.size_le second.size_le
  size_le' := Nat.le_trans first.size_le' second.size_le'
  fresh left right paired := by
    rcases second.fresh paired with old | ⟨new, new'⟩
    · exact first.fresh old
    · exact .inr ⟨Nat.le_trans first.size_le new, Nat.le_trans first.size_le' new'⟩

/-- Names may be bound by `Heap.set`, which adds no scope and no pair. -/
theorem set (ρ : Renaming) (heap heap' : Heap) (name : String) (value value' : Value) :
    ρ.Grows ρ heap heap' (heap.set env name value) (heap'.set env' name value') where
  le := le_rfl
  size_le := Nat.le_of_eq (Heap.size_set ..).symm
  size_le' := Nat.le_of_eq (Heap.size_set ..).symm
  fresh _ _ := .inl

/-- Scopes may be added on both sides, which adds their pair alone, as `next` has it. -/
theorem newScope (carries : ρ.Carries heap heap') (outer outer' : List ScopeId) :
    ρ.Grows carries.next heap heap' (heap.newScope outer).2 (heap'.newScope outer').2 where
  le _ _ := .inl
  size_le := by simp [Heap.newScope]
  size_le' := by simp [Heap.newScope]
  fresh left right paired := by
    rcases paired with old | ⟨rfl, rfl⟩
    · exact .inl old
    · exact .inr ⟨Nat.le_refl _, Nat.le_refl _⟩

end Grows

end Renaming

end Monkey
