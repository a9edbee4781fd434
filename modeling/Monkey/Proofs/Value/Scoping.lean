import Mathlib.Data.List.Basic
import Mathlib.Logic.Function.Basic
import Monkey.Proofs.Eval.Links

/-! # Histories of environments

Environments are made, with or without another one around them; names are bound in them, and their
bindings are dropped (`EnvAction`). What a name is bound to after any such history (`IsHistory`)
can be read off the history alone: an environment holds the latest binding that was made in it
since its bindings were last dropped (`Holds`), and a name is looked up along the chain of
environments from the inside to the outside (`Sees`).

* `EnvTable.after` carries a history out on a `Heap`, and `agrees_after` says that what comes of
  it `Agrees` with the history, by induction over the actions.
* `get?_after_eq_some_iff`, `get?_set_of_sees`, `get?_clear_of_sees` and their negative
  counterparts read lookups, bindings and drops off that; `describe?_eq_names` does it for the
  account of an environment.
* `nested_scopes` puts them together in the structure `Scoped`. -/

namespace Monkey

/-! ## Histories -/

/-- What can be done with environments. They go by numbers (`ScopeId`), in the order in which they
are made. -/
inductive EnvAction where
  /-- An environment is made with none around it, like the one that an evaluator begins with. -/
  | new
  /-- An environment is made with another one around it, like that of a call around which is the one
  of the function. -/
  | enclose (outer : ScopeId)
  /-- A name is bound in the own scope of an environment, whether or not it was bound there or
  around it. -/
  | set (env : ScopeId) (name : String) (value : Value)
  /-- All bindings in the own scope of an environment are dropped; those around it stay. -/
  | clear (env : ScopeId)

namespace EnvAction

/-- The outer link of the environment that is made, if one is: `none` for a `set` and a `clear`. -/
def link? : EnvAction → Option (Option ScopeId)
  | new => some none
  | enclose outer => some (some outer)
  | _ => none

/-- An action uses only environments that have been made, of which there are `count`. -/
def Possible (count : Nat) : EnvAction → Prop
  | new => True
  | enclose outer => outer < count
  | set env _ _ => env < count
  | clear env => env < count

/-- An action that neither drops the bindings of an environment nor binds a name there again: what
the environment held for the name, it holds behind the action. -/
structure Keeps (env : ScopeId) (name : String) (action : EnvAction) : Prop where
  ne_clear : action ≠ clear env
  ne_set : ∀ value, action ≠ set env name value

/-- To make an environment changes no binding: an action with a `link?` keeps all of them. -/
theorem keeps_of_link? {action : EnvAction} {link : Option ScopeId}
    (makes : action.link? = some link) (env : ScopeId) (name : String) :
    action.Keeps env name := by
  constructor
  · rintro rfl
    cases makes
  · rintro value rfl
    cases makes

/-- A binding keeps all others: those of other names, and those of the same name in other
environments. -/
theorem keeps_set_iff {env other : ScopeId} {name word : String} {value : Value} :
    (set env name value).Keeps other word ↔ ¬(env = other ∧ name = word) := by
  constructor
  · rintro ⟨-, ne_set⟩ ⟨rfl, rfl⟩
    exact ne_set value rfl
  · intro different
    refine ⟨nofun, fun _ same => ?_⟩
    obtain ⟨sameEnv, sameName, -⟩ := EnvAction.set.inj same
    exact different ⟨sameEnv, sameName⟩

/-- To drop the bindings of an environment keeps those of all other environments, and none of its
own. -/
theorem keeps_clear_iff {env other : ScopeId} {word : String} :
    (clear env).Keeps other word ↔ env ≠ other :=
  ⟨fun keeps same => keeps.ne_clear (congrArg clear same),
    fun different => ⟨fun same => different (EnvAction.clear.inj same), nofun⟩⟩

end EnvAction

/-- The outer links of the environments that are made in a history, in the order of their numbers.
-/
def linksOf (history : List EnvAction) : Links := history.filterMap (·.link?)

/-- Histories in which every environment is made before it is used: each action is `Possible` behind
those before it. -/
inductive IsHistory : List EnvAction → Prop where
  /-- Nothing has happened, so there is no environment that could be used. -/
  | start : IsHistory []
  /-- One action more, which uses only environments that the history before it has made. -/
  | step {history : List EnvAction} {action : EnvAction} : IsHistory history →
      action.Possible (linksOf history).length → IsHistory (history ++ [action])

/-- In an environment the latest binding of a name is to this value, and the bindings have not been
dropped since: all actions behind that `set` are such that `Keeps` holds. -/
def Holds (history : List EnvAction) (env : ScopeId) (name : String) (value : Value) : Prop :=
  ∃ before after, history = before ++ .set env name value :: after ∧
    ∀ action ∈ after, action.Keeps env name

/-- A name is bound in an environment itself, to whatever value; environments around it do not
count. -/
def BoundIn (history : List EnvAction) (env : ScopeId) (name : String) : Prop :=
  ∃ value, Holds history env name value

/-- Along a chain of environments one gets to `env`, `beyond` which are these, and the name is bound
in none that is nearer. This is where a lookup of the name comes by. -/
def Sees (history : List EnvAction) (name : String) (chain : List ScopeId) (env : ScopeId)
    (beyond : List ScopeId) : Prop :=
  ∃ nearer, chain = nearer ++ env :: beyond ∧ ∀ other ∈ nearer, ¬BoundIn history other name

section

variable {history : List EnvAction} {action : EnvAction} {env : ScopeId} {name : String}
  {value : Value}

/-- The last action may make an environment, whose link then stands behind all others. -/
theorem linksOf_snoc (history : List EnvAction) (action : EnvAction) :
    linksOf (history ++ [action]) = linksOf history ++ action.link?.toList := by
  rw [linksOf, List.filterMap_append, linksOf, List.filterMap_cons, List.filterMap_nil]
  cases action.link? <;> rfl

/-- At the start nothing is held, for there is no action that could have bound a name. -/
theorem not_holds_nil : ¬Holds [] env name value := by
  rintro ⟨before, after, same, -⟩
  cases before <;> cases same

/-- The last action binds, or it keeps what is held before it. This is the law by which `Holds` is
followed through a history. -/
theorem holds_snoc : Holds (history ++ [action]) env name value ↔
    action = .set env name value ∨ action.Keeps env name ∧ Holds history env name value := by
  constructor
  · rintro ⟨before, after, same, kept⟩
    obtain rfl | ⟨after, last, rfl⟩ := after.eq_nil_or_concat'
    · exact .inl (List.append_singleton_inj.1 same).2
    · rw [← List.cons_append, ← List.append_assoc, List.append_singleton_inj] at same
      obtain ⟨rfl, rfl⟩ := same
      rw [List.forall_mem_append, List.forall_mem_singleton] at kept
      exact .inr ⟨kept.2, before, after, rfl, kept.1⟩
  · rintro (rfl | ⟨keeps, before, after, rfl, kept⟩)
    · exact ⟨history, [], rfl, nofun⟩
    · refine ⟨before, after ++ [action], by rw [List.append_assoc, List.cons_append], ?_⟩
      rw [List.forall_mem_append, List.forall_mem_singleton]
      exact ⟨kept, keeps⟩

namespace IsHistory

/-- An environment is made after the one around it, so links lead to smaller numbers and chains end.
-/
theorem outer_lt (possible : IsHistory history) {outer : ScopeId}
    (link : (linksOf history)[env]? = some (some outer)) : outer < env := by
  induction possible with
  | start => simp [linksOf] at link
  | @step history action _ allowed ih =>
    rw [linksOf_snoc] at link
    by_cases old : env < (linksOf history).length
    · rw [List.getElem?_append_left old] at link
      exact ih link
    · -- The link is that of the last action.
      have new := Nat.le_of_not_lt old
      rw [List.getElem?_append_right new] at link
      have made : action.link? = some (some outer) :=
        Option.mem_toList.1 (List.mem_of_getElem? link)
      obtain rfl : action = .enclose outer := by
        cases action <;> cases made
        rfl
      exact Nat.lt_of_lt_of_le allowed new

end IsHistory

/-! ### Chains -/

/-- What is seen along a chain is an environment with what is around it: the rest of a chain follows
the links again. -/
theorem Sees.follow {holder : ScopeId} {outer beyond : List ScopeId}
    (sees : Sees history name (env :: outer) holder beyond)
    (follow : (linksOf history).Follow env outer) : (linksOf history).Follow holder beyond := by
  obtain ⟨nearer, passes, -⟩ := sees
  exact follow.of_append passes

section

variable {own : ScopeId → Option Value} {changed : ScopeId} {result : Option Value}

/-- If one environment is changed, a chain on which it is near (no nearer one binds the name) gives
what it gives then, or else what is `beyond`. -/
theorem findSome?_update_of_near {nearer : List ScopeId} (beyond : List ScopeId)
    (near : ∀ id ∈ nearer, own id = none) :
    (nearer ++ changed :: beyond).findSome? (Function.update own changed result) =
      result.or (beyond.findSome? (Function.update own changed result)) := by
  induction nearer with
  | nil =>
    rw [List.nil_append, List.findSome?_cons, Function.update_self]
    cases result <;> rfl
  | cons id nearer ih =>
    rw [List.forall_mem_cons] at near
    rw [List.cons_append, List.findSome?_cons, ih near.2]
    by_cases same : id = changed
    · rw [same, Function.update_self]
      cases result <;> rfl
    · rw [Function.update_of_ne same, near.1]

/-- If one environment is changed, a chain on which it is hidden, behind one that binds the name,
gives what it gave. -/
theorem findSome?_update_of_hidden {chain : List ScopeId}
    (hidden : ∀ nearer beyond, chain = nearer ++ changed :: beyond →
      ∃ id ∈ nearer, own id ≠ none) :
    chain.findSome? (Function.update own changed result) = chain.findSome? own := by
  induction chain with
  | nil => rfl
  | cons id rest ih =>
    have other : id ≠ changed := by
      rintro rfl
      obtain ⟨_, mem, -⟩ := hidden [] rest rfl
      cases mem
    rw [List.findSome?_cons, List.findSome?_cons, Function.update_of_ne other]
    cases bound : own id with
    | some value => rfl
    | none =>
      refine ih fun nearer beyond passes => ?_
      obtain ⟨_, mem, found⟩ := hidden (id :: nearer) beyond (by rw [passes, List.cons_append])
      obtain rfl | mem := List.mem_cons.1 mem
      · exact absurd bound found
      · exact ⟨_, mem, found⟩

end

end

/-! ## What environments hold -/

/-- The environments that have been made, in this order, and the `Heap` with all bindings: the state
that actions change. -/
structure EnvTable where
  envs : List Env
  heap : Heap

namespace EnvTable

/-- No environment at all, and a heap without a scope: where every history starts. -/
def empty : EnvTable := ⟨[], .empty⟩

/-- Makes an environment with some scopes around it, by `Heap.newScope`; its number is the number of
environments so far. -/
def add (table : EnvTable) (outer : List ScopeId) : EnvTable :=
  let (env, heap) := table.heap.newScope outer
  ⟨table.envs ++ [env], heap⟩

/-- Carries out an action with `add`, `Heap.set` or `Heap.clear`. An action on an environment that
does not exist does nothing; `Possible` excludes it. -/
def act (table : EnvTable) : EnvAction → EnvTable
  | .new => table.add []
  | .enclose outer =>
    match table.envs[outer]? with
    | some env => table.add env.chain
    | none => table
  | .set number name value =>
    match table.envs[number]? with
    | some env => { table with heap := table.heap.set env name value }
    | none => table
  | .clear number =>
    match table.envs[number]? with
    | some env => { table with heap := table.heap.clear env }
    | none => table

/-- What a history leads to from `empty`, when its actions are carried out one after the other. -/
def after (history : List EnvAction) : EnvTable := history.foldl act empty

/-- The value of a name in an environment, by `Heap.get?`; there is none if there is no such
environment. -/
def get? (table : EnvTable) (number : ScopeId) (name : String) : Option Value :=
  table.envs[number]?.bind fun env => table.heap.get? env name

/-- The account of an environment, by `Heap.describe`: which names its own scope binds, and whether
others are around it. -/
def describe? (table : EnvTable) (number : ScopeId) : Option String :=
  table.envs[number]?.map table.heap.describe

/-- The value of a name in the own scope of an environment, without those around it. This is what
`Holds` says of a history. -/
def own? (table : EnvTable) (name : String) (id : ScopeId) : Option Value :=
  (table.heap.scope id)[name]?

/-- One action more is carried out behind the others: the step lemma for `after`. -/
theorem after_snoc (history : List EnvAction) (action : EnvAction) :
    after (history ++ [action]) = (after history).act action := by
  rw [after, List.foldl_append]
  rfl

section

variable {table : EnvTable} {changed : ScopeId} {around : List ScopeId}

/-- A binding is carried out by `Heap.set` where there is such an environment. -/
theorem act_set (found : table.envs[changed]? = some ⟨changed, around⟩) (name : String)
    (value : Value) : table.act (.set changed name value) =
      { table with heap := table.heap.set ⟨changed, around⟩ name value } := by
  rw [act, found]

/-- Bindings are dropped by `Heap.clear` where there is such an environment. -/
theorem act_clear (found : table.envs[changed]? = some ⟨changed, around⟩) :
    table.act (.clear changed) = { table with heap := table.heap.clear ⟨changed, around⟩ } := by
  rw [act, found]

/-- A binding makes no environment and drops none: all keep their numbers and their chains. -/
theorem envs_act_set (found : table.envs[changed]? = some ⟨changed, around⟩) {number : ScopeId}
    {env : Env} (there : table.envs[number]? = some env) {name : String} {value : Value} :
    (table.act (.set changed name value)).envs[number]? = some env := by
  rw [act_set found, there]

/-- To drop bindings drops no environment, and all keep their numbers and their chains. -/
theorem envs_act_clear (found : table.envs[changed]? = some ⟨changed, around⟩) {number : ScopeId}
    {env : Env} (there : table.envs[number]? = some env) :
    (table.act (.clear changed)).envs[number]? = some env := by
  rw [act_clear found, there]

/-- A binding gives the name its value in one environment and leaves it as it is in all others. -/
theorem own?_act_set (found : table.envs[changed]? = some ⟨changed, around⟩)
    (there : changed < table.heap.scopes.size) (name : String) (value : Value) :
    (table.act (.set changed name value)).own? name =
      Function.update (table.own? name) changed (some value) := by
  funext id
  rw [act_set found, own?]
  by_cases here : id = changed
  · subst here
    rw [Function.update_self]
    have there : (⟨id, around⟩ : Env).own < table.heap.scopes.size := there
    have own := Heap.scope_set_own there name value
    simp [own]
  · rw [Function.update_of_ne here]
    have here : id ≠ (⟨changed, around⟩ : Env).own := here
    have kept := Heap.scope_set_of_ne here table.heap name value
    simp [kept, own?]

/-- A binding leaves all other names alone, also in the environment in which it is made. -/
theorem own?_act_set_of_ne (found : table.envs[changed]? = some ⟨changed, around⟩)
    (there : changed < table.heap.scopes.size) {name other : String} (different : name ≠ other)
    (value : Value) : (table.act (.set changed name value)).own? other = table.own? other := by
  funext id
  rw [act_set found, own?]
  by_cases here : id = changed
  · subst here
    have there : (⟨id, around⟩ : Env).own < table.heap.scopes.size := there
    have own := Heap.scope_set_own there name value
    simp [own, Std.TreeMap.getElem?_insert, different, own?]
  · have here : id ≠ (⟨changed, around⟩ : Env).own := here
    have kept := Heap.scope_set_of_ne here table.heap name value
    simp [kept, own?]

/-- Where bindings are dropped no name has a value any more; all other scopes stay as they are. -/
theorem own?_act_clear (found : table.envs[changed]? = some ⟨changed, around⟩) (name : String) :
    (table.act (.clear changed)).own? name = Function.update (table.own? name) changed none := by
  funext id
  rw [act_clear found, own?]
  by_cases here : id = changed
  · subst here
    rw [Function.update_self]
    have own := table.heap.scope_clear_own ⟨id, around⟩
    simp [own]
  · rw [Function.update_of_ne here]
    have here : id ≠ (⟨changed, around⟩ : Env).own := here
    have kept := Heap.scope_clear_of_ne here table.heap
    simp [kept, own?]

end

/-- Environments that are linked, and bindings that are held, as a history says. It is this relation
that every action preserves. -/
structure Agrees (history : List EnvAction) (table : EnvTable) : Prop where
  size_eq : table.heap.scopes.size = (linksOf history).length
  length_eq : table.envs.length = (linksOf history).length
  env : ∀ number < (linksOf history).length, ∃ outer,
    table.envs[number]? = some ⟨number, outer⟩ ∧ (linksOf history).Follow number outer
  own? : ∀ id name value, table.own? name id = some value ↔ Holds history id name value

namespace Agrees

variable {history : List EnvAction} {action : EnvAction} {table : EnvTable}

/-- At the start there is nothing: `empty` agrees with the history in which nothing has happened. -/
theorem empty : EnvTable.empty.Agrees [] where
  size_eq := rfl
  length_eq := rfl
  env := nofun
  own? id name value := by
    refine iff_of_false ?_ not_holds_nil
    simp [EnvTable.own?, EnvTable.empty, Heap.scope, Heap.empty]

/-- An environment is made where its chain follows the links, and then the larger table agrees with
the longer history. -/
theorem add (agrees : table.Agrees history) {link : Option ScopeId} {outer : List ScopeId}
    (makes : action.link? = some link)
    (follow : (linksOf history ++ [link]).Follow (linksOf history).length outer) :
    (table.add outer).Agrees (history ++ [action]) := by
  have links : linksOf (history ++ [action]) = linksOf history ++ [link] := by
    rw [linksOf_snoc, makes]
    rfl
  constructor
  case size_eq =>
    rw [links]
    simp [EnvTable.add, Heap.newScope, agrees.size_eq]
  case length_eq =>
    rw [links]
    simp [EnvTable.add, agrees.length_eq]
  case env =>
    rw [links, List.length_append, List.length_singleton]
    intro number made
    change ∃ around, (table.envs ++ [⟨table.heap.scopes.size, outer⟩])[number]? = _ ∧ _
    by_cases old : number < (linksOf history).length
    · obtain ⟨around, same, chain⟩ := agrees.env number old
      rw [List.getElem?_append_left (by rwa [agrees.length_eq])]
      exact ⟨around, same, chain.mono (List.prefix_append ..)⟩
    · obtain rfl : number = (linksOf history).length := by omega
      rw [List.getElem?_append_right (Nat.le_of_eq agrees.length_eq), agrees.length_eq,
        Nat.sub_self, agrees.size_eq]
      exact ⟨outer, rfl, follow⟩
  case own? =>
    intro id name value
    have keeps := EnvAction.keeps_of_link? makes id name
    rw [holds_snoc, or_iff_right (keeps.ne_set value), and_iff_right keeps, ← agrees.own?]
    change ((table.heap.newScope outer).2.scope id)[name]? = _ ↔ _
    rw [Heap.scope_newScope]
    rfl

/-- The bindings become others, and no environment is made: the case of `set` and `clear` in the
step lemma. -/
theorem change (agrees : table.Agrees history) (none_made : action.link? = none)
    {changed : EnvTable} (envs : changed.envs = table.envs)
    (size : changed.heap.scopes.size = table.heap.scopes.size)
    (own : ∀ id name value, changed.own? name id = some value ↔
      action = .set id name value ∨ action.Keeps id name ∧ table.own? name id = some value) :
    changed.Agrees (history ++ [action]) := by
  have links : linksOf (history ++ [action]) = linksOf history := by
    rw [linksOf_snoc, none_made]
    exact List.append_nil _
  constructor
  case size_eq => rw [links, size, agrees.size_eq]
  case length_eq => rw [links, envs, agrees.length_eq]
  case env =>
    rw [links, envs]
    exact agrees.env
  case own? =>
    intro id name value
    rw [holds_snoc, ← agrees.own?]
    exact own id name value

/-- **An action does what the history says behind it**: the step lemma, with one case for each
`EnvAction`. -/
theorem act (agrees : table.Agrees history)
    (possible : action.Possible (linksOf history).length) :
    (table.act action).Agrees (history ++ [action]) := by
  cases action with
  | new => exact agrees.add rfl List.getElem?_concat_length
  | enclose outer =>
    obtain ⟨around, found, chain⟩ := agrees.env outer possible
    rw [EnvTable.act, found]
    exact agrees.add rfl ⟨List.getElem?_concat_length, chain.mono (List.prefix_append ..)⟩
  | set changed name value =>
    obtain ⟨around, found, -⟩ := agrees.env changed possible
    have there : changed < table.heap.scopes.size := by rwa [agrees.size_eq]
    have same := act_set found name value
    refine agrees.change rfl (by rw [same]) (by rw [same, Heap.size_set]) fun id word other => ?_
    rw [EnvAction.keeps_set_iff]
    by_cases sameName : name = word
    · subst sameName
      rw [own?_act_set found there]
      by_cases here : id = changed
      · subst here
        simp
      · simp [Function.update_of_ne here, Ne.symm here]
    · simp [own?_act_set_of_ne found there sameName, sameName]
  | clear changed =>
    obtain ⟨around, found, -⟩ := agrees.env changed possible
    have same := act_clear found
    refine agrees.change rfl (by rw [same]) (by rw [same, Heap.size_clear]) fun id word other => ?_
    rw [EnvAction.keeps_clear_iff, own?_act_clear found]
    by_cases here : id = changed
    · subst here
      simp
    · simp [Function.update_of_ne here, Ne.symm here]

end Agrees

section

variable {history : List EnvAction} {env : ScopeId} {outer : List ScopeId}

/-- **Every history leads to what it says**, by induction over its actions. -/
theorem agrees_after (possible : IsHistory history) : (after history).Agrees history := by
  induction possible with
  | start => exact .empty
  | step _ allowed ih =>
    rw [after_snoc]
    exact ih.act allowed

/-- Names are looked up along the chain: the first own scope that binds the name has the value. -/
theorem get?_eq {table : EnvTable} (found : table.envs[env]? = some ⟨env, outer⟩) (name : String) :
    table.get? env name = (env :: outer).findSome? (table.own? name) := by
  rw [get?, found]
  rfl

/-- No value is held where the name is not bound: `own?` and `BoundIn` agree after every history. -/
theorem own?_eq_none_iff (possible : IsHistory history) {name : String} {id : ScopeId} :
    (after history).own? name id = none ↔ ¬BoundIn history id name := by
  rw [Option.eq_none_iff_forall_ne_some, BoundIn, not_exists]
  exact forall_congr' fun value => not_congr ((agrees_after possible).own? id name value)

/-- The names in the own scope of an environment are those that are `BoundIn` it by the history. -/
theorem mem_scope_iff (possible : IsHistory history) {name : String} {id : ScopeId} :
    name ∈ (after history).heap.scope id ↔ BoundIn history id name := by
  rw [Std.TreeMap.mem_iff_isSome_getElem?, Option.isSome_iff_exists]
  exact exists_congr fun value => (agrees_after possible).own? id name value

section

variable (possible : IsHistory history)
  (found : (after history).envs[env]? = some ⟨env, outer⟩)

include possible found

variable (chain : (linksOf history).Follow env outer)

/-- **A name has the value that is held by the nearest environment where it is bound**: the one that
the chain `Sees` first. -/
theorem get?_after_eq_some_iff (name : String) (value : Value) :
    (after history).get? env name = some value ↔ ∃ holder beyond,
      Sees history name (env :: outer) holder beyond ∧ Holds history holder name value := by
  rw [get?_eq found, List.findSome?_eq_some_iff]
  constructor
  · rintro ⟨nearer, holder, beyond, passes, held, near⟩
    refine ⟨holder, beyond, ⟨nearer, passes, fun other mem => ?_⟩, ?_⟩
    · exact (own?_eq_none_iff possible).1 (near other mem)
    · exact ((agrees_after possible).own? holder name value).1 held
  · rintro ⟨holder, beyond, ⟨nearer, passes, near⟩, held⟩
    refine ⟨nearer, holder, beyond, passes, ?_, fun other mem => ?_⟩
    · exact ((agrees_after possible).own? holder name value).2 held
    · exact (own?_eq_none_iff possible).2 (near other mem)

/-- A name that is bound in no environment on the chain has no value; that is the only way for it to
have none. -/
theorem get?_after_eq_none_iff (name : String) : (after history).get? env name = none ↔
    ∀ other ∈ env :: outer, ¬BoundIn history other name := by
  rw [get?_eq found, List.findSome?_eq_none_iff]
  exact forall₂_congr fun other _ => own?_eq_none_iff possible

include chain

/-- A binding is visible wherever its environment is seen, that is, where no nearer one binds the
name. -/
theorem get?_set_of_sees {changed : ScopeId} {name : String} (value : Value)
    {beyond : List ScopeId} (sees : Sees history name (env :: outer) changed beyond) :
    (after (history ++ [.set changed name value])).get? env name = some value := by
  have agrees := agrees_after possible
  have there := (sees.follow chain).lt_length
  obtain ⟨around, foundChanged, -⟩ := agrees.env changed there
  obtain ⟨nearer, passes, near⟩ := sees
  rw [after_snoc, get?_eq (envs_act_set foundChanged found),
    own?_act_set foundChanged (by rwa [agrees.size_eq]), passes, findSome?_update_of_near]
  · rfl
  · exact fun id mem => (own?_eq_none_iff possible).2 (near id mem)

/-- Where bindings are dropped, names that were seen there have the values that they have in the
next environment, or none if there is no next. -/
theorem get?_clear_of_sees {changed : ScopeId} {name : String} {beyond : List ScopeId}
    (sees : Sees history name (env :: outer) changed beyond) :
    (after (history ++ [.clear changed])).get? env name =
      beyond.head?.bind ((after history).get? · name) := by
  have follow := sees.follow chain
  obtain ⟨around, foundChanged, -⟩ := (agrees_after possible).env changed follow.lt_length
  obtain ⟨nearer, passes, near⟩ := sees
  have unbound : ∀ id ∈ nearer, (after history).own? name id = none :=
    fun id mem => (own?_eq_none_iff possible).2 (near id mem)
  -- The environment is not met again beyond itself.
  have absent : changed ∉ beyond := fun mem =>
    Nat.lt_irrefl changed (follow.lt (fun own next => possible.outer_lt) changed mem)
  have kept : beyond.findSome? (Function.update ((after history).own? name) changed none) =
      beyond.findSome? ((after history).own? name) :=
    findSome?_update_of_hidden fun nearer rest again =>
      absurd (again ▸ List.mem_append_right nearer List.mem_cons_self) absent
  rw [after_snoc, get?_eq (envs_act_clear foundChanged found), own?_act_clear foundChanged, passes,
    findSome?_update_of_near beyond unbound, Option.none_or, kept]
  cases beyond with
  | nil => rfl
  | cons next beyond =>
    obtain ⟨around, foundNext, chainNext⟩ := (agrees_after possible).env next follow.2.lt_length
    obtain rfl := follow.2.unique chainNext
    exact (get?_eq foundNext name).symm

omit chain found

/-- If no nearer environment bound the name, an environment on the chain would be seen: so one that
is not seen is hidden by another. -/
theorem exists_own?_of_not_sees {changed : ScopeId} {name : String}
    (hidden : ¬∃ beyond, Sees history name (env :: outer) changed beyond)
    (nearer beyond : List ScopeId) (passes : env :: outer = nearer ++ changed :: beyond) :
    ∃ id ∈ nearer, (after history).own? name id ≠ none := by
  by_contra none
  push Not at none
  exact hidden ⟨beyond, nearer, passes, fun id mem => (own?_eq_none_iff possible).1 (none id mem)⟩

include found

/-- A binding is not visible where its environment is not seen, and it changes no other name
anywhere. -/
theorem get?_set_of_not_sees {changed : ScopeId} (there : changed < (linksOf history).length)
    {name other : String} (value : Value)
    (hidden : ¬(name = other ∧ ∃ beyond, Sees history name (env :: outer) changed beyond)) :
    (after (history ++ [.set changed name value])).get? env other =
      (after history).get? env other := by
  have agrees := agrees_after possible
  obtain ⟨around, foundChanged, -⟩ := agrees.env changed there
  have there : changed < (after history).heap.scopes.size := by rwa [agrees.size_eq]
  rw [after_snoc, get?_eq (envs_act_set foundChanged found), get?_eq found]
  by_cases same : name = other
  · subst same
    rw [own?_act_set foundChanged there]
    refine findSome?_update_of_hidden (exists_own?_of_not_sees possible ?_)
    exact fun sees => hidden ⟨rfl, sees⟩
  · rw [own?_act_set_of_ne foundChanged there same]

/-- Where an environment is not seen, names keep their values when its bindings are dropped. -/
theorem get?_clear_of_not_sees {changed : ScopeId} (there : changed < (linksOf history).length)
    {name : String} (hidden : ¬∃ beyond, Sees history name (env :: outer) changed beyond) :
    (after (history ++ [.clear changed])).get? env name = (after history).get? env name := by
  obtain ⟨around, foundChanged, -⟩ := (agrees_after possible).env changed there
  rw [after_snoc, get?_eq (envs_act_clear foundChanged found), get?_eq found,
    own?_act_clear foundChanged]
  exact findSome?_update_of_hidden (exists_own?_of_not_sees possible hidden)

end

/-- The account of an environment lists the names of its own scope, quoted by `Quoted.write`, and
says whether others are around it. No value and no outer name is in it. -/
theorem describe?_eq_names {table : EnvTable} (found : table.envs[env]? = some ⟨env, outer⟩) :
    table.describe? env = some ("Environment \x7b names: [" ++
      ", ".intercalate ((table.heap.names ⟨env, outer⟩).map Quoted.write) ++
        "], enclosed: " ++ toString (!outer.isEmpty) ++ " \x7d") := by
  rw [describe?, found]
  rfl

/-- Where the same names are bound and there are others around both or around neither, the account
is the same, whatever the values and the outer names are. -/
theorem describe?_eq_of_boundIn_iff {history history' : List EnvAction} {env env' : ScopeId}
    (possible : IsHistory history) (made : env < (linksOf history).length)
    (possible' : IsHistory history') (made' : env' < (linksOf history').length)
    (bound : ∀ name, BoundIn history env name ↔ BoundIn history' env' name)
    (isGlobal : (linksOf history)[env]? = some none ↔ (linksOf history')[env']? = some none) :
    (after history').describe? env' = (after history).describe? env := by
  obtain ⟨outer, found, chain⟩ := (agrees_after possible).env env made
  obtain ⟨outer', found', chain'⟩ := (agrees_after possible').env env' made'
  have names : (after history').heap.names ⟨env', outer'⟩ =
      (after history).heap.names ⟨env, outer⟩ :=
    Heap.names_eq_of_mem_iff fun name => by
      rw [mem_scope_iff possible', mem_scope_iff possible, bound]
  have enclosed : outer'.isEmpty = outer.isEmpty := by
    rw [Bool.eq_iff_iff, List.isEmpty_iff, List.isEmpty_iff, chain.eq_nil_iff, chain'.eq_nil_iff,
      isGlobal]
  rw [describe?_eq_names found', describe?_eq_names found, names, enclosed]

/-- What can be read off a history about the environment `env`, around which are these others,
`outer`. -/
structure Scoped (history : List EnvAction) (env : ScopeId) (outer : List ScopeId) : Prop where
  /-- The others are linked in this order, each around the one before it. -/
  chain : (linksOf history).Follow env outer
  /-- A name has the value that is held by the nearest environment where it is bound. -/
  get?_eq_some_iff : ∀ name value, (after history).get? env name = some value ↔
    ∃ holder beyond, Sees history name (env :: outer) holder beyond ∧
      Holds history holder name value
  /-- A name has no value exactly if it is bound in none of them. -/
  get?_eq_none_iff : ∀ name, (after history).get? env name = none ↔
    ∀ other ∈ env :: outer, ¬BoundIn history other name
  /-- A binding is visible where its environment is seen: a nearer binding hides the outer ones. -/
  get?_set : ∀ changed name value beyond, Sees history name (env :: outer) changed beyond →
    (after (history ++ [.set changed name value])).get? env name = some value
  /-- Elsewhere it is not visible, and neither is it for any other name. -/
  get?_set_of_not_sees : ∀ changed name value other, changed < (linksOf history).length →
    ¬(name = other ∧ ∃ beyond, Sees history name (env :: outer) changed beyond) →
    (after (history ++ [.set changed name value])).get? env other = (after history).get? env other
  /-- If bindings are dropped where their environment is seen, names have the values that they have
  in the one around it. -/
  get?_clear : ∀ changed name beyond, Sees history name (env :: outer) changed beyond →
    (after (history ++ [.clear changed])).get? env name =
      beyond.head?.bind ((after history).get? · name)
  /-- Elsewhere names keep their values when bindings are dropped. -/
  get?_clear_of_not_sees : ∀ changed name, changed < (linksOf history).length →
    (¬∃ beyond, Sees history name (env :: outer) changed beyond) →
    (after (history ++ [.clear changed])).get? env name = (after history).get? env name
  /-- The account lists the names that are bound in the environment itself, each once and in
  increasing order of their code points. -/
  describe? : ∃ names : List String,
    (names.Pairwise fun left right => left.toList < right.toList) ∧
      (∀ name, name ∈ names ↔ BoundIn history env name) ∧
      (after history).describe? env = some ("Environment \x7b names: [" ++
        ", ".intercalate (names.map Quoted.write) ++ "], enclosed: " ++
          toString (!outer.isEmpty) ++ " \x7d")
  /-- However else the same names come to be bound, the account is the same. -/
  describe?_eq : ∀ history' env', IsHistory history' → env' < (linksOf history').length →
    (∀ name, BoundIn history env name ↔ BoundIn history' env' name) →
    ((linksOf history)[env]? = some none ↔ (linksOf history')[env']? = some none) →
    (after history').describe? env' = (after history).describe? env

/-- Every environment of a history is as the history says. Names are looked up along its chain, and
each environment on the chain gives the latest binding since its bindings were last dropped. So a
binding is visible exactly where its environment is on the chain and no nearer one binds the name,
and there only it is missing when the bindings are dropped. The account of the environment goes by
the names that are bound in it, whatever the order in which they came to be bound. -/
theorem nested_scopes (possible : IsHistory history) (made : env < (linksOf history).length) :
    ∃ outer, Scoped history env outer := by
  obtain ⟨outer, found, chain⟩ := (agrees_after possible).env env made
  refine ⟨outer, ?_⟩
  constructor
  case chain => exact chain
  case get?_eq_some_iff => exact get?_after_eq_some_iff possible found
  case get?_eq_none_iff => exact get?_after_eq_none_iff possible found
  case get?_set => exact fun _ _ value _ => get?_set_of_sees possible found chain value
  case get?_set_of_not_sees =>
    exact fun _ _ value _ there => get?_set_of_not_sees possible found there value
  case get?_clear => exact fun _ _ _ => get?_clear_of_sees possible found chain
  case get?_clear_of_not_sees => exact fun _ _ there => get?_clear_of_not_sees possible found there
  case describe? =>
    refine ⟨(after history).heap.names ⟨env, outer⟩, ?_, ?_, describe?_eq_names found⟩
    · exact (Heap.names_increasing _ _).imp String.lt_iff_toList_lt.1
    · exact fun name => Heap.mem_names.trans (mem_scope_iff possible)
  case describe?_eq =>
    exact fun _ _ possible' made' => describe?_eq_of_boundIn_iff possible made possible' made'

/-- An inner binding hides an outer one until it is dropped. -/
theorem nested_scopes_hidden :
    let history := [EnvAction.new, .enclose 0, .set 0 "a" (.integer 1), .set 1 "a" (.integer 2)]
    IsHistory history ∧ 1 < (linksOf history).length ∧
      (after history).get? 1 "a" = some (.integer 2) ∧
      (after (history ++ [.clear 1])).get? 1 "a" = some (.integer 1) := by
  intro history
  have outer : IsHistory [.new] := IsHistory.start.step trivial
  have both : IsHistory [.new, .enclose 0] := outer.step Nat.zero_lt_one
  have bound : IsHistory [.new, .enclose 0, .set 0 "a" (.integer 1)] := both.step Nat.zero_lt_two
  have possible : IsHistory history := bound.step Nat.one_lt_two
  obtain ⟨around, inner⟩ := nested_scopes possible Nat.one_lt_two
  obtain ⟨beyond, whole⟩ := nested_scopes possible Nat.zero_lt_two
  obtain rfl : around = [0] := inner.chain.unique ⟨rfl, rfl⟩
  obtain rfl : beyond = [] := whole.chain.unique rfl
  refine ⟨possible, Nat.one_lt_two, ?_, ?_⟩
  · exact (inner.get?_eq_some_iff ..).2
      ⟨1, [0], ⟨[], rfl, nofun⟩, [.new, .enclose 0, .set 0 "a" (.integer 1)], [], rfl, nofun⟩
  · rw [inner.get?_clear 1 "a" [0] ⟨[], rfl, nofun⟩]
    refine (whole.get?_eq_some_iff ..).2 ⟨0, [], ⟨[], rfl, nofun⟩, [.new, .enclose 0], _, rfl, ?_⟩
    rw [List.forall_mem_singleton, EnvAction.keeps_set_iff]
    exact fun same => Nat.one_ne_zero same.1

end

end EnvTable

end Monkey
