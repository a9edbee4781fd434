import Monkey.Proofs.Eval.Contents

/-! # What is around a scope

Environments are chains of scopes, and every value that captures one brings its own. They all
agree on what is around a scope: each scope has one outer link in `Links`, which it was made with,
and chains follow these links (`Links.Follow`). An evaluation adds links for the scopes it adds,
and no link ever changes: it is `EvalM.KeepsLinks`, which leads to `Node.keepsLinks` and
`Value.call_keepsLinks`. -/

namespace Monkey

/-- **The outer link of each scope**, by its number; a global scope has none. -/
abbrev Links := List (Option ScopeId)

/-- The scopes around a scope are those that one gets to along the links, one after the other, up to
a global one. -/
def Links.Follow (links : Links) (own : ScopeId) : List ScopeId → Prop
  | [] => links[own]? = some none
  | next :: outer => links[own]? = some (some next) ∧ links.Follow next outer

/-- An environment whose scopes are there and are linked in this order: its `outer` ones follow the
links from its `own` one. -/
def Env.Linked (links : Links) (env : Env) : Prop := links.Follow env.own env.outer

/-- A value that captures linked environments alone, however deep it is wrapped. -/
def Value.Linked (links : Links) : Value → Prop
  | .function _ _ env => env.Linked links
  | .returned value => value.Linked links
  | _ => True

/-- **Linked bindings**: there is one link for each scope, and all values that are bound are
`Linked`. -/
structure Heap.Linked (links : Links) (heap : Heap) : Prop where
  length_eq : links.length = heap.scopes.size
  all : heap.All (Value.Linked links)

/-- Links may be added, and what is followed stays followed, for no link changes. -/
theorem Links.Follow.mono {links more : Links} (added : links <+: more) {own : ScopeId}
    {outer : List ScopeId} (follow : links.Follow own outer) : more.Follow own outer := by
  have keep {id : ScopeId} {link : Option ScopeId} (known : links[id]? = some link) :
      more[id]? = some link := by
    obtain ⟨rest, rfl⟩ := added
    rw [List.getElem?_append_left (List.getElem?_eq_some_iff.1 known).1]
    exact known
  induction outer generalizing own with
  | nil => exact keep follow
  | cons next outer ih => exact ⟨keep follow.1, ih follow.2⟩

namespace Links.Follow

variable {links : Links} {own : ScopeId} {outer : List ScopeId}

/-- There is a link for a scope from which links are followed, so the scope is there. -/
theorem lt_length (follow : links.Follow own outer) : own < links.length := by
  cases outer with
  | nil => exact (List.getElem?_eq_some_iff.1 follow).1
  | cons next outer => exact (List.getElem?_eq_some_iff.1 follow.1).1

/-- A global scope has none around it, and only a global scope has none: its link is `none`. -/
theorem eq_nil_iff (follow : links.Follow own outer) : outer = [] ↔ links[own]? = some none := by
  cases outer with
  | nil => exact iff_of_true rfl follow
  | cons next outer => simp [follow.1]

/-- Where each link leads to a scope that was added before, so do the links in turn: the scopes
around are older ones. -/
theorem lt (earlier : ∀ own next : ScopeId, links[own]? = some (some next) → next < own)
    (follow : links.Follow own outer) : ∀ id ∈ outer, id < own := by
  induction outer generalizing own with
  | nil => exact nofun
  | cons next outer ih =>
    have less := earlier own next follow.1
    rw [List.forall_mem_cons]
    exact ⟨less, fun id mem => Nat.lt_trans (ih follow.2 id mem) less⟩

/-- From a scope links lead in one way, so environments with the same own scope are the same. -/
theorem unique {outer' : List ScopeId} (follow : links.Follow own outer)
    (follow' : links.Follow own outer') : outer = outer' := by
  induction outer generalizing own outer' with
  | nil =>
    cases outer' with
    | nil => rfl
    | cons next outer' => cases follow.symm.trans follow'.1
  | cons next outer ih =>
    cases outer' with
    | nil => cases follow.1.symm.trans follow'
    | cons next' outer' =>
      obtain rfl : next = next' :=
        Option.some.inj (Option.some.inj (follow.1.symm.trans follow'.1))
      rw [ih follow.2 follow'.2]

/-- On the way the links are followed from each scope, so what is around one of them is told by the
rest of the chain. -/
theorem of_append {id : ScopeId} {nearer beyond : List ScopeId} (follow : links.Follow own outer)
    (passes : own :: outer = nearer ++ id :: beyond) : links.Follow id beyond := by
  induction outer generalizing own nearer with
  | nil =>
    obtain ⟨rfl, same⟩ | ⟨others, rfl, none⟩ := List.cons_eq_append_iff.1 passes
    · cases same
      exact follow
    · simp at none
  | cons next outer ih =>
    obtain ⟨rfl, same⟩ | ⟨others, rfl, rest⟩ := List.cons_eq_append_iff.1 passes
    · cases same
      exact follow
    · exact ih follow.2 rest

end Links.Follow

namespace Value.Linked

variable {links more : Links} {value : Value}

/-- Links may be added, and a value that is `Linked` stays so. -/
theorem mono (added : links <+: more) (linked : value.Linked links) : value.Linked more := by
  induction value with
  | function parameters body env => exact Links.Follow.mono added linked
  | returned value ih => exact ih linked
  | _ => trivial

/-- Null captures nothing, so it is linked whatever the links are. -/
theorem null : Value.null.Linked links := trivial

/-- Ground values, those of `Value.IsGround`, capture nothing, so they are linked whatever the links
are. -/
theorem of_isGround (ground : value.IsGround) : value.Linked links := by
  cases value with
  | function parameters body env => exact ground.elim
  | returned value => exact ground.elim
  | _ => trivial

/-- What a linked value wraps is linked, so `Value.unwrap` keeps it so. -/
theorem unwrap (linked : value.Linked links) : value.unwrap.Linked links := by
  cases value with
  | returned value => exact linked
  | _ => exact linked

end Value.Linked

namespace Heap.Linked

variable {links more : Links} {heap : Heap}

/-- A linked value may be bound by `Heap.set`, and no link changes. -/
theorem set (linked : heap.Linked links) (env : Env) (name : String) {value : Value}
    (fits : value.Linked links) : (heap.set env name value).Linked links where
  length_eq := by simp [linked.length_eq]
  all := linked.all.set env name fits

/-- A new scope is linked to the own scope of the environment it is made in, and no other link
changes. -/
theorem newScope (linked : heap.Linked links) (env : Env) :
    (heap.newScope env.chain).2.Linked (links ++ [some env.own]) where
  length_eq := by simp [Heap.newScope, linked.length_eq]
  all id name value bound :=
    (linked.all.newScope env.chain id name value bound).mono (List.prefix_append ..)

/-- The environment of a new scope follows the links, the new one first. -/
theorem linked_newScope (linked : heap.Linked links) {env : Env} (known : env.Linked links) :
    (heap.newScope env.chain).1.Linked (links ++ [some env.own]) := by
  refine ⟨?_, known.mono (List.prefix_append ..)⟩
  change (links ++ [some env.own])[heap.scopes.size]? = _
  rw [← linked.length_eq, List.getElem?_append_right (Nat.le_refl _), Nat.sub_self]
  rfl

end Heap.Linked

/-- **An evaluation keeps links**: from bindings with these links it comes to bindings with the same
links and perhaps some more, and what it comes to fits them. -/
def EvalM.KeepsLinks {α : Type} (good : Links → α → Prop) (links : Links) (plain : EvalM α) : Prop :=
  ∀ heap : Heap, heap.Linked links → ∃ more : Links, links <+: more ∧
    (plain.run heap).2.Linked more ∧ good more (plain.run heap).1

/-- Linked arguments, or an error in their place, as `Expr.evalList` gives them. -/
def LinkedArguments (links : Links) : Except RuntimeError (List Value) → Prop
  | .ok values => ∀ value ∈ values, value.Linked links
  | .error _ => True

namespace EvalM.KeepsLinks

variable {α β : Type} {good : Links → α → Prop} {good' : Links → β → Prop} {links : Links}
  {plain : EvalM α}

/-- Something that is just there keeps the links if it fits them, as `good` says. -/
theorem pure {value : α} (fits : good links value) : KeepsLinks good links (Pure.pure value) :=
  fun _ linked => ⟨links, List.prefix_rfl, linked, fits⟩

/-- Steps in turn keep links; there may be more of them when the second one is taken. -/
theorem bind {next : α → EvalM β} (first : KeepsLinks good links plain)
    (second : ∀ more value, links <+: more → good more value → KeepsLinks good' more (next value)) :
    KeepsLinks good' links (plain >>= next) := by
  intro heap linked
  obtain ⟨more, added, after, fits⟩ := first heap linked
  obtain ⟨all, further, last, result⟩ := second more _ added fits _ after
  exact ⟨all, added.trans further, last, result⟩

/-- The value of a name, as `EvalM.lookup` finds it, is linked, as all that is bound is. -/
theorem lookup (env : Env) (name : String) :
    KeepsLinks Value.Linked links (EvalM.lookup env name) := by
  intro heap linked
  rw [lookup_run]
  refine ⟨links, List.prefix_rfl, linked, ?_⟩
  cases found : heap.get? env name with
  | none => trivial
  | some value => exact linked.all.get? found

/-- In `EvalM.proceed` an error is passed on, and any other value goes to the next step with its
links. -/
theorem proceed {first : EvalM Value} {next : Value → EvalM Value}
    (kept : KeepsLinks Value.Linked links first)
    (second : ∀ more (value : Value), links <+: more → value.Linked more →
      KeepsLinks Value.Linked more (next value)) :
    KeepsLinks Value.Linked links (first.proceed next) := by
  refine kept.bind fun more value added linked => ?_
  cases value with
  | error cause => exact pure trivial
  | _ => exact second more _ added linked

/-- A linked value may be bound by `EvalM.bindName`, in whatever environment. -/
theorem bindName (env : Env) (name : String) {value : Value} (fits : value.Linked links) :
    KeepsLinks (fun _ _ => True) links (EvalM.bindName env name value) :=
  fun _ linked => ⟨links, List.prefix_rfl, linked.set env name fits, trivial⟩

/-- Linked values may be bound, pair by pair, as `EvalM.bindNames` does at a call. -/
theorem bindNames (env : Env) (names : List String) {values : List Value}
    (fits : ∀ value ∈ values, value.Linked links) :
    KeepsLinks (fun _ _ => True) links (EvalM.bindNames env names values) := by
  induction names generalizing links values with
  | nil => exact pure trivial
  | cons name names ih =>
    cases values with
    | nil => exact pure trivial
    | cons value values =>
      rw [List.forall_mem_cons] at fits
      exact (bindName env name fits.1).bind fun more _ added _ =>
        ih fun value mem => (fits.2 value mem).mono added

/-- A scope is added by `EvalM.newScope` to those around a linked environment, and with it a link to
the own one. -/
theorem newScope {env : Env} (known : env.Linked links) :
    KeepsLinks (fun more inner => inner.Linked more) links (EvalM.newScope env.chain) :=
  fun _ linked => ⟨links ++ [some env.own], List.prefix_append .., linked.newScope env,
    linked.linked_newScope known⟩

end EvalM.KeepsLinks

section Trees

open EvalM

variable {config : Config} {call : Caller}

/-- Calls keep all links, for linked callees and `LinkedArguments`. -/
abbrev KeepsLinksCalls (call : Caller) : Prop :=
  ∀ (links : Links) (function : Value) (arguments : List Value), function.Linked links →
    (∀ argument ∈ arguments, argument.Linked links) →
    KeepsLinks Value.Linked links (call function arguments)

mutual

/-- An expression keeps all links if calls do, by recursion on `Expr.eval`; a function captures the
environment it stands in, which is linked. -/
theorem Expr.keepsLinks (calls : KeepsLinksCalls call) {links : Links} {env : Env}
    (known : env.Linked links) :
    (tree : Expr) → KeepsLinks Value.Linked links (tree.eval config call env)
  | .int _ _ | .bool _ => .pure trivial
  | .fn _ _ => .pure known
  | .ident name => .lookup env name
  | .unary op operand => (operand.keepsLinks calls known).proceed fun _ value _ _ =>
      .pure (.of_isGround (op.apply_isGround config value))
  | .binary op left right =>
    (left.keepsLinks calls known).proceed fun _ leftValue added _ =>
      (right.keepsLinks calls (known.mono added)).proceed fun _ rightValue _ _ =>
        .pure (.of_isGround (op.apply_isGround config leftValue rightValue))
  | .cond condition consequence none => by
    refine (condition.keepsLinks calls known).proceed fun more value added _ => ?_
    split
    · exact Stmt.keepsLinksList calls (known.mono added) .null consequence
    · exact .pure trivial
  | .cond condition consequence (some alternative) => by
    refine (condition.keepsLinks calls known).proceed fun more value added _ => ?_
    split
    · exact Stmt.keepsLinksList calls (known.mono added) .null consequence
    · exact Stmt.keepsLinksList calls (known.mono added) .null alternative
  | .call callee arguments => by
    refine (callee.keepsLinks calls known).proceed fun more function added linked => ?_
    refine (Expr.keepsLinksList calls (known.mono added) arguments).bind
      fun all values further fits => ?_
    cases values with
    | error cause => exact .pure trivial
    | ok values => exact calls all function values (linked.mono further) fits

/-- Expressions in turn keep all links and come to `LinkedArguments`. -/
theorem Expr.keepsLinksList (calls : KeepsLinksCalls call) {links : Links} {env : Env}
    (known : env.Linked links) :
    (trees : List Expr) → KeepsLinks LinkedArguments links (Expr.evalList config call env trees)
  | [] => .pure nofun
  | first :: rest => by
    refine (first.keepsLinks calls known).bind fun more value added linked => ?_
    have others : KeepsLinks LinkedArguments more (do
        match ← Expr.evalList config call env rest with
        | .error cause => return .error cause
        | .ok values => return .ok (value :: values)) := by
      refine (Expr.keepsLinksList calls (known.mono added) rest).bind
        fun all values further fits => ?_
      cases values with
      | error cause => exact .pure trivial
      | ok values => exact .pure (List.forall_mem_cons.2 ⟨linked.mono further, fits⟩)
    cases value with
    | error cause => exact .pure trivial
    | _ => exact others

/-- A statement keeps all links, and binds linked values alone: the cases of `Stmt.eval`. -/
theorem Stmt.keepsLinks (calls : KeepsLinksCalls call) {links : Links} {env : Env}
    (known : env.Linked links) :
    (tree : Stmt) → KeepsLinks Value.Linked links (tree.eval config call env)
  | .letStmt name value => (value.keepsLinks calls known).proceed fun _ _ _ linked =>
      (KeepsLinks.bindName env name linked).bind fun _ _ _ _ => .pure trivial
  | .returnStmt none => .pure trivial
  | .returnStmt (some value) =>
    (value.keepsLinks calls known).proceed fun _ _ _ linked => .pure linked
  | .exprStmt value => value.keepsLinks calls known

/-- Statements in turn keep all links in `Stmt.evalList`, from a linked last value. -/
theorem Stmt.keepsLinksList (calls : KeepsLinksCalls call) {links : Links} {env : Env}
    (known : env.Linked links) {last : Value} (linked : last.Linked links) : (trees : List Stmt) →
    KeepsLinks Value.Linked links (Stmt.evalList config call env last trees)
  | [] => .pure linked
  | first :: rest => by
    refine (first.keepsLinks calls known).bind fun more value added fits => ?_
    split
    · exact .pure fits
    · exact Stmt.keepsLinksList calls (known.mono added) fits rest

end

/-- The statements of a program keep all links in `Program.evalFrom`, from a linked last value. -/
theorem Program.keepsLinksFrom (calls : KeepsLinksCalls call) {links : Links} {env : Env}
    (known : env.Linked links) (trees : List Stmt) {last : Value} (linked : last.Linked links) :
    KeepsLinks Value.Linked links (Program.evalFrom config call env last trees) := by
  induction trees generalizing links last with
  | nil => exact .pure linked
  | cons first rest ih =>
    refine (first.keepsLinks calls known).bind fun more value added fits => ?_
    cases value with
    | returned value => exact .pure fits
    | error cause => exact .pure trivial
    | _ => exact ih (known.mono added) fits

/-- A node keeps all links: the four cases of `Node.eval`. -/
theorem Node.keepsLinks (calls : KeepsLinksCalls call) {links : Links} {env : Env}
    (known : env.Linked links) (node : Node) :
    KeepsLinks Value.Linked links (node.eval config call env) := by
  cases node with
  | program tree => exact Program.keepsLinksFrom calls known tree.statements .null
  | block tree =>
    exact (Stmt.keepsLinksList calls known .null tree).bind fun _ _ _ linked => .pure linked.unwrap
  | statement tree =>
    exact (tree.keepsLinks calls known).bind fun _ _ _ linked => .pure linked.unwrap
  | expression tree => exact tree.keepsLinks calls known

end Trees

namespace Value

open EvalM

/-- Calls keep all links by `callWith` if the bodies of functions do, each in a new scope inside
those the function captures. -/
theorem callWith_keepsLinks {config : Config} {run : Option (Env → Block → EvalM Value)}
    (bodies : ∀ run', run' ∈ run → ∀ links env body, env.Linked links →
      KeepsLinks Linked links (run' env body)) :
    KeepsLinksCalls (callWith config run) := by
  intro links function arguments linked fits
  cases function with
  | function parameters body env =>
    change KeepsLinks Linked links (if parameters.length ≠ arguments.length then _ else _)
    by_cases wrong : parameters.length ≠ arguments.length
    · rw [if_pos wrong]
      exact .pure trivial
    · rw [if_neg wrong]
      cases run with
      | none => exact .pure trivial
      | some run =>
        refine (KeepsLinks.newScope linked).bind fun more inner added known => ?_
        refine (KeepsLinks.bindNames inner parameters fun value mem =>
          (fits value mem).mono added).bind fun all _ further _ => ?_
        exact (bodies run rfl all inner body (known.mono further)).bind
          fun _ _ _ linked => .pure linked.unwrap
  | _ => exact .pure trivial

/-- Calls keep all links, however many are left: by induction on that number. -/
theorem call_keepsLinks (config : Config) (left : Nat) : KeepsLinksCalls (call config left) := by
  induction left with
  | zero => exact callWith_keepsLinks nofun
  | succ left ih =>
    refine callWith_keepsLinks fun run only links env body known => ?_
    cases only
    exact Stmt.keepsLinksList ih known .null body

end Value

end Monkey
