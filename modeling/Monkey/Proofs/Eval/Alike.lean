import Monkey.Proofs.Eval.Renaming

/-! # Evaluations in paired scopes

One tree is evaluated twice, in environments that are the same up to a `Renaming` that carries the
bindings of the one over to the other. Both evaluations add scopes at the same time, so the
renaming grows with them, and at each time both have come to the same up to it: they are
`EvalM.Alike`. One lemma for each construct of the language leads to `Node.alike` and
`Value.call_alike`. -/

namespace Monkey

/-- **Two evaluations that are alike**: from bindings that a renaming carries over they come to
bindings that a grown renaming carries over, and what they come to is `related` under it. -/
def EvalM.Alike {α : Type} (related : Renaming → α → α → Prop) (ρ : Renaming)
    (plain plain' : EvalM α) : Prop :=
  ∀ heap heap' : Heap, ρ.Carries heap heap' → ∃ more : Renaming,
    ρ.Grows more heap heap' (plain.run heap).2 (plain'.run heap').2 ∧
    more.Carries (plain.run heap).2 (plain'.run heap').2 ∧
    related more (plain.run heap).1 (plain'.run heap').1

/-- Arguments that are the same up to a renaming, or one error in their place, as `Expr.evalList`
gives them. -/
def SameArguments (ρ : Renaming) :
    Except RuntimeError (List Value) → Except RuntimeError (List Value) → Prop
  | .ok values, .ok values' => List.Forall₂ (Value.Same ρ) values values'
  | .error cause, .error cause' => cause = cause'
  | _, _ => False

namespace EvalM.Alike

variable {α β : Type} {related : Renaming → α → α → Prop} {related' : Renaming → β → β → Prop}
  {ρ : Renaming} {plain plain' : EvalM α} {env env' : Env}

/-- Two values that are just there are alike if they are `related` under the renaming as it is. -/
theorem pure {value value' : α} (fits : related ρ value value') :
    Alike related ρ (Pure.pure value) (Pure.pure value') :=
  fun heap heap' carries => ⟨ρ, .refl ρ heap heap', carries, fits⟩

/-- Steps in turn are alike; the renaming may have grown from `ρ` to `more` when the second one is
taken. -/
theorem bind {next next' : α → EvalM β} (first : Alike related ρ plain plain')
    (second : ∀ more value value', ρ ≤ more → related more value value' →
      Alike related' more (next value) (next' value')) :
    Alike related' ρ (plain >>= next) (plain' >>= next') := by
  intro heap heap' carries
  obtain ⟨more, grows, after, fits⟩ := first heap heap' carries
  obtain ⟨all, further, last, result⟩ := second more _ _ grows.le fits _ _ after
  exact ⟨all, grows.trans further, last, result⟩

/-- The value of a name: `Heap.get?` finds the same in environments that are the same, or nothing in
both. -/
theorem lookup (envs : env.Same ρ env') (name : String) :
    Alike Value.Same ρ (EvalM.lookup env name) (EvalM.lookup env' name) := by
  intro heap heap' carries
  rw [lookup_run, lookup_run]
  refine ⟨ρ, .refl ρ heap heap', carries, ?_⟩
  have found := carries.get? envs name
  generalize heap.get? env name = value, heap'.get? env' name = value' at found ⊢
  cases found with
  | some same => exact same
  | none => exact .error _

/-- In `EvalM.proceed` an error is passed on in both evaluations, and any other value goes to the
next step of both. -/
theorem proceed {first first' : EvalM Value} {next next' : Value → EvalM Value}
    (alike : Alike Value.Same ρ first first')
    (second : ∀ more (value value' : Value), ρ ≤ more → value.Same more value' →
      Alike Value.Same more (next value) (next' value')) :
    Alike Value.Same ρ (first.proceed next) (first'.proceed next') := by
  refine alike.bind fun more value value' le same => ?_
  have step := second more value value' le same
  cases same with
  | error cause => exact pure (.error cause)
  | _ => exact step

/-- Values that are the same are bound in own scopes that are, and the renaming stays as it is. -/
theorem bindName (envs : env.Same ρ env') (name : String) {value value' : Value}
    (fits : value.Same ρ value') :
    Alike (fun _ _ _ => True) ρ (EvalM.bindName env name value)
      (EvalM.bindName env' name value') :=
  fun heap heap' carries => ⟨ρ, .set ρ heap heap' name value value',
    carries.set (List.forall₂_cons.1 envs).1 name fits, trivial⟩

/-- Values that are the same are bound, pair by pair, as long as there are names on both sides. -/
theorem bindNames (envs : env.Same ρ env') (names : List String) {values values' : List Value}
    (fits : List.Forall₂ (Value.Same ρ) values values') :
    Alike (fun _ _ _ => True) ρ (EvalM.bindNames env names values)
      (EvalM.bindNames env' names values') := by
  induction names generalizing ρ values values' with
  | nil => exact pure trivial
  | cons name names ih =>
    cases fits with
    | nil => exact pure trivial
    | cons same rest =>
      refine (bindName envs name same).bind fun more _ _ le _ => ih (envs.imp le) ?_
      exact rest.imp fun _ _ same => same.mono le

/-- A scope is added on both sides, and the renaming grows by the pair of them. -/
theorem newScope {outer outer' : List ScopeId} (chains : List.Forall₂ ρ.rel outer outer') :
    Alike (fun more inner inner' => inner.Same more inner') ρ (EvalM.newScope outer)
      (EvalM.newScope outer') :=
  fun _ _ carries => ⟨carries.next, .newScope carries outer outer', carries.newScope outer outer',
    .cons (.inr ⟨rfl, rfl⟩) (chains.imp fun _ _ => .inl)⟩

end EvalM.Alike

section Trees

open EvalM

variable {config : Config} {call : Caller}

/-- Calls come to the same up to a renaming, for callees and arguments that are the same up to it.
-/
abbrev AlikeCalls (call : Caller) : Prop :=
  ∀ (ρ : Renaming) (function function' : Value) (arguments arguments' : List Value),
    function.Same ρ function' → List.Forall₂ (Value.Same ρ) arguments arguments' →
    Alike Value.Same ρ (call function arguments) (call function' arguments')

mutual

/-- An expression comes to the same up to a renaming in environments that are, if calls do. On one
tree both evaluations take the same branches, as truth and errors do not depend on scopes. -/
theorem Expr.alike (calls : AlikeCalls call) {ρ : Renaming} {env env' : Env}
    (envs : env.Same ρ env') : (tree : Expr) →
    Alike Value.Same ρ (tree.eval config call env) (tree.eval config call env')
  | .int _ _ => .pure (.integer _)
  | .bool _ => .pure (.boolean _)
  | .fn _ _ => .pure (.function envs)
  | .ident name => .lookup envs name
  | .unary op operand => by
    refine (operand.alike calls envs).proceed fun more value value' _ same => ?_
    rw [op.apply_eq config same]
    exact .pure (.of_isGround (op.apply_isGround config value'))
  | .binary op left right => by
    refine (left.alike calls envs).proceed fun more value value' le same => ?_
    refine (right.alike calls (envs.imp le)).proceed fun all other other' le' same' => ?_
    rw [op.apply_eq config (same.mono le') same']
    exact .pure (.of_isGround (op.apply_isGround config value' other'))
  | .cond condition consequence none => by
    refine (condition.alike calls envs).proceed fun more value value' le same => ?_
    rw [same.isTruthy_eq]
    split
    · exact Stmt.alikeList calls (envs.imp le) .null consequence
    · exact .pure .null
  | .cond condition consequence (some alternative) => by
    refine (condition.alike calls envs).proceed fun more value value' le same => ?_
    rw [same.isTruthy_eq]
    split
    · exact Stmt.alikeList calls (envs.imp le) .null consequence
    · exact Stmt.alikeList calls (envs.imp le) .null alternative
  | .call callee arguments => by
    refine (callee.alike calls envs).proceed fun more function function' le same => ?_
    refine (Expr.alikeList calls (envs.imp le) arguments).bind fun all values values' le' fits => ?_
    match values, values', fits with
    | .error cause, .error _, rfl => exact .pure (.error cause)
    | .ok values, .ok values', fits =>
      exact calls all function function' values values' (same.mono le') fits

/-- Expressions in turn come to the `SameArguments` up to a renaming. -/
theorem Expr.alikeList (calls : AlikeCalls call) {ρ : Renaming} {env env' : Env}
    (envs : env.Same ρ env') : (trees : List Expr) →
    Alike SameArguments ρ (Expr.evalList config call env trees)
      (Expr.evalList config call env' trees)
  | [] => .pure .nil
  | first :: rest => by
    refine (first.alike calls envs).bind fun more value value' le same => ?_
    have others : Alike SameArguments more
        (do match ← Expr.evalList config call env rest with
            | .error cause => return .error cause
            | .ok values => return .ok (value :: values))
        (do match ← Expr.evalList config call env' rest with
            | .error cause => return .error cause
            | .ok values => return .ok (value' :: values)) := by
      refine (Expr.alikeList calls (envs.imp le) rest).bind fun all values values' le' fits => ?_
      match values, values', fits with
      | .error cause, .error _, rfl => exact .pure rfl
      | .ok values, .ok values', fits => exact .pure (.cons (same.mono le') fits)
    cases same with
    | error cause => exact .pure rfl
    | _ => exact others

/-- A statement comes to the same up to a renaming, and binds the same if it is a `let`. -/
theorem Stmt.alike (calls : AlikeCalls call) {ρ : Renaming} {env env' : Env}
    (envs : env.Same ρ env') : (tree : Stmt) →
    Alike Value.Same ρ (tree.eval config call env) (tree.eval config call env')
  | .letStmt name value => (value.alike calls envs).proceed fun _ _ _ le same =>
      (Alike.bindName (envs.imp le) name same).bind fun _ _ _ _ _ => .pure .null
  | .returnStmt none => .pure (.returned .null)
  | .returnStmt (some value) =>
    (value.alike calls envs).proceed fun _ _ _ _ same => .pure (.returned same)
  | .exprStmt value => value.alike calls envs

/-- Statements in turn come to the same up to a renaming, from last values that are the same. -/
theorem Stmt.alikeList (calls : AlikeCalls call) {ρ : Renaming} {env env' : Env}
    (envs : env.Same ρ env') {last last' : Value} (same : last.Same ρ last') :
    (trees : List Stmt) → Alike Value.Same ρ (Stmt.evalList config call env last trees)
      (Stmt.evalList config call env' last' trees)
  | [] => .pure same
  | first :: rest => by
    refine (first.alike calls envs).bind fun more value value' le same => ?_
    rw [same.ends_eq]
    split
    · exact .pure same
    · exact Stmt.alikeList calls (envs.imp le) same rest

end

/-- The statements of a program come to the same up to a renaming, as `Stmt.alikeList` but with
returns taken out. -/
theorem Program.alikeFrom (calls : AlikeCalls call) {ρ : Renaming} {env env' : Env}
    (envs : env.Same ρ env') (trees : List Stmt) {last last' : Value} (same : last.Same ρ last') :
    Alike Value.Same ρ (Program.evalFrom config call env last trees)
      (Program.evalFrom config call env' last' trees) := by
  induction trees generalizing ρ last last' with
  | nil => exact .pure same
  | cons first rest ih =>
    refine (first.alike calls envs).bind fun more value value' le same => ?_
    have others := ih (envs.imp le) same
    cases same with
    | returned same => exact .pure same
    | error cause => exact .pure (.error cause)
    | _ => exact others

/-- A node comes to the same up to a renaming: the four cases of `Node.eval`. -/
theorem Node.alike (calls : AlikeCalls call) {ρ : Renaming} {env env' : Env}
    (envs : env.Same ρ env') (node : Node) :
    Alike Value.Same ρ (node.eval config call env) (node.eval config call env') := by
  cases node with
  | program tree => exact Program.alikeFrom calls envs tree.statements .null
  | block tree =>
    exact (Stmt.alikeList calls envs .null tree).bind fun _ _ _ _ same => .pure same.unwrap
  | statement tree => exact (tree.alike calls envs).bind fun _ _ _ _ same => .pure same.unwrap
  | expression tree => exact tree.alike calls envs

end Trees

namespace Value

open EvalM

/-- Calls come to the same up to a renaming if the bodies of functions do, each in a new scope of
its own. -/
theorem callWith_alike {config : Config} {run : Option (Env → Block → EvalM Value)}
    (bodies : ∀ run', run' ∈ run → ∀ (ρ : Renaming) (env env' : Env) body, env.Same ρ env' →
      Alike Same ρ (run' env body) (run' env' body)) :
    AlikeCalls (callWith config run) := by
  intro ρ function function' arguments arguments' same fits
  cases same with
  | @function parameters body env env' envs =>
    change Alike Same ρ (if parameters.length ≠ arguments.length then _ else _)
      (if parameters.length ≠ arguments'.length then _ else _)
    rw [fits.length_eq]
    by_cases wrong : parameters.length ≠ arguments'.length
    · rw [if_pos wrong, if_pos wrong]
      exact .pure (.error _)
    · rw [if_neg wrong, if_neg wrong]
      cases run with
      | none => exact .pure (.error _)
      | some run =>
        refine (Alike.newScope envs).bind fun more inner inner' le inners => ?_
        refine (Alike.bindNames inners parameters (fits.imp fun _ _ same => same.mono le)).bind
          fun all _ _ le' _ => ?_
        exact (bodies run rfl all inner inner' body (inners.imp le')).bind
          fun _ _ _ _ same => .pure same.unwrap
  | _ => exact .pure (.error _)

/-- Calls come to the same up to a renaming, however many are left: by induction on that number. -/
theorem call_alike (config : Config) (left : Nat) : AlikeCalls (call config left) := by
  induction left with
  | zero => exact callWith_alike nofun
  | succ left ih =>
    refine callWith_alike fun run only ρ env env' body envs => ?_
    cases only
    exact Stmt.alikeList ih envs .null body

end Value

end Monkey
