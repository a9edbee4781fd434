import Monkey.Proofs.Eval.Contents
import Monkey.Proofs.Syntax.ReturnPlace

/-! # Where wrapped values get to

A returned value is wrapped until it has left its function. Where nothing but lists of statements
receives it, the wrapper is taken off in time. A conditional hands a wrapped value on wherever it
stands, though. At some places that does no harm, for the value is only looked at. At others
(`Place.keepsValue`) the value is kept: it is bound, passed or wrapped once more. Trees that are
return-safe for these places keep all values plain (`Value.Plain`):

* `Expr.keeps`, `Stmt.keeps` and `Program.keepsFrom`, by recursion on trees, and `keepsCall` by
  induction on the calls that are left, for evaluations under observation;
* `Expr.eval_keeps`, `Stmt.eval_keeps`, `Program.eval_keeps` and `Value.call_keeps` for those that
  nobody observes. -/

namespace Monkey

/-- Whether the value of an expression at a `Place` is kept there: bound by a `let`, passed as an
argument, or wrapped by a `return`. -/
def Place.keepsValue : Place → Bool
  | letValue | returnValue | argument => true
  | condition | operand | callee => false

/-- A value that is not wrapped: anything but a `returned` one. What a `returned` value would wrap
is not looked at. -/
def Value.IsUnwrapped : Value → Prop
  | .returned _ => False
  | _ => True

section Values

variable (guarded : Place → Prop)

/-- A value that is not wrapped and, if it is a function, has a body that is return-safe in the
sense of `Stmt.ReturnSafeList`. -/
def Value.Plain : Value → Prop
  | .returned _ => False
  | .function _ body _ => Stmt.ReturnSafeList guarded body
  | _ => True

/-- What an evaluation in which a return may be executed (`mayReturn`), or may not, can come to: a
`Plain` value, and in the first case also a wrapped one. -/
structure Value.Held (mayReturn : Bool) (value : Value) : Prop where
  unwrap : value.unwrap.Plain guarded
  plain : mayReturn = false → value.Plain guarded

end Values

namespace Value

variable {guarded : Place → Prop} {value : Value}

/-- Null, which an empty list of statements and a binding come to, is plain. -/
theorem Plain.null : Value.null.Plain guarded := trivial

/-- Plain values are not wrapped; `IsUnwrapped` says less, for it does not look into the bodies of
functions. -/
theorem Plain.isUnwrapped (plain : value.Plain guarded) : value.IsUnwrapped := by
  cases value with
  | returned value => exact plain
  | _ => trivial

/-- A `Plain` value is what any evaluation can come to, whether or not a return may be executed in
it. -/
theorem Plain.held (plain : value.Plain guarded) (mayReturn : Bool) :
    value.Held guarded mayReturn where
  unwrap := by
    cases value with
    | returned value => exact plain.elim
    | _ => exact plain
  plain _ := plain

/-- A wrapped plain value is what an evaluation can come to in which a return may be executed. -/
theorem Plain.wrapped (plain : value.Plain guarded) : (Value.returned value).Held guarded true :=
  ⟨plain, nofun⟩

/-- Ground values, which operators and literals give, are plain: they are neither wrapped nor
functions. -/
theorem IsGround.plain (ground : value.IsGround) : value.Plain guarded := by
  cases value with
  | function parameters body env => exact ground.elim
  | returned value => exact ground
  | _ => trivial

/-- Ground values (`Value.IsGround`) are not wrapped. -/
theorem IsGround.isUnwrapped (ground : value.IsGround) : value.IsUnwrapped := by
  cases value with
  | returned value => exact ground
  | _ => trivial

/-- An evaluation in which no return may be executed may be taken for one in which it may, not the
other way round. -/
theorem Held.mono {mayReturn other : Bool} (held : value.Held guarded mayReturn)
    (less : other = false → mayReturn = false) : value.Held guarded other :=
  ⟨held.unwrap, fun silent => held.plain (less silent)⟩

end Value

/-! ## Evaluations that keep values plain -/

/-- From any trail of `Plain` values an evaluation leads to such a trail again, and what it comes to
is of a certain kind, `good`. -/
def ObserveM.Keeps {α : Type} (guarded : Place → Prop) (good : α → Prop) (observed : ObserveM α) :
    Prop :=
  ∀ trail : Trail, trail.All (Value.Plain guarded) →
    good (observed.run trail).1 ∧ (observed.run trail).2.All (Value.Plain guarded)

/-- An evaluation that keeps all values plain, in which a return may be executed, or may not: what
it comes to is `Held`. -/
abbrev ObserveM.KeepsValue (guarded : Place → Prop) (mayReturn : Bool) (observed : ObserveM Value) :
    Prop :=
  observed.Keeps guarded (Value.Held guarded mayReturn)

/-- An evaluation that nobody observes keeps all bound values `Plain`, from any heap of such values,
and comes to something of a certain kind. -/
def EvalM.Keeps {α : Type} (guarded : Place → Prop) (good : α → Prop) (plain : EvalM α) : Prop :=
  ∀ heap : Heap, heap.All (Value.Plain guarded) →
    good (plain.run heap).1 ∧ (plain.run heap).2.All (Value.Plain guarded)

/-- What `Expr.evalList` comes to where values are kept plain: arguments that are all `Plain`, or an
error in their place. -/
def PlainArguments (guarded : Place → Prop) : Except RuntimeError (List Value) → Prop
  | .ok values => ∀ value ∈ values, value.Plain guarded
  | .error _ => True

namespace ObserveM.Keeps

variable {α β : Type} {guarded : Place → Prop} {good : α → Prop} {good' : β → Prop}
  {observed : ObserveM α} {mayReturn : Bool}

/-- Something that is just there, for which nothing is evaluated and no trail is changed. -/
theorem pure {value : α} (fits : good value) : Keeps guarded good (Pure.pure value) :=
  fun _ plain => ⟨fits, plain⟩

/-- Steps in turn: the second may assume of what the first comes to that it is `good`. -/
theorem bind {next : α → ObserveM β} (first : Keeps guarded good observed)
    (second : ∀ value, good value → Keeps guarded good' (next value)) :
    Keeps guarded good' (observed >>= next) := by
  intro trail plain
  obtain ⟨fits, after⟩ := first trail plain
  exact second _ fits _ after

/-- A change of the trail that keeps it plain, and what comes behind it. This serves bindings,
wrappings and calls. -/
theorem change {step : Trail → Trail}
    (keeps : ∀ trail : Trail, trail.All (Value.Plain guarded) →
      (step trail).All (Value.Plain guarded))
    (rest : Keeps guarded good observed) : Keeps guarded good (do modify step; observed) :=
  fun trail plain => rest (step trail) (keeps trail plain)

/-- A scope is added with `Trail.newScope`, and then comes what goes on in it. A new scope binds
nothing, so nothing has to be known of it. -/
theorem newScope {next : Env → ObserveM α} (outer : List ScopeId)
    (rest : ∀ inner, Keeps guarded good (next inner)) :
    Keeps guarded good (modifyGet (·.newScope outer) >>= next) :=
  fun trail plain => rest (trail.newScope outer).1 _ (plain.newScope outer)

/-- A plain value that is just there, whether or not a return may be executed. -/
theorem plain {value : Value} (plain : value.Plain guarded) :
    KeepsValue guarded mayReturn (Pure.pure value) :=
  pure (plain.held mayReturn)

/-- The value of a name is plain because all bound values are; if the name is not bound, there is an
error, which is plain too. -/
theorem lookup (env : Env) (name : String) :
    KeepsValue guarded mayReturn (ObserveM.lookup env name) := by
  intro trail plain
  refine ⟨Value.Plain.held ?_ mayReturn, plain⟩
  change ((trail.heap.get? env name).getD (.error (.unboundName name))).Plain guarded
  cases found : trail.heap.get? env name with
  | none => trivial
  | some value => exact plain.heap.get? found

/-- An error is passed on, and any other value goes to the next step: the rule for
`ObserveM.proceed`, with which all parts of a tree are put together. -/
theorem proceed {first : ObserveM Value} {next : Value → ObserveM Value} {other : Bool}
    (kept : KeepsValue guarded other first)
    (second : ∀ value : Value, value.Held guarded other →
      KeepsValue guarded mayReturn (next value)) :
    KeepsValue guarded mayReturn (first.proceed next) := by
  refine kept.bind fun value held => ?_
  cases value with
  | error cause => exact plain trivial
  | _ => exact second _ held

/-- A plain value is wrapped; what it comes to is `Held` where a return may be executed. -/
theorem wrap {value : Value} (plain : value.Plain guarded) :
    KeepsValue guarded true (ObserveM.wrap value) :=
  change (fun _ all => all.note plain) (pure plain.wrapped)

/-- What a value wraps is taken out of it, as programs and calls do. Behind that no value is
wrapped, whatever it was before. -/
theorem unwrap {first : ObserveM Value} {other : Bool} (kept : KeepsValue guarded other first) :
    KeepsValue guarded mayReturn (return (← first).unwrap) :=
  kept.bind fun _ held => plain held.unwrap

/-- What is kept under observation is kept without it, by the relation `Shows` between the two
evaluations. -/
theorem eval {plain : EvalM α} (kept : Keeps guarded good observed)
    (shows : Shows observed plain) : EvalM.Keeps guarded good plain := by
  intro heap all
  obtain ⟨fits, after⟩ := kept (.start heap) (.start all)
  have same : plain.run heap = _ := shows (.start heap)
  rw [same]
  exact ⟨fits, after.heap⟩

/-- Less may be said of what an evaluation comes to: that a return may be executed, though it may
not. -/
theorem mono {first : ObserveM Value} {other : Bool} (kept : KeepsValue guarded other first)
    (less : mayReturn = false → other = false) : KeepsValue guarded mayReturn first :=
  fun trail plain => (kept trail plain).imp_left fun held => held.mono less

end ObserveM.Keeps

section Trees

variable {guarded : Place → Prop} {config : Config} {call : Value → List Value → ObserveM Value}
  {env : Env}

open ObserveM Keeps

/-- Calls keep all values plain if they do for `Plain` callees and arguments; the result of a call
is never wrapped. -/
abbrev KeepsCalls (guarded : Place → Prop) (call : Value → List Value → ObserveM Value) : Prop :=
  ∀ (function : Value) (arguments : List Value), function.unwrap.Plain guarded →
    (∀ argument ∈ arguments, argument.Plain guarded) →
    ∀ mayReturn, KeepsValue guarded mayReturn (call function arguments)

mutual

/-- **Expressions keep values plain** where they are return-safe for all places that keep a value. A
wrapped value comes only out of an expression that `isReturning`, that is, a conditional with a
return in it. -/
theorem Expr.keeps (strict : ∀ place : Place, place.keepsValue → guarded place)
    (calls : KeepsCalls guarded call) : (tree : Expr) → tree.ReturnSafe guarded →
    KeepsValue guarded tree.isReturning (tree.observe config call env)
  | .int _ _, _ | .bool _, _ => .plain trivial
  | .fn _ _, safe => .plain safe
  | .ident name, _ => .lookup env name
  | .unary op operand, safe => (operand.keeps strict calls safe.2).proceed fun value _ =>
      .plain (op.apply_isGround config value).plain
  | .binary op left right, safe => (left.keeps strict calls safe.1.2).proceed fun leftValue _ =>
      (right.keeps strict calls safe.2.2).proceed fun rightValue _ =>
        .plain (op.apply_isGround config leftValue rightValue).plain
  | .cond condition consequence none, safe => by
    refine (condition.keeps strict calls safe.1.2).proceed fun value _ => ?_
    split
    · refine (Stmt.keepsList strict calls consequence .null safe.2).mono fun silent => ?_
      simp_all [Expr.isReturning, Expr.returns]
    · exact .plain trivial
  | .cond condition consequence (some alternative), safe => by
    refine (condition.keeps strict calls safe.1.2).proceed fun value _ => ?_
    split
    · refine (Stmt.keepsList strict calls consequence .null safe.2.1).mono fun silent => ?_
      simp_all [Expr.isReturning, Expr.returns]
    · refine (Stmt.keepsList strict calls alternative .null safe.2.2).mono fun silent => ?_
      simp_all [Expr.isReturning, Expr.returns]
  | .call callee arguments, safe => by
    refine (callee.keeps strict calls safe.1.2).proceed fun function held => ?_
    refine (Expr.keepsList strict calls arguments safe.2).bind fun values plain => ?_
    cases values with
    | error cause => exact .plain trivial
    | ok values => exact .change (fun _ all => all.note plain) (calls _ _ held.unwrap plain _)

/-- Arguments are not wrapped: `argument` is a place that keeps a value, so no returning conditional
stands there. -/
theorem Expr.keepsList (strict : ∀ place : Place, place.keepsValue → guarded place)
    (calls : KeepsCalls guarded call) : (trees : List Expr) → Expr.ReturnSafeList guarded trees →
    Keeps guarded (PlainArguments guarded) (Expr.observeList config call env trees)
  | [], _ => .pure nofun
  | first :: rest, safe => by
    refine (first.keeps strict calls safe.1.2).bind fun value held => ?_
    have others : Keeps guarded (PlainArguments guarded) (do
        match ← Expr.observeList config call env rest with
        | .error cause => return .error cause
        | .ok values => return .ok (value :: values)) := by
      refine (Expr.keepsList strict calls rest safe.2).bind fun values plain => ?_
      cases values with
      | error cause => exact .pure trivial
      | ok values =>
        have fits : value.Plain guarded := held.plain (safe.1.1 (strict .argument rfl))
        exact .pure (List.forall_mem_cons.2 ⟨fits, plain⟩)
    cases value with
    | error cause => exact .pure trivial
    | _ => exact others

/-- Statements keep values plain, and a wrapped value comes only out of one that `returns`. -/
theorem Stmt.keeps (strict : ∀ place : Place, place.keepsValue → guarded place)
    (calls : KeepsCalls guarded call) : (tree : Stmt) → tree.ReturnSafe guarded →
    KeepsValue guarded tree.returns (tree.observe config call env)
  | .letStmt name value, safe => (value.keeps strict calls safe.2).proceed fun _ held =>
      .change (fun _ all => all.bindName env name (held.plain (safe.1 (strict .letValue rfl))))
        (.plain trivial)
  | .returnStmt none, _ => .wrap trivial
  | .returnStmt (some value), safe => (value.keeps strict calls safe.2).proceed fun _ held =>
      .wrap (held.plain (safe.1 (strict .returnValue rfl)))
  | .exprStmt value, safe => (value.keeps strict calls safe).mono Expr.isReturning_eq_false

/-- Statements in a list keep values plain, by recursion on the list; a wrapped value comes only out
of a list with a statement that `returns`. -/
theorem Stmt.keepsList (strict : ∀ place : Place, place.keepsValue → guarded place)
    (calls : KeepsCalls guarded call) {last : Value} : (trees : List Stmt) → last.Plain guarded →
    Stmt.ReturnSafeList guarded trees →
    KeepsValue guarded (Stmt.returnsList trees) (Stmt.observeList config call env last trees)
  | [], plain, _ => .plain plain
  | first :: rest, _, safe => by
    refine (first.keeps strict calls safe.1).bind fun value held => ?_
    cases value with
    | returned value =>
      refine .pure (held.mono fun silent => ?_)
      simp_all [Stmt.returnsList]
    | error cause => exact .plain trivial
    | _ =>
      refine (Stmt.keepsList strict calls rest held.unwrap safe.2).mono fun silent => ?_
      simp_all [Stmt.returnsList]

end

/-- No wrapped value comes out of a program, since `Program.observeFrom` unwraps the value that ends
it. -/
theorem Program.keepsFrom (strict : ∀ place : Place, place.keepsValue → guarded place)
    (calls : KeepsCalls guarded call) (trees : List Stmt) {last : Value}
    (plain : last.Plain guarded) (safe : Stmt.ReturnSafeList guarded trees) :
    KeepsValue guarded false (Program.observeFrom config call env last trees) := by
  induction trees generalizing last with
  | nil => exact .plain plain
  | cons first rest ih =>
    refine (first.keeps strict calls safe.1).bind fun value held => ?_
    cases value with
    | returned value => exact .plain held.unwrap
    | error cause => exact .plain trivial
    | _ => exact ih held.unwrap safe.2

end Trees

namespace Value

variable {guarded : Place → Prop}

/-- No wrapped value comes out of a call if bodies keep all values plain: `observeWith` unwraps what
the body comes to. -/
theorem keepsWith {config : Config} {run : Option (Env → Block → ObserveM Value)}
    (bodies : ∀ body', body' ∈ run → ∀ env body, Stmt.ReturnSafeList guarded body →
      ObserveM.KeepsValue guarded true (body' env body)) :
    KeepsCalls guarded (observeWith config run) := by
  intro function arguments callee plain mayReturn
  cases function with
  | function parameters body env =>
    change ObserveM.KeepsValue guarded mayReturn
      (if parameters.length ≠ arguments.length then _ else _)
    by_cases wrong : parameters.length ≠ arguments.length
    · rw [if_pos wrong]
      exact .plain trivial
    · rw [if_neg wrong]
      cases run with
      | none => exact .plain trivial
      | some run =>
        exact .newScope env.chain fun inner =>
          .change (fun _ all => all.bindNames inner parameters plain)
            (.unwrap (bodies run rfl inner body callee))
  | _ => exact .plain trivial

/-- **Calls keep values plain**, by induction on the number of calls that are left: bodies are run
with one call less. -/
theorem keepsCall (strict : ∀ place : Place, place.keepsValue → guarded place) (config : Config)
    (left : Nat) : KeepsCalls guarded (observeCall config left) := by
  induction left with
  | zero => exact keepsWith nofun
  | succ left ih =>
    refine keepsWith fun run only env body safe => ?_
    cases only
    exact (Stmt.keepsList strict ih body .null safe).mono nofun

end Value

/-! ## Evaluations that nobody observes

The same for `Expr.eval`, `Stmt.eval`, `Program.eval` and `Value.call`, through `Keeps.eval`. -/

section Unobserved

variable {guarded : Place → Prop} (strict : ∀ place : Place, place.keepsValue → guarded place)
  (config : Config) (left : Nat) (env : Env)

include strict

/-- Return-safe expressions keep bound values plain when they are evaluated by `Expr.eval`. -/
theorem Expr.eval_keeps {tree : Expr} (safe : tree.ReturnSafe guarded) :
    EvalM.Keeps guarded (Value.Held guarded tree.isReturning)
      (tree.eval config (Value.call config left) env) :=
  (tree.keeps strict (Value.keepsCall strict config left) safe).eval
    (tree.observe_shows (Value.observeCall_shows config left))

/-- Return-safe arguments keep bound values plain when they are evaluated by `Expr.evalList`. -/
theorem Expr.evalList_keeps {trees : List Expr} (safe : Expr.ReturnSafeList guarded trees) :
    EvalM.Keeps guarded (PlainArguments guarded)
      (Expr.evalList config (Value.call config left) env trees) :=
  (Expr.keepsList strict (Value.keepsCall strict config left) trees safe).eval
    (Expr.observeList_shows (Value.observeCall_shows config left) trees)

/-- Return-safe statements keep bound values plain when they are evaluated by `Stmt.eval`. -/
theorem Stmt.eval_keeps {tree : Stmt} (safe : tree.ReturnSafe guarded) :
    EvalM.Keeps guarded (Value.Held guarded tree.returns)
      (tree.eval config (Value.call config left) env) :=
  (tree.keeps strict (Value.keepsCall strict config left) safe).eval
    (tree.observe_shows (Value.observeCall_shows config left))

/-- Return-safe programs keep bound values plain when `Program.eval` evaluates them, and no wrapped
value comes out. -/
theorem Program.eval_keeps {program : Program} (safe : program.ReturnSafe guarded) :
    EvalM.Keeps guarded (Value.Held guarded false)
      (program.eval config (Value.call config left) env) :=
  (Program.keepsFrom strict (Value.keepsCall strict config left) _ .null safe).eval
    (Program.observeFrom_shows (Value.observeCall_shows config left) _ .null)

/-- Calls of `Plain` functions keep bound values plain, and no wrapped value comes out of
`Value.call`. -/
theorem Value.call_keeps {function : Value} {arguments : List Value}
    (callee : function.unwrap.Plain guarded)
    (plain : ∀ argument ∈ arguments, argument.Plain guarded) :
    EvalM.Keeps guarded (Value.Held guarded false) (Value.call config left function arguments) :=
  (Value.keepsCall strict config left function arguments callee plain false).eval
    (Value.observeCall_shows config left function arguments)

end Unobserved

end Monkey
