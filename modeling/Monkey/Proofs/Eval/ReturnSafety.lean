import Monkey.Proofs.Eval.AbruptReturn
import Monkey.Proofs.Eval.Wrapping

/-! # Returns are abrupt

A return hands its value up wrapped, and every list of statements around it stops. For trees that
are return-safe everywhere that comes to the same as throwing the value: it ends the innermost
function or the program at once, with the same value and the same bindings.

* `ReturnM.Follows` — an evaluation that may return, against one that throws what is returned.
* `ReturnM.Completes` — the same where nothing is thrown any more.
* `Expr.follows`, `Stmt.follows`, `Value.completesCall` — each construct of the language.
* `Program.eval_eq_complete` — programs, from plain bindings. -/

namespace Monkey

/-- Every `Place` is guarded: nothing that may return stands where its value is kept. -/
def everywhere : Place → Prop := fun _ => True

namespace ReturnM

/-- How an evaluation with abrupt returns ends, and how one that wraps returned values ends in the
same way. -/
inductive Ends : EStateM.Result Value Heap Value → Value × Heap → Prop where
  /-- Both come to the same value, which is not wrapped. -/
  | value {value : Value} {heap : Heap} : value.IsUnwrapped → Ends (.ok value heap) (value, heap)
  /-- The value that is thrown is the value that is wrapped. -/
  | thrown {value : Value} {heap : Heap} : Ends (.error value heap) (.returned value, heap)

/-- **An evaluation follows one with abrupt returns**: it ends in the same way (`Ends`), from all
plain bindings. -/
def Follows (abrupt : ReturnM Value) (plain : EvalM Value) : Prop :=
  ∀ heap : Heap, heap.All (Value.Plain everywhere) → Ends (abrupt.run heap) (plain.run heap)

/-- **An evaluation completes** where one with abrupt returns does: nothing is thrown, and both come
to the same, from all plain bindings. -/
def Completes {α : Type} (abrupt : ReturnM α) (plain : EvalM α) : Prop :=
  ∀ heap : Heap, heap.All (Value.Plain everywhere) →
    abrupt.run heap = .ok (plain.run heap).1 (plain.run heap).2

variable {α β : Type} {abrupt : ReturnM α} {plain : EvalM α}

/-- Steps in turn in `ReturnM`: the second one comes only behind a value of the first one, and what
is thrown goes past it. -/
theorem bind_run (abrupt : ReturnM α) (next : α → ReturnM β) (heap : Heap) :
    (abrupt >>= next).run heap =
      match abrupt.run heap with
      | .ok value after => (next value).run after
      | .error value after => .error value after := by
  change EStateM.bind abrupt next heap = _
  unfold EStateM.bind EStateM.run
  cases abrupt heap <;> rfl

/-- At its end, by `conclude`, a function or program has the value that its body comes to or throws.
-/
theorem conclude_run (body : ReturnM Value) (heap : Heap) :
    (conclude body).run heap =
      match body.run heap with
      | .ok value after | .error value after => .ok value after := by
  change EStateM.tryCatch body _ heap = _
  delta EStateM.tryCatch EStateM.run
  cases body heap <;> rfl

namespace Completes

/-- Something that is just there is the same in both evaluations, and nothing is thrown. -/
theorem pure (value : α) : Completes (Pure.pure value) (Pure.pure value) := fun _ _ => rfl

/-- Steps in turn complete; what the second one is given is known from what the first one `Keeps`.
-/
theorem bind {good : α → Prop} {next : α → ReturnM β} {next' : α → EvalM β}
    (first : Completes abrupt plain) (kept : plain.Keeps everywhere good)
    (second : ∀ value, good value → Completes (next value) (next' value)) :
    Completes (abrupt >>= next) (plain >>= next') := by
  intro heap all
  obtain ⟨fits, after⟩ := kept heap all
  rw [bind_run, first heap all]
  exact second _ fits _ after

/-- Steps in turn, where only the second one may throw something: `Completes` and then `Follows`. -/
theorem andThen {good : α → Prop} {next : α → ReturnM Value} {next' : α → EvalM Value}
    (first : Completes abrupt plain) (kept : plain.Keeps everywhere good)
    (second : ∀ value, good value → Follows (next value) (next' value)) :
    Follows (abrupt >>= next) (plain >>= next') := by
  intro heap all
  obtain ⟨fits, after⟩ := kept heap all
  rw [bind_run, first heap all]
  exact second _ fits _ after

/-- A scope is added to the bindings of both by `Heap.newScope`, and then comes what goes on in it.
-/
theorem newScope {next : Env → ReturnM α} {next' : Env → EvalM α} (outer : List ScopeId)
    (rest : ∀ inner, Completes (next inner) (next' inner)) :
    Completes (modifyGet (·.newScope outer) >>= next) (EvalM.newScope outer >>= next') :=
  fun heap all => rest (heap.newScope outer).1 _ (all.newScope outer)

/-- Plain values are bound by `bindNames`, which keeps the bindings plain, and then comes something
else. -/
theorem bindNames (env : Env) (names : List String) {values : List Value}
    (fits : ∀ value ∈ values, value.Plain everywhere) (rest : Completes abrupt plain) :
    Completes (do ReturnM.bindNames env names values; abrupt)
      (do EvalM.bindNames env names values; plain) := by
  induction names generalizing values with
  | nil => exact rest
  | cons name names ih =>
    cases values with
    | nil => exact rest
    | cons value values =>
      rw [List.forall_mem_cons] at fits
      exact fun heap all => ih fits.2 (heap.set env name value) (all.set env name fits.1)

variable {abrupt : ReturnM Value} {plain : EvalM Value}

/-- What nothing is thrown out of (`Completes`) ends in the same way, if no wrapped value comes out
of it either. -/
theorem follows (same : Completes abrupt plain)
    (kept : plain.Keeps everywhere (Value.Held everywhere false)) : Follows abrupt plain := by
  intro heap all
  rw [same heap all]
  exact .value ((kept heap all).1.plain rfl).isUnwrapped

end Completes

namespace Follows

variable {abrupt : ReturnM Value} {plain : EvalM Value} {mayReturn : Bool}

/-- A value that is just there and not wrapped (`IsUnwrapped`) is the same in both evaluations. -/
theorem pure {value : Value} (unwrapped : value.IsUnwrapped) :
    Follows (Pure.pure value) (Pure.pure value) := fun _ _ => .value unwrapped

/-- A value is thrown where it is wrapped, as by a `return` statement. -/
theorem throw (value : Value) :
    Follows (MonadExcept.throw value) (Pure.pure (.returned value)) := fun _ _ => .thrown

/-- The value of a name is plain, as the bindings are, so nothing is wrapped there and `lookup`
throws nothing. -/
theorem lookup (env : Env) (name : String) :
    Follows (ReturnM.lookup env name) (EvalM.lookup env name) := by
  intro heap all
  rw [EvalM.lookup_run]
  refine .value ?_
  cases found : heap.get? env name with
  | none => trivial
  | some value => exact (all.get? found).isUnwrapped

/-- Nothing is thrown out of an evaluation that no wrapped value comes out of. -/
theorem completes (same : Follows abrupt plain)
    (kept : plain.Keeps everywhere (Value.Held everywhere false)) : Completes abrupt plain := by
  intro heap all
  have ends := same heap all
  have plainly := (kept heap all).1.plain rfl
  generalize abrupt.run heap = result at ends
  generalize plain.run heap = outcome at ends plainly
  cases ends with
  | value unwrapped => rfl
  | thrown => exact plainly.elim

/-- In `proceed` an error is passed on, and any other value goes to the next step; nothing is thrown
by the first. -/
theorem proceed {next : Value → ReturnM Value} {next' : Value → EvalM Value}
    (same : Follows abrupt plain)
    (kept : plain.Keeps everywhere (Value.Held everywhere false))
    (second : ∀ value : Value, value.Plain everywhere → Follows (next value) (next' value)) :
    Follows (abrupt.proceed next) (plain.proceed next') := by
  refine (same.completes kept).andThen kept fun value held => ?_
  cases value with
  | error cause => exact pure trivial
  | _ => exact second _ (held.plain rfl)

/-- A statement and those behind it: what is thrown by the first ends them all, and so does a
wrapped value, which `Value.ends` stops at. -/
theorem sequence {next : Value → ReturnM Value} {next' : Value → EvalM Value}
    (same : Follows abrupt plain)
    (kept : plain.Keeps everywhere (Value.Held everywhere mayReturn))
    (second : ∀ value : Value, value.Plain everywhere → Follows (next value) (next' value)) :
    Follows (abrupt.proceed next)
      (do let value ← plain; if value.ends then return value else next' value) := by
  intro heap all
  have ends := same heap all
  obtain ⟨held, after⟩ := kept heap all
  rw [ReturnM.proceed, bind_run]
  change Ends _ ((if (plain.run heap).1.ends then Pure.pure (plain.run heap).1
    else next' (plain.run heap).1 : EvalM Value).run (plain.run heap).2)
  generalize abrupt.run heap = result at ends
  generalize plain.run heap = outcome at ends held after
  cases ends with
  | thrown => exact .thrown
  | @value value heap unwrapped =>
    cases value with
    | returned value => exact unwrapped.elim
    | error cause => exact .value trivial
    | _ => exact second _ held.unwrap heap after

/-- A function ends with what its body throws or comes to: `conclude` here, and `Value.unwrap`
there. -/
theorem conclude (same : Follows abrupt plain) :
    Completes (ReturnM.conclude abrupt) (return (← plain).unwrap) := by
  intro heap all
  have ends := same heap all
  rw [conclude_run]
  change _ = EStateM.Result.ok (plain.run heap).1.unwrap (plain.run heap).2
  generalize abrupt.run heap = result at ends
  generalize plain.run heap = outcome at ends
  cases ends with
  | thrown => rfl
  | @value value heap unwrapped =>
    cases value with
    | returned value => exact unwrapped.elim
    | _ => rfl

end Follows

end ReturnM

open ReturnM

/-- Values are kept plain where trees are return-safe `everywhere`, for every place is guarded then.
-/
theorem everywhere_strict (place : Place) (_ : place.keepsValue = true) :
    everywhere place := trivial

section Trees

variable {config : Config} {left : Nat} {env : Env}

/-- Calls come to the same if they do for plain callees and arguments, with so many calls left. -/
abbrev CompletesCalls (config : Config) (left : Nat) : Prop :=
  ∀ (function : Value) (arguments : List Value), function.Plain everywhere →
    (∀ argument ∈ arguments, argument.Plain everywhere) →
    Completes (Value.completeCall config left function arguments)
      (Value.call config left function arguments)

/-- An expression at some `Place` is evaluated first; as the place is guarded, nothing is thrown out
of it. -/
theorem ReturnM.Follows.follows_proceed {tree : Expr}
    (same : Follows (tree.complete config (Value.completeCall config left) env)
      (tree.eval config (Value.call config left) env))
    {place : Place} (safe : place.Admits everywhere tree ∧ tree.ReturnSafe everywhere)
    {next : Value → ReturnM Value} {next' : Value → EvalM Value}
    (second : ∀ value : Value, value.Plain everywhere → Follows (next value) (next' value)) :
    Follows ((tree.complete config (Value.completeCall config left) env).proceed next)
      ((tree.eval config (Value.call config left) env).proceed next') := by
  have kept := tree.eval_keeps everywhere_strict config left env safe.2
  rw [safe.1 trivial] at kept
  exact same.proceed kept second

mutual

/-- An expression ends in the same way: `Expr.complete` against `Expr.eval`, if it is return-safe
everywhere. -/
theorem Expr.follows (calls : CompletesCalls config left) :
    (tree : Expr) → tree.ReturnSafe everywhere →
    Follows (tree.complete config (Value.completeCall config left) env)
      (tree.eval config (Value.call config left) env)
  | .int _ _, _ | .bool _, _ | .fn _ _, _ => .pure trivial
  | .ident name, _ => .lookup env name
  | .unary op operand, safe => (operand.follows calls safe.2).follows_proceed safe fun value _ =>
      .pure (op.apply_isGround config value).isUnwrapped
  | .binary op left right, safe =>
    (left.follows calls safe.1.2).follows_proceed safe.1 fun leftValue _ =>
      (right.follows calls safe.2.2).follows_proceed safe.2 fun rightValue _ =>
        .pure (op.apply_isGround config leftValue rightValue).isUnwrapped
  | .cond condition consequence none, safe => by
    refine (condition.follows calls safe.1.2).follows_proceed safe.1 fun value _ => ?_
    split
    · exact Stmt.followsList calls consequence .null safe.2
    · exact .pure trivial
  | .cond condition consequence (some alternative), safe => by
    refine (condition.follows calls safe.1.2).follows_proceed safe.1 fun value _ => ?_
    split
    · exact Stmt.followsList calls consequence .null safe.2.1
    · exact Stmt.followsList calls alternative .null safe.2.2
  | .call callee arguments, safe => by
    refine (callee.follows calls safe.1.2).follows_proceed safe.1 fun function plain => ?_
    refine (Expr.completesList calls arguments safe.2).andThen
      (Expr.evalList_keeps everywhere_strict config left env safe.2) fun values fits => ?_
    cases values with
    | error cause => exact .pure trivial
    | ok values =>
      exact (calls function values plain fits).follows
        (Value.call_keeps everywhere_strict config left (plain.held true).unwrap fits)

/-- Nothing is thrown out of arguments, since the place of an argument is guarded. -/
theorem Expr.completesList (calls : CompletesCalls config left) :
    (trees : List Expr) → Expr.ReturnSafeList everywhere trees →
    Completes (Expr.completeList config (Value.completeCall config left) env trees)
      (Expr.evalList config (Value.call config left) env trees)
  | [], _ => .pure _
  | first :: rest, safe => by
    have kept := first.eval_keeps everywhere_strict config left env safe.1.2
    rw [safe.1.1 trivial] at kept
    refine ((first.follows calls safe.1.2).completes kept).bind kept fun value _ => ?_
    cases value with
    | error cause => exact .pure _
    | _ =>
      refine (Expr.completesList calls rest safe.2).bind
        (Expr.evalList_keeps everywhere_strict config left env safe.2) fun values _ => ?_
      cases values <;> exact .pure _

/-- A statement ends in the same way: `Stmt.complete` against `Stmt.eval`. Only a `return` throws by
itself. -/
theorem Stmt.follows (calls : CompletesCalls config left) :
    (tree : Stmt) → tree.ReturnSafe everywhere →
    Follows (tree.complete config (Value.completeCall config left) env)
      (tree.eval config (Value.call config left) env)
  | .letStmt _ value, safe => (value.follows calls safe.2).follows_proceed safe fun _ _ =>
      fun _ _ => .value trivial
  | .returnStmt none, _ => .throw .null
  | .returnStmt (some value), safe =>
    (value.follows calls safe.2).follows_proceed safe fun value _ => .throw value
  | .exprStmt value, safe => value.follows calls safe

/-- Statements in turn end in the same way, `Stmt.completeList` against `Stmt.evalList`, from a last
value that is plain. -/
theorem Stmt.followsList (calls : CompletesCalls config left) {last : Value} :
    (trees : List Stmt) → last.Plain everywhere → Stmt.ReturnSafeList everywhere trees →
    Follows (Stmt.completeList config (Value.completeCall config left) env last trees)
      (Stmt.evalList config (Value.call config left) env last trees)
  | [], plain, _ => .pure plain.isUnwrapped
  | first :: rest, _, safe =>
    (first.follows calls safe.1).sequence
      (first.eval_keeps everywhere_strict config left env safe.1) fun _ plain =>
        Stmt.followsList calls rest plain safe.2

end

/-- A program ends with the value that is thrown out of its statements or that they come to, which
`conclude` gives it. -/
theorem Program.completesFrom (calls : CompletesCalls config left) (trees : List Stmt)
    {last : Value} (plain : last.Plain everywhere) (safe : Stmt.ReturnSafeList everywhere trees) :
    Completes
      (conclude (Stmt.completeList config (Value.completeCall config left) env last trees))
      (Program.evalFrom config (Value.call config left) env last trees) := by
  induction trees generalizing last with
  | nil =>
    intro heap all
    rw [conclude_run]
    rfl
  | cons first rest ih =>
    intro heap all
    have follows : Follows (first.complete config (Value.completeCall config left) env)
        (first.eval config (Value.call config left) env) := first.follows calls safe.1
    have ends := follows heap all
    obtain ⟨held, after⟩ := first.eval_keeps everywhere_strict config left env safe.1 heap all
    rw [conclude_run, Stmt.completeList, ReturnM.proceed, bind_run, Program.evalFrom_run]
    generalize (first.complete config _ env).run heap = result at ends
    generalize (first.eval config _ env).run heap = outcome at ends held after
    -- A value that is thrown ends both runs; any other but an error goes on to the rest.
    cases ends with
    | thrown => rfl
    | @value value heap unwrapped =>
      cases value with
      | returned value => exact unwrapped.elim
      | error cause => rfl
      | _ => exact (conclude_run _ heap).symm.trans (ih held.unwrap safe.2 heap after)

end Trees

namespace Value

/-- Calls come to the same if the bodies of functions end in the same way, as `conclude` ends them
here. -/
theorem completesWith {config : Config} {run : Option (Env → Block → ReturnM Value)}
    {run' : Option (Env → Block → EvalM Value)}
    (bodies : Option.Rel (fun run run' => ∀ env body, Stmt.ReturnSafeList everywhere body →
      Follows (run env body) (run' env body)) run run')
    (function : Value) (arguments : List Value) (callee : function.Plain everywhere)
    (plain : ∀ argument ∈ arguments, argument.Plain everywhere) :
    Completes (completeWith config run function arguments)
      (callWith config run' function arguments) := by
  cases function with
  | function parameters body env =>
    change Completes (if parameters.length ≠ arguments.length then _ else _)
      (if parameters.length ≠ arguments.length then _ else _)
    by_cases wrong : parameters.length ≠ arguments.length
    · rw [if_pos wrong, if_pos wrong]
      exact .pure _
    · rw [if_neg wrong, if_neg wrong]
      cases bodies with
      | none => exact .pure _
      | some bodies =>
        exact .newScope env.chain fun inner =>
          .bindNames inner parameters plain (bodies inner body callee).conclude
  | _ => exact .pure _

/-- Calls come to the same, however many of them are left: by induction on that number. -/
theorem completesCall (config : Config) (left : Nat) : CompletesCalls config left := by
  induction left with
  | zero => exact completesWith .none
  | succ left ih =>
    exact completesWith (.some fun _ body safe => Stmt.followsList ih body .null safe)

end Value

namespace Program

/-- **Returns are abrupt.** From plain bindings a return-safe program comes to the value and the
bindings that it comes to with abrupt returns. -/
theorem eval_eq_complete (config : Config) (left : Nat) (env : Env) {program : Program}
    (safe : program.ReturnSafe everywhere) {heap : Heap} (plain : heap.All (Value.Plain everywhere)) :
    (program.complete config (Value.completeCall config left) env).run heap =
      .ok ((program.eval config (Value.call config left) env).run heap).1
        ((program.eval config (Value.call config left) env).run heap).2 :=
  completesFrom (Value.completesCall config left) program.statements .null safe heap plain

/-- In `let f = fn(x) { if (x) { if (true) { return 1 } 2 } 3 } f(true)` the return ends both
conditionals and the function. -/
theorem eval_nested_return :
    let inner : Expr := .cond (.bool true) [.returnStmt (some (.int 1 "1"))] none
    let outer : Expr := .cond (.ident "x") [.exprStmt inner, .exprStmt (.int 2 "2")] none
    let program : Program :=
      ⟨[.letStmt "f" (.fn ["x"] [.exprStmt outer, .exprStmt (.int 3 "3")]),
        .exprStmt (.call (.ident "f") [.bool true])]⟩
    let env := (Heap.empty.newScope []).1
    let heap := (Heap.empty.newScope []).2
    program.ReturnSafe everywhere ∧ heap.All (Value.Plain everywhere) ∧ ∃ after : Heap,
      (program.eval .standard (Value.call .standard 256) env).run heap = (.integer 1, after) ∧
      (program.complete .standard (Value.completeCall .standard 256) env).run heap =
        .ok (.integer 1) after := by
  intro inner outer program env heap
  have safe : program.ReturnSafe everywhere := by
    simp [program, outer, inner, Program.ReturnSafe, Stmt.ReturnSafeList, Stmt.ReturnSafe,
      Expr.ReturnSafeList, Expr.ReturnSafe, Place.Admits, Expr.isReturning]
  have plain : heap.All (Value.Plain everywhere) := Heap.All.empty.newScope []
  exact ⟨safe, plain, _, rfl, eval_eq_complete .standard 256 env safe plain⟩

end Program

end Monkey
