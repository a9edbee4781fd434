import Monkey.Proofs.Eval.Contents
import Monkey.Proofs.Eval.Throwing

/-! # Errors are exceptions

Errors are values, and every construct has to look for them and pass them on. From clean bindings
(`Value.Clean`) that comes to the same as throwing them: the first error that is produced is the
value of the whole, nothing is evaluated or bound after it, and no error ever gets into the
bindings, among the arguments of a call or into a value that is returned.

* `Agree` — an evaluation that throws errors and one that passes them on come to the same.
* `Expr.agree`, `Stmt.agree`, `Node.agree` — one lemma for each construct, and `Value.agreeCall`
  for calls.
* `Node.eval_eq_attempt` — evaluation and the evaluator with exceptions, from the same bindings. -/

namespace Monkey

/-! ## Values without errors -/

/-- **A clean value** neither is an error nor wraps one; what a function captures is bound in some
scope, so `Heap.All Value.Clean` is what says that it is clean. -/
def Value.Clean : Value → Prop
  | .error _ => False
  | .returned value => value.Clean
  | _ => True

namespace Value

variable {value : Value}

/-- What a clean value wraps is clean, so `Value.unwrap` keeps it so. -/
theorem Clean.unwrap (clean : value.Clean) : value.unwrap.Clean := by
  cases value with
  | returned value => exact clean
  | _ => exact clean

/-- A ground value, which is what operators answer with, is an error, or it is clean. -/
theorem IsGround.error_or_clean (ground : value.IsGround) :
    (∃ cause, value = .error cause) ∨ value.Clean := by
  cases value with
  | error cause => exact .inl ⟨cause, rfl⟩
  | returned value => exact ground.elim
  | _ => exact .inr trivial

end Value

/-! ## Evaluations that agree -/

/-- **How two evaluations end alike**, the one with exceptions and the one that passes errors on:
with the same trail, which is clean, and with what `answer` makes of the value or of the error that
was thrown. -/
inductive Settled {α β : Type} (answer : Except RuntimeError β → α) (good : β → Prop) :
    EStateM.Result RuntimeError Trail β → α × Trail → Prop where
  /-- A value is the same value, and it is clean. -/
  | ok {value : β} {trail : Trail} : good value → trail.All Value.Clean →
      Settled answer good (.ok value trail) (answer (.ok value), trail)
  /-- An error that is thrown is an error that is passed on. -/
  | error {cause : RuntimeError} {trail : Trail} : trail.All Value.Clean →
      Settled answer good (.error cause trail) (answer (.error cause), trail)

/-- **Two evaluations agree**, one with exceptions and one that passes errors on: from every clean
trail they are `Settled` alike. -/
def Agree {α β : Type} (answer : Except RuntimeError β → α) (good : β → Prop) (attempt : ThrowM β)
    (observed : ObserveM α) : Prop :=
  ∀ trail : Trail, trail.All Value.Clean → Settled answer good (attempt.run trail) (observed.run trail)

/-- A value, or an error as a value: how `Expr.observe` shows what `Expr.attempt` comes to. -/
def Value.ofExcept : Except RuntimeError Value → Value
  | .ok value => value
  | .error cause => .error cause

/-- Lists of values agree: both evaluations come to the same clean values, or to an error among
them. -/
abbrev AgreeList (attempt : ThrowM (List Value))
    (observed : ObserveM (Except RuntimeError (List Value))) : Prop :=
  Agree id (fun values => ∀ value ∈ values, value.Clean) attempt observed

/-- Values agree: both evaluations come to the same clean value, or to an error in its place. -/
abbrev AgreeValue (attempt : ThrowM Value) (observed : ObserveM Value) : Prop :=
  Agree Value.ofExcept Value.Clean attempt observed

namespace Agree

variable {α β γ δ : Type} {answer : Except RuntimeError β → α} {answer' : Except RuntimeError δ → γ}
  {good : β → Prop} {good' : δ → Prop} {attempt : ThrowM β} {observed : ObserveM α}

/-- A clean value that is just there is the same in both evaluations. -/
theorem pure {value : β} (clean : good value) :
    Agree answer good (Pure.pure value) (Pure.pure (answer (.ok value))) :=
  fun _ trail => .ok clean trail

/-- An error that is thrown here and passed on there: `throw` agrees with the value that stands for
the error. -/
theorem throw (cause : RuntimeError) :
    Agree answer good (MonadExcept.throw cause) (Pure.pure (answer (.error cause))) :=
  fun _ trail => .error trail

/-- A change of the trail that keeps it clean, and what comes behind it, which has to agree. -/
theorem change {step : Trail → Trail}
    (keeps : ∀ trail : Trail, trail.All Value.Clean → (step trail).All Value.Clean)
    (rest : Agree answer good attempt observed) :
    Agree answer good (do modify step; attempt) (do modify step; observed) :=
  fun trail clean => rest (step trail) (keeps trail clean)

/-- A scope is added to both trails, and then comes what goes on in it. -/
theorem newScope {next : Env → ThrowM β} {next' : Env → ObserveM α} (outer : List ScopeId)
    (rest : ∀ inner, Agree answer good (next inner) (next' inner)) :
    Agree answer good (modifyGet (·.newScope outer) >>= next)
      (modifyGet (·.newScope outer) >>= next') :=
  fun trail clean => rest (trail.newScope outer).1 _ (clean.newScope outer)

/-- Steps in turn: the second one comes only behind a value of the first one, and an error of that
is `passed` on by the second one as it is. -/
theorem bind {next : β → ThrowM δ} {next' : α → ObserveM γ}
    (first : Agree answer good attempt observed)
    (second : ∀ value, good value → Agree answer' good' (next value) (next' (answer (.ok value))))
    (passed : ∀ cause, next' (answer (.error cause)) = Pure.pure (answer' (.error cause))) :
    Agree answer' good' (attempt >>= next) (observed >>= next') := by
  intro trail clean
  have settled := first trail clean
  have observe : (observed >>= next').run trail =
      (next' (observed.run trail).1).run (observed.run trail).2 := rfl
  have attempted : (attempt >>= next).run trail = EStateM.bind attempt next trail := rfl
  rw [observe, attempted, EStateM.bind]
  change Settled answer good (attempt trail) _ at settled
  generalize attempt trail = result at settled
  generalize observed.run trail = outcome at settled
  cases settled with
  | ok value clean => exact second _ value _ clean
  | error clean =>
    rw [passed]
    exact .error clean

/-- In `ObserveM.proceed` a value goes to the next step, and an error is passed on; there it is
thrown. -/
theorem proceed {first : ThrowM Value} {first' : ObserveM Value} {next : Value → ThrowM Value}
    {next' : Value → ObserveM Value} (same : AgreeValue first first')
    (second : ∀ value : Value, value.Clean → AgreeValue (next value) (next' value)) :
    AgreeValue (first >>= next) (first'.proceed next') := by
  refine same.bind (fun value clean => ?_) fun cause => rfl
  cases value with
  | error cause => exact clean.elim
  | _ => exact second _ clean

/-- A name is bound to a clean value, since the trail is clean, or it is the error that it is not
bound. -/
theorem lookup (env : Env) (name : String) :
    AgreeValue (ThrowM.lookup env name) (ObserveM.lookup env name) := by
  intro trail clean
  have observe : (ObserveM.lookup env name).run trail =
      ((trail.heap.get? env name).getD (.error (.unboundName name)), trail) := rfl
  rw [observe]
  cases found : trail.heap.get? env name with
  | none =>
    have thrown : (ThrowM.lookup env name).run trail = .error (.unboundName name) trail := by
      simp [ThrowM.lookup, found]
      rfl
    rw [thrown]
    exact .error clean
  | some value =>
    have read : (ThrowM.lookup env name).run trail = .ok value trail := by
      simp [ThrowM.lookup, found]
    rw [read]
    exact .ok (clean.heap.get? found) clean

/-- What an operator answers is a clean value, or it is an error, which `ThrowM.answer` throws. -/
theorem answer_value {value : Value} (good : (∃ cause, value = .error cause) ∨ value.Clean) :
    AgreeValue (ThrowM.answer value) (Pure.pure value) := by
  obtain ⟨cause, rfl⟩ | clean := good
  · exact throw cause
  · cases value with
    | error cause => exact clean.elim
    | _ => exact pure clean

/-- A clean value is wrapped, and that is noted on both trails. -/
theorem wrap {value : Value} (clean : value.Clean) :
    AgreeValue (ThrowM.wrap value) (ObserveM.wrap value) :=
  change (fun _ tidy => tidy.note clean) (pure clean)

/-- What a value wraps is taken out of it, by `Value.unwrap` in both evaluations. -/
theorem unwrap {first : ThrowM Value} {first' : ObserveM Value} (same : AgreeValue first first') :
    AgreeValue (return (← first).unwrap) (return (← first').unwrap) :=
  same.bind (fun _ clean => pure clean.unwrap) fun _ => rfl

end Agree

section Trees

variable {config : Config} {call : Value → List Value → ObserveM Value}
  {attempted : Value → List Value → ThrowM Value} {env : Env}

/-- Calls agree if they do for all callees and for clean arguments. -/
abbrev AgreeCalls (attempted : Value → List Value → ThrowM Value)
    (call : Value → List Value → ObserveM Value) : Prop :=
  ∀ (function : Value) (arguments : List Value), (∀ argument ∈ arguments, argument.Clean) →
    AgreeValue (attempted function arguments) (call function arguments)

mutual

/-- An expression: `Expr.attempt` and `Expr.observe` agree on it if calls agree. -/
theorem Expr.agree (calls : AgreeCalls attempted call) :
    (tree : Expr) → AgreeValue (tree.attempt config attempted env) (tree.observe config call env)
  | .int _ _ | .bool _ | .fn _ _ => .pure trivial
  | .ident name => .lookup env name
  | .unary op operand =>
    (operand.agree calls).proceed fun value _ =>
      .answer_value (op.apply_isGround config value).error_or_clean
  | .binary op left right =>
    (left.agree calls).proceed fun leftValue _ => (right.agree calls).proceed fun rightValue _ =>
      .answer_value (op.apply_isGround config leftValue rightValue).error_or_clean
  | .cond condition consequence none => by
    refine (condition.agree calls).proceed fun value _ => ?_
    split
    · exact Stmt.agreeList calls consequence trivial
    · exact .pure trivial
  | .cond condition consequence (some alternative) => by
    refine (condition.agree calls).proceed fun value _ => ?_
    split
    · exact Stmt.agreeList calls consequence trivial
    · exact Stmt.agreeList calls alternative trivial
  | .call callee arguments => by
    refine (callee.agree calls).proceed fun function _ => ?_
    refine (Expr.agreeList calls arguments).bind (fun values clean => ?_) fun cause => rfl
    exact .change (fun _ tidy => tidy.note clean) (calls function values clean)

/-- Expressions in turn: the first error among them is what is thrown, and the others are not
evaluated. -/
theorem Expr.agreeList (calls : AgreeCalls attempted call) : (trees : List Expr) →
    AgreeList (Expr.attemptList config attempted env trees) (Expr.observeList config call env trees)
  | [] => .pure nofun
  | first :: rest => by
    refine (first.agree calls).bind (fun value clean => ?_) fun cause => rfl
    have others : AgreeList (return value :: (← Expr.attemptList config attempted env rest)) (do
        match ← Expr.observeList config call env rest with
        | .error cause => return .error cause
        | .ok values => return .ok (value :: values)) :=
      (Expr.agreeList calls rest).bind
        (fun values all => .pure (List.forall_mem_cons.2 ⟨clean, all⟩)) fun cause => rfl
    cases value with
    | error cause => exact clean.elim
    | _ => exact others

/-- A statement: `Stmt.attempt` and `Stmt.observe` agree on it, and only clean values are bound or
wrapped. -/
theorem Stmt.agree (calls : AgreeCalls attempted call) :
    (tree : Stmt) → AgreeValue (tree.attempt config attempted env) (tree.observe config call env)
  | .letStmt name value => (value.agree calls).proceed fun _ clean =>
      .change (fun _ tidy => tidy.bindName env name clean) (.pure trivial)
  | .returnStmt none => .wrap trivial
  | .returnStmt (some value) => (value.agree calls).proceed fun _ clean => .wrap clean
  | .exprStmt value => value.agree calls

/-- Statements in turn agree, from a clean last value; an error ends the list, and so does a wrapped
value. -/
theorem Stmt.agreeList (calls : AgreeCalls attempted call) {last : Value} :
    (trees : List Stmt) → last.Clean →
    AgreeValue (Stmt.attemptList config attempted env last trees)
      (Stmt.observeList config call env last trees)
  | [], clean => .pure clean
  | first :: rest, _ => by
    refine (first.agree calls).bind (fun value clean => ?_) fun cause => rfl
    cases value with
    | error cause => exact clean.elim
    | returned value => exact .pure clean
    | _ => exact Stmt.agreeList calls rest clean

end

/-- The statements of a program agree, from a clean last value; a return among them is unwrapped. -/
theorem Program.agreeFrom (calls : AgreeCalls attempted call) (trees : List Stmt) {last : Value}
    (clean : last.Clean) :
    AgreeValue (Program.attemptFrom config attempted env last trees)
      (Program.observeFrom config call env last trees) := by
  induction trees generalizing last with
  | nil => exact .pure clean
  | cons first rest ih =>
    refine (first.agree calls).bind (fun value clean => ?_) fun cause => rfl
    cases value with
    | error cause => exact clean.elim
    | returned value => exact .pure clean
    | _ => exact ih clean

/-- A node: the four cases of `Node.attempt` and `Node.observe` agree if calls agree. -/
theorem Node.agree (calls : AgreeCalls attempted call) (node : Node) :
    AgreeValue (node.attempt config attempted env) (node.observe config call env) := by
  cases node with
  | program tree => exact Program.agreeFrom calls tree.statements trivial
  | block tree => exact .unwrap (Stmt.agreeList calls tree trivial)
  | statement tree => exact .unwrap (tree.agree calls)
  | expression tree => exact tree.agree calls

end Trees

namespace Value

/-- Calls agree if the bodies of functions do: the checks before the body throw what is passed on
there. -/
theorem agreeWith {config : Config} {run : Option (Env → Block → ThrowM Value)}
    {run' : Option (Env → Block → ObserveM Value)}
    (bodies : Option.Rel (fun run run' => ∀ env body, AgreeValue (run env body) (run' env body))
      run run') :
    AgreeCalls (attemptWith config run) (observeWith config run') := by
  intro function arguments clean
  cases function with
  | function parameters body env =>
    change AgreeValue (if parameters.length ≠ arguments.length then _ else _)
      (if parameters.length ≠ arguments.length then _ else _)
    by_cases wrong : parameters.length ≠ arguments.length
    · rw [if_pos wrong, if_pos wrong]
      exact .throw _
    · rw [if_neg wrong, if_neg wrong]
      cases bodies with
      | none => exact .throw _
      | some bodies =>
        exact .newScope env.chain fun inner =>
          .change (fun _ tidy => tidy.bindNames inner parameters clean)
            (.unwrap (bodies inner body))
  | _ => exact .throw _

/-- Calls agree, however many of them are left: by induction on that number. -/
theorem agreeCall (config : Config) (left : Nat) :
    AgreeCalls (attemptCall config left) (observeCall config left) := by
  induction left with
  | zero => exact agreeWith .none
  | succ left ih => exact agreeWith (.some fun _ body => Stmt.agreeList ih body trivial)

end Value

namespace Node

/-- **Errors are exceptions.** From clean bindings a node comes to the value and the bindings that
it comes to with exceptions: to a clean value, or to the error that is thrown. Under observation it
does the same things on its way, the bindings are clean wherever it gets, and so are all arguments
and all values that are wrapped. -/
theorem eval_eq_attempt (config : Config) (left : Nat) (env : Env) (node : Node) {heap : Heap}
    (clean : heap.All Value.Clean) :
    ∃ (value : Value) (trail : Trail),
      (node.eval config (Value.call config left) env).run heap = (value, trail.heap) ∧
      (node.observe config (Value.observeCall config left) env).run (.start heap) = (value, trail) ∧
      ((value.Clean ∧ (node.attempt config (Value.attemptCall config left) env).run (.start heap) =
          .ok value trail) ∨
        ∃ cause, value = .error cause ∧
          (node.attempt config (Value.attemptCall config left) env).run (.start heap) =
            .error cause trail) ∧
      trail.heap.All Value.Clean ∧ ∀ event ∈ trail.events, event.All Value.Clean := by
  have start : (Trail.start heap).All Value.Clean := ⟨clean, nofun⟩
  have shows : ObserveM.Shows (node.observe config _ env) (node.eval config _ env) :=
    node.observe_shows (Value.observeCall_shows config left)
  have agree : AgreeValue (node.attempt config _ env) (node.observe config _ env) :=
    node.agree (Value.agreeCall config left)
  have shows := shows (.start heap)
  have settled := agree (.start heap) start
  generalize thrown : (node.attempt _ _ _).run (.start heap) = result at settled
  generalize observed : (node.observe _ _ _).run (.start heap) = outcome at settled shows
  cases settled with
  | ok good tidy => exact ⟨_, _, shows, rfl, .inl ⟨good, rfl⟩, tidy.heap, tidy.events⟩
  | error tidy => exact ⟨_, _, shows, rfl, .inr ⟨_, rfl, rfl⟩, tidy.heap, tidy.events⟩

/-- The statement `let x = y;` comes to the error that `y` is not bound, and binds nothing. -/
theorem eval_unbound :
    let heap := (Heap.empty.newScope []).2
    let env := (Heap.empty.newScope []).1
    let node := statement (.letStmt "x" (.ident "y"))
    heap.All Value.Clean ∧
      (node.eval .standard (Value.call .standard 256) env).run heap =
        (.error (.unboundName "y"), heap) ∧
      (node.attempt .standard (Value.attemptCall .standard 256) env).run (.start heap) =
        .error (.unboundName "y") (.start heap) := by
  intro heap env node
  have clean : heap.All Value.Clean := Heap.All.empty.newScope []
  obtain ⟨value, trail, run, -, ended, -⟩ := eval_eq_attempt .standard 256 env node clean
  have thrown : (node.attempt .standard (Value.attemptCall .standard 256) env).run (.start heap) =
      .error (.unboundName "y") (.start heap) := rfl
  rw [thrown] at ended
  obtain ⟨-, wrong⟩ | ⟨cause, rfl, same⟩ := ended
  · cases wrong
  · cases same
    exact ⟨clean, run, thrown⟩

end Node

end Monkey
