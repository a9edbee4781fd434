import Monkey.Proofs.Eval.Contents
import Monkey.Proofs.Eval.Machine

/-! # What an evaluation leaves alone

An evaluation binds names in the own scope of its environment and in scopes that it adds. All
other scopes keep their bindings, which is what `Heap.Frame` says of the bindings before and
behind, and `EvalM.Frames` of an evaluation. A call adds the scope it binds names in, so it
changes nothing that was there (`Value.call_frames`), and a node changes the own scope alone
(`Node.frames`). -/

namespace Monkey

/-! ## Bindings -/

/-- **Bindings and what may become of them**: no scope is lost, and of those that were there only
the ones that may be `written` get other bindings. -/
structure Heap.Frame (written : ScopeId → Prop) (before after : Heap) : Prop where
  size_le : before.scopes.size ≤ after.scopes.size
  scope_eq : ∀ id < before.scopes.size, ¬written id → after.scope id = before.scope id

namespace Heap.Frame

variable {written : ScopeId → Prop} {before between after : Heap}

/-- Nothing may happen: `Heap.Frame` is reflexive. -/
theorem refl (heap : Heap) : heap.Frame written heap := ⟨Nat.le_refl _, fun _ _ _ => rfl⟩

/-- One thing may happen after the other: `Heap.Frame` is transitive. -/
theorem trans (first : before.Frame written between) (second : between.Frame written after) :
    before.Frame written after where
  size_le := Nat.le_trans first.size_le second.size_le
  scope_eq id old kept :=
    (second.scope_eq id (Nat.lt_of_lt_of_le old first.size_le) kept).trans
      (first.scope_eq id old kept)

/-- A binding by `Heap.set` writes the own scope of its environment alone. -/
theorem set (heap : Heap) (env : Env) (name : String) (value : Value) :
    heap.Frame (· = env.own) (heap.set env name value) where
  size_le := by simp
  scope_eq _ _ kept := scope_set_of_ne kept heap name value

/-- A new scope by `Heap.newScope` is one that was not there, so none of the old ones is written. -/
theorem newScope (heap : Heap) (outer : List ScopeId) :
    heap.Frame written (heap.newScope outer).2 where
  size_le := by simp [Heap.newScope]
  scope_eq id _ _ := scope_newScope heap outer id

end Heap.Frame

/-- **An evaluation that writes no other scopes** than some, from whatever bindings it starts. -/
def EvalM.Frames {α : Type} (written : ScopeId → Prop) (plain : EvalM α) : Prop :=
  ∀ heap : Heap, heap.Frame written (plain.run heap).2

namespace EvalM.Frames

variable {α β : Type} {written : ScopeId → Prop} {plain : EvalM α}

/-- A value that is just there writes nothing, whatever scopes may be `written`. -/
theorem pure (value : α) : Frames written (Pure.pure value) := fun heap => .refl heap

/-- Steps in turn write what each of them may write, so the same bound serves for both. -/
theorem bind {next : α → EvalM β} (first : Frames written plain)
    (second : ∀ value, Frames written (next value)) : Frames written (plain >>= next) :=
  fun heap => (first heap).trans (second _ _)

/-- To look a name up with `EvalM.lookup` writes nothing. -/
theorem lookup (env : Env) (name : String) : Frames written (EvalM.lookup env name) := by
  intro heap
  rw [lookup_run]
  exact .refl heap

/-- In `EvalM.proceed` only the two steps write; to pass an error on does not. -/
theorem proceed {first : EvalM Value} {next : Value → EvalM Value} (frames : Frames written first)
    (second : ∀ value, Frames written (next value)) : Frames written (first.proceed next) := by
  refine frames.bind fun value => ?_
  cases value with
  | error cause => exact pure _
  | _ => exact second _

/-- To bind a name with `EvalM.bindName` writes the own scope of the environment. -/
theorem bindName (env : Env) (name : String) (value : Value) :
    Frames (· = env.own) (EvalM.bindName env name value) :=
  fun heap => .set heap env name value

/-- To bind names, pair by pair, with `EvalM.bindNames` writes the own scope, by induction on the
pairs. -/
theorem bindNames (env : Env) (names : List String) (values : List Value) :
    Frames (· = env.own) (EvalM.bindNames env names values) := by
  induction names generalizing values with
  | nil => exact pure _
  | cons name names ih =>
    cases values with
    | nil => exact pure _
    | cons value values => exact (bindName env name value).bind fun _ => ih values

/-- What only a new scope is written by writes nothing that was there before: the scope of
`EvalM.newScope` was not. -/
theorem newScope {outer : List ScopeId} {next : Env → EvalM α}
    (rest : ∀ inner, Frames (· = inner.own) (next inner)) :
    Frames written (EvalM.newScope outer >>= next) := by
  intro heap
  have added : heap.Frame written (heap.newScope outer).2 := .newScope heap outer
  have inside := rest (heap.newScope outer).1 (heap.newScope outer).2
  refine ⟨Nat.le_trans added.size_le inside.size_le, fun id old kept => ?_⟩
  have other : id ≠ (heap.newScope outer).1.own := Nat.ne_of_lt old
  exact (inside.scope_eq id (Nat.lt_of_lt_of_le old added.size_le) other).trans
    (added.scope_eq id old kept)

end EvalM.Frames

section Trees

open EvalM Frames

variable {config : Config} {call : Caller} {env : Env}

/-- Calls write nothing that was there before, whatever is called with whatever arguments. -/
abbrev FramesCalls (call : Caller) : Prop :=
  ∀ (written : ScopeId → Prop) function arguments, Frames written (call function arguments)

mutual

/-- An expression writes the own scope alone, through the bindings in the branches of its
conditionals, if calls write nothing; by recursion on `Expr.eval`. -/
theorem Expr.frames (calls : FramesCalls call) :
    (tree : Expr) → Frames (· = env.own) (tree.eval config call env)
  | .int _ _ | .bool _ | .fn _ _ => .pure _
  | .ident name => .lookup env name
  | .unary _ operand => (operand.frames calls).proceed fun _ => .pure _
  | .binary _ left right =>
    (left.frames calls).proceed fun _ => (right.frames calls).proceed fun _ => .pure _
  | .cond condition consequence none => by
    refine (condition.frames calls).proceed fun value => ?_
    split
    · exact Stmt.framesList calls consequence .null
    · exact .pure _
  | .cond condition consequence (some alternative) => by
    refine (condition.frames calls).proceed fun value => ?_
    split
    · exact Stmt.framesList calls consequence .null
    · exact Stmt.framesList calls alternative .null
  | .call callee arguments => by
    refine (callee.frames calls).proceed fun function => ?_
    refine (Expr.framesList calls arguments).bind fun values => ?_
    cases values with
    | error cause => exact .pure _
    | ok values => exact calls _ function values

/-- Expressions in turn write the own scope alone in `Expr.evalList`. -/
theorem Expr.framesList (calls : FramesCalls call) :
    (trees : List Expr) → Frames (· = env.own) (Expr.evalList config call env trees)
  | [] => .pure _
  | first :: rest => by
    refine (first.frames calls).bind fun value => ?_
    cases value with
    | error cause => exact .pure _
    | _ =>
      refine (Expr.framesList calls rest).bind fun values => ?_
      cases values <;> exact .pure _

/-- A statement writes the own scope alone; a `let` does, and otherwise only its expression may. -/
theorem Stmt.frames (calls : FramesCalls call) :
    (tree : Stmt) → Frames (· = env.own) (tree.eval config call env)
  | .letStmt name value => (value.frames calls).proceed fun value =>
      (Frames.bindName env name value).bind fun _ => .pure _
  | .returnStmt none => .pure _
  | .returnStmt (some value) => (value.frames calls).proceed fun _ => .pure _
  | .exprStmt value => value.frames calls

/-- Statements in turn write the own scope alone in `Stmt.evalList`, whatever their last value. -/
theorem Stmt.framesList (calls : FramesCalls call) : (trees : List Stmt) → (last : Value) →
    Frames (· = env.own) (Stmt.evalList config call env last trees)
  | [], _ => .pure _
  | first :: rest, _ => by
    refine (first.frames calls).bind fun value => ?_
    split
    · exact .pure _
    · exact Stmt.framesList calls rest value

end

/-- The statements of a program write the own scope alone in `Program.evalFrom`, whatever their last
value. -/
theorem Program.framesFrom (calls : FramesCalls call) (trees : List Stmt) (last : Value) :
    Frames (· = env.own) (Program.evalFrom config call env last trees) := by
  induction trees generalizing last with
  | nil => exact .pure _
  | cons first rest ih =>
    refine (first.frames calls).bind fun value => ?_
    cases value with
    | returned value | error cause => exact .pure _
    | _ => exact ih _

/-- A node writes the own scope of its environment alone: the four cases of `Node.eval`. -/
theorem Node.frames (calls : FramesCalls call) (node : Node) :
    Frames (· = env.own) (node.eval config call env) := by
  cases node with
  | program tree => exact Program.framesFrom calls tree.statements .null
  | block tree => exact (Stmt.framesList calls tree .null).bind fun _ => .pure _
  | statement tree => exact (tree.frames calls).bind fun _ => .pure _
  | expression tree => exact tree.frames calls

end Trees

namespace Value

open EvalM

/-- A call writes nothing by `callWith` if bodies write their own scope alone, as that is a new one.
-/
theorem callWith_frames {config : Config} {run : Option (Env → Block → EvalM Value)}
    (bodies : ∀ run', run' ∈ run → ∀ env body, Frames (· = env.own) (run' env body)) :
    FramesCalls (callWith config run) := by
  intro written function arguments
  cases function with
  | function parameters body env =>
    change Frames written (if parameters.length ≠ arguments.length then _ else _)
    by_cases wrong : parameters.length ≠ arguments.length
    · rw [if_pos wrong]
      exact .pure _
    · rw [if_neg wrong]
      cases run with
      | none => exact .pure _
      | some run =>
        exact .newScope fun inner => (Frames.bindNames inner parameters arguments).bind fun _ =>
          (bodies run rfl inner body).bind fun _ => .pure _
  | _ => exact .pure _

/-- Calls write nothing, however many are left: by induction on that number. -/
theorem call_frames (config : Config) (left : Nat) : FramesCalls (call config left) := by
  induction left with
  | zero => exact callWith_frames nofun
  | succ left ih =>
    refine callWith_frames fun run only env body => ?_
    cases only
    exact Stmt.framesList ih body .null

end Value

end Monkey
