import Monkey.Proofs.Eval.Machine

/-! # Programs, blocks and bodies

The same statements can be evaluated as a program, as a block, and as the body of a function. A
program takes one level of return off the statement that ends it and goes no further. A block
hands what ends it up as it is, and whoever asked for the block takes the level off by
`Value.unwrap`, be it a caller or the evaluator. So the three come to the same, also where values
that are wrapped several times are read back from the bindings: one level is taken off either way.

* `Program.evalFrom_eq_unwrap` — statements of a program against those of a block.
* `Value.call_eq_program` — the body of a function against a program.
* `Machine.program_eq_block_eq_body` — all three, on any machine. -/

namespace Monkey

/-- A value that ends no list of statements is not wrapped, so `Value.unwrap` leaves it as it is. -/
theorem Value.unwrap_eq_of_ends_eq_false {value : Value} (goes : value.ends = false) :
    value.unwrap = value := by
  cases value with
  | returned value => cases goes
  | _ => rfl

section

variable {config : Config} {call : Caller} {env : Env}

/-- A list of statements goes on behind a statement unless the value of that ends it: one step of
`Stmt.evalList`. -/
theorem Stmt.evalList_run (call : Caller) (last : Value) (first : Stmt) (rest : List Stmt)
    (heap : Heap) :
    (Stmt.evalList config call env last (first :: rest)).run heap =
      let (value, after) := (first.eval config call env).run heap
      if value.ends then (value, after)
      else (Stmt.evalList config call env value rest).run after := by
  rw [Stmt.evalList, StateT.run_bind]
  rcases (first.eval config call env).run heap with ⟨value, after⟩
  change (if value.ends then pure value else evalList config call env value rest : EvalM Value).run
    after = if value.ends then (value, after) else _
  split <;> rfl

/-- The statements of a program come to what they come to in a block, with one level of return taken
off. -/
theorem Program.evalFrom_eq_unwrap {last : Value} (goes : last.ends = false) (trees : List Stmt) :
    evalFrom config call env last trees =
      Value.unwrap <$> Stmt.evalList config call env last trees := by
  -- Along the list; the value so far is that of a statement that did not end it.
  funext heap
  change (evalFrom config call env last trees).run heap =
    (Value.unwrap <$> Stmt.evalList config call env last trees).run heap
  rw [StateT.run_map]
  induction trees generalizing last heap with
  | nil => exact congrArg (·, heap) (Value.unwrap_eq_of_ends_eq_false goes).symm
  | cons first rest ih =>
    rw [evalFrom_run, Stmt.evalList_run]
    rcases (first.eval config call env).run heap with ⟨value, after⟩
    cases value with
    | returned value | error cause => rfl
    | _ => exact ih rfl after

/-- The value of a program is that of the block of its statements, with one level of return taken
off. -/
theorem Program.eval_eq_unwrap (trees : List Stmt) :
    eval config call env ⟨trees⟩ = Value.unwrap <$> Block.eval config call env trees :=
  evalFrom_eq_unwrap rfl trees

/-- Statements evaluated as a program come to what they come to as a block, where `Node.eval` takes
the level off. -/
theorem Node.eval_program_eq_block (trees : List Stmt) :
    Node.eval config call env (.program ⟨trees⟩) = Node.eval config call env (.block trees) := by
  rw [Node.eval, Program.eval_eq_unwrap, Node.eval]
  rfl

end

namespace Value

/-- **A call of a function** with the right number of arguments evaluates its body as a program,
where one call fewer is left, in a new scope around which are those the function was made in and in
which the parameters are bound to the arguments. -/
theorem call_eq_program (config : Config) (left : Nat) {parameters : List String} (body : Block)
    (captured : Env) {arguments : List Value} (fits : parameters.length = arguments.length) :
    call config (left + 1) (.function parameters body captured) arguments = (do
      let inner ← EvalM.newScope captured.chain
      EvalM.bindNames inner parameters arguments
      Program.eval config (call config left) inner ⟨body⟩) := by
  have arity : ¬parameters.length ≠ arguments.length := fun wrong => wrong fits
  rw [call, callWith, if_neg arity]
  simp only [Program.eval_eq_unwrap]
  rfl

/-- So does an application by `Value.apply` on a machine whose limit of open calls is not reached:
one call deeper, in a new scope. -/
theorem apply_run_of_lt {config : Config} {machine : Machine} (trees : List Stmt) (captured : Env)
    (below : machine.depth < config.maxCallDepth) :
    let scope := machine.heap.newScope captured.chain
    let whole := (Node.execute config (apply config) (.program ⟨trees⟩)).run
      ⟨scope.1, machine.depth + 1, scope.2⟩
    (apply config (.function [] trees captured) []).run machine =
      (whole.1, { machine with heap := whole.2.heap }) := by
  intro scope whole
  have program : whole = _ :=
    Node.execute_runs (apply_runs config (machine.depth + 1)) (.program ⟨trees⟩) scope.1 scope.2
  have left : config.maxCallDepth - machine.depth =
      config.maxCallDepth - (machine.depth + 1) + 1 := by
    omega
  have applied := apply_runs config machine.depth (.function [] trees captured) [] machine.env
    machine.heap
  rw [left, call_eq_program config _ trees captured rfl] at applied
  rw [program]
  exact applied

/-- On a machine whose limit is reached nothing is evaluated, and the machine stays as it is. -/
theorem apply_run_of_le {config : Config} {machine : Machine} (trees : List Stmt) (captured : Env)
    (reached : config.maxCallDepth ≤ machine.depth) :
    (apply config (.function [] trees captured) []).run machine =
      (.error (.callsTooDeep config.maxCallDepth), machine) := by
  obtain ⟨env, depth, heap⟩ := machine
  rw [apply_runs config depth _ _ env heap, Nat.sub_eq_zero_of_le reached]
  rfl

end Value

/-- **It makes no difference how statements are evaluated**, in whatever state. As a program and as
a block they come to the same value and leave the same machine. As the body of a function without
parameters they come to the value and the bindings that the program comes to, one call deeper, in a
new scope around which are those that the function captured; and behind the call the machine is
where it was. Only at the limit of open calls the body is not evaluated at all. -/
theorem Machine.program_eq_block_eq_body (config : Config) (machine : Machine) (trees : List Stmt)
    (captured : Env) :
    let evaluate (node : Node) := (node.execute config (Value.apply config)).run
    let scope := machine.heap.newScope captured.chain
    let whole := evaluate (.program ⟨trees⟩) ⟨scope.1, machine.depth + 1, scope.2⟩
    evaluate (.program ⟨trees⟩) machine = evaluate (.block trees) machine ∧
      (Value.apply config (.function [] trees captured) []).run machine =
        if machine.depth < config.maxCallDepth then (whole.1, { machine with heap := whole.2.heap })
        else (.error (.callsTooDeep config.maxCallDepth), machine) := by
  intro evaluate scope whole
  constructor
  · -- Both do on a machine what they do in its environment.
    have runs := Value.apply_runs config machine.depth
    have program : evaluate (.program ⟨trees⟩) machine = _ :=
      Node.execute_runs runs (.program ⟨trees⟩) machine.env machine.heap
    have block : evaluate (.block trees) machine = _ :=
      Node.execute_runs runs (.block trees) machine.env machine.heap
    rw [program, block]
    simp only [Node.eval_program_eq_block]
  · by_cases below : machine.depth < config.maxCallDepth
    · rw [if_pos below]
      exact Value.apply_run_of_lt trees captured below
    · rw [if_neg below]
      exact Value.apply_run_of_le trees captured (Nat.le_of_not_lt below)

/-- A value that was wrapped twice is still wrapped once, in a block as behind a call. -/
example :
    let trees : List Stmt :=
      [.returnStmt (some (.cond (.bool true) [.returnStmt (some (.int 1 "1"))] none))]
    let machine : Machine := ⟨⟨0, []⟩, 0, (Heap.empty.newScope []).2⟩
    ((Node.execute .standard (Value.apply .standard) (.block trees)).run machine).1 =
        .returned (.integer 1) ∧
      ((Value.apply .standard (.function [] trees machine.env) []).run machine).1 =
        .returned (.integer 1) := ⟨rfl, rfl⟩

end Monkey
