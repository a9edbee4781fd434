import Monkey.Proofs.Eval.Stepwise

/-! # Every evaluation ends

Step by step an evaluation gets to the value and the bindings that it comes to as a whole, and
there it ends (`evaluation_ends`). Trees get smaller on the way; only a call goes on with a tree
that may be larger, and of calls no more can be opened inside each other than the limit allows. At
every step the machine counts the calls that are open, and there are never more of them than the
limit (`Progress.Reaches.limited`).

* `Progress.Gives` — where the steps from a start lead, whatever waits.
* `Expr.gives`, `Stmt.gives`, `Value.call_gives` — the steps from each construct lead to its
  value. -/

namespace Monkey

open Progress

/-! ## What a step counts -/

/-- Two states of an evaluation with as many open calls, by the count of the machine and by what
waits. -/
structure Progress.SameCalls (progress next : Progress) : Prop where
  depth_eq : next.machine.depth = progress.machine.depth
  openCalls_eq : next.openCalls = progress.openCalls

section Counts

variable {config : Config} {waiting : List Waiting} {machine : Machine}

/-- To start on an expression by `Expr.start` opens no call. -/
theorem Expr.sameCalls_start (tree : Expr) :
    SameCalls ⟨.expression tree, waiting, machine⟩ (tree.start waiting machine) := by
  cases tree <;> exact ⟨rfl, rfl⟩

/-- To start on a statement by `Stmt.start` opens no call. -/
theorem Stmt.sameCalls_start (tree : Stmt) :
    SameCalls ⟨.statement tree, waiting, machine⟩ (tree.start waiting machine) := by
  rcases tree with _ | (_ | _) | _ <;> exact ⟨rfl, rfl⟩

/-- To go on with a value by `Waiting.resume` opens no call; a call starts only when all its
arguments are there. -/
theorem Waiting.sameCalls_resume (first : Waiting) (value : Value) :
    SameCalls ⟨.give value, waiting, machine⟩ (first.resume config waiting machine value) := by
  cases first <;> exact ⟨rfl, rfl⟩

/-- To hand on a value opens no call. If the first thing that waits is the end of a call, the
machine is put back. -/
theorem Waiting.sameCalls_receive (first : Waiting) (value : Value) :
    SameCalls ⟨.give value, waiting, first.restore machine⟩
      (first.receive config waiting machine value) := by
  cases value with
  | error cause => exact ⟨rfl, rfl⟩
  | _ => exact first.sameCalls_resume _

namespace Progress

variable {progress next : Progress}

/-- **What a step does to the calls that are open**: it leaves them, or it opens one below the
limit, or it ends one. -/
theorem Next.openCalls_cases (step : Next config progress next) :
    progress.SameCalls next ∨
      (progress.machine.depth < config.maxCallDepth ∧
        next.machine.depth = progress.machine.depth + 1 ∧
        next.openCalls = progress.openCalls + 1) ∨
      (next.machine.depth = progress.machine.depth - 1 ∧
        progress.openCalls = next.openCalls + 1) := by
  obtain ⟨focus, waiting, machine⟩ := progress
  -- Only a call that is entered opens one, and only a value that leaves a call ends one.
  cases focus with
  | expression tree =>
    cases step
    exact .inl tree.sameCalls_start
  | statement tree =>
    cases step
    exact .inl tree.sameCalls_start
  | statements last trees => cases trees <;> cases step <;> exact .inl ⟨rfl, rfl⟩
  | program last trees => cases trees <;> cases step <;> exact .inl ⟨rfl, rfl⟩
  | arguments function values trees => cases trees <;> cases step <;> exact .inl ⟨rfl, rfl⟩
  | lookup name scopes =>
    cases scopes with
    | nil =>
      cases step
      exact .inl ⟨rfl, rfl⟩
    | cons nearest outer =>
      simp only [Next, Progress.step] at step
      split at step <;> cases step <;> exact .inl ⟨rfl, rfl⟩
  | call function arguments =>
    cases step
    cases function with
    | function parameters body env =>
      rw [Value.start]
      split
      · exact .inl ⟨rfl, rfl⟩
      · split
        · exact .inl ⟨rfl, rfl⟩
        · next full => exact .inr (.inl ⟨Nat.lt_of_not_le full, rfl, List.countP_cons_of_pos rfl⟩)
    | _ => exact .inl ⟨rfl, rfl⟩
  | give value =>
    cases waiting with
    | nil => cases step
    | cons first waiting =>
      cases step
      have same : SameCalls ⟨.give value, waiting, first.restore machine⟩
        (first.receive config waiting machine value) := first.sameCalls_receive value
      cases first with
      | leaving outer =>
        refine .inr (.inr ⟨same.depth_eq, ?_⟩)
        rw [same.openCalls_eq]
        exact List.countP_cons_of_pos rfl
      | _ => exact .inl ⟨same.depth_eq, same.openCalls_eq⟩

end Progress

end Counts

/-! ## Where the steps lead -/

/-- **Where the steps from a start lead**: with so many open calls, to the value that an evaluation
comes to in the same environment, whatever waits for it. The bindings are what that makes of them,
and the machine is as it was. -/
def Progress.Gives (config : Config) (depth : Nat) (start : List Waiting → Machine → Progress)
    (plain : Env → EvalM Value) : Prop :=
  ∀ (waiting : List Waiting) (env : Env) (heap : Heap),
    Reaches config (start waiting ⟨env, depth, heap⟩)
      ⟨.give ((plain env).run heap).1, waiting, ⟨env, depth, ((plain env).run heap).2⟩⟩

namespace Progress.Gives

variable {config : Config} {depth : Nat} {start next : List Waiting → Machine → Progress}
  {plain : Env → EvalM Value} {first : Waiting}

/-- A value is there, and no step is needed to give it. -/
theorem give (value : Value) :
    Gives config depth (Progress.mk (.give value)) fun _ => pure value := fun _ _ _ => .refl

/-- One step before others: where it leads the start leads too. -/
theorem step
    (goesOn : ∀ waiting machine, Next config (start waiting machine) (next waiting machine))
    (gives : Gives config depth next plain) : Gives config depth start plain :=
  fun waiting env heap => .head (goesOn waiting _) (gives waiting env heap)

/-- What comes to the same may be said in another way, as evaluations that do the same are not
always written alike. -/
theorem congr {other : Env → EvalM Value} (gives : Gives config depth start plain)
    (same : ∀ env heap, (plain env).run heap = (other env).run heap) :
    Gives config depth start other := by
  intro waiting env heap
  rw [← same]
  exact gives waiting env heap

/-- A value is handed to what waits for it, by `Waiting.receive`, and from there the steps lead on.
-/
theorem bind {next' : Env → Value → EvalM Value} (gives : Gives config depth start plain)
    (second : ∀ value, Gives config depth
      (fun waiting machine => first.receive config waiting machine value) (next' · value)) :
    Gives config depth (fun waiting machine => start (first :: waiting) machine)
      fun env => plain env >>= next' env := by
  intro waiting env heap
  exact (gives (first :: waiting) env heap).trans (.head rfl (second _ waiting env _))

/-- An error is handed on, and what waits for a value goes on with any other one, as in
`EvalM.proceed`. -/
theorem proceed {next' : Env → Value → EvalM Value} (gives : Gives config depth start plain)
    (stays : ∀ machine, first.restore machine = machine)
    (second : ∀ value, Gives config depth
      (fun waiting machine => first.resume config waiting machine value) (next' · value)) :
    Gives config depth (fun waiting machine => start (first :: waiting) machine)
      fun env => (plain env).proceed (next' env) := by
  refine gives.bind fun value => ?_
  simp only [Waiting.receive, stays]
  cases value with
  | error cause => exact give _
  | _ => exact second _

/-- What a value wraps is taken out of it, by the thing that waits for that. -/
theorem unwrap (gives : Gives config depth start plain) :
    Gives config depth (fun waiting machine => start (.unwrapping :: waiting) machine)
      fun env => return (← plain env).unwrap := by
  refine gives.bind fun value => ?_
  cases value <;> exact give _

end Progress.Gives

section Trees

open Gives

variable {config : Config} {depth : Nat} {caller : Caller}

/-- A name is looked for in one scope after another, and found as by `Heap.get?` in all of them at
once. -/
theorem Progress.lookup_reaches (name : String) (scopes : List ScopeId) (waiting : List Waiting)
    (machine : Machine) :
    Reaches config ⟨.lookup name scopes, waiting, machine⟩
      ⟨.give ((scopes.findSome? fun id => (machine.heap.scope id)[name]?).getD
        (.error (.unboundName name))), waiting, machine⟩ := by
  induction scopes with
  | nil => exact .single rfl
  | cons nearest outer ih =>
    cases found : (machine.heap.scope nearest)[name]? with
    | some value =>
      rw [List.findSome?_cons, found]
      refine .single ?_
      simp only [Next, Progress.step, found]
      rfl
    | none =>
      rw [List.findSome?_cons, found]
      refine .head ?_ ih
      simp only [Next, Progress.step, found]

/-- The steps from a call lead to what it comes to, with so many open calls. -/
abbrev GivesCalls (config : Config) (depth : Nat) (caller : Caller) : Prop :=
  ∀ function arguments, Gives config depth (Progress.mk (.call function arguments)) fun _ =>
    caller function arguments

/-- A call with some values and those that come after them, unless there is an error in their place.
-/
def Caller.withMore (caller : Caller) (function : Value) (values : List Value) :
    Except RuntimeError (List Value) → EvalM Value
  | .error cause => return .error cause
  | .ok more => caller function (values ++ more)

/-- A value that comes before others can be put behind those that are there already, which is what
the steps do. -/
theorem Caller.withMore_cons (function : Value) (values : List Value) (value : Value)
    (others : EvalM (Except RuntimeError (List Value))) :
    (do
      match ← others with
      | .error cause => return .error cause
      | .ok more => return .ok (value :: more) : EvalM _) >>= caller.withMore function values =
    others >>= caller.withMore function (values ++ [value]) := by
  funext heap
  change ((match (others.run heap).1 with
      | .error cause => return .error cause
      | .ok more => return .ok (value :: more) : EvalM (Except RuntimeError (List Value))) >>=
        caller.withMore function values).run (others.run heap).2 =
    (caller.withMore function (values ++ [value]) (others.run heap).1).run (others.run heap).2
  rcases others.run heap with ⟨cause | more, after⟩
  · rfl
  · change (caller function (values ++ value :: more)).run after =
      (caller function (values ++ [value] ++ more)).run after
    rw [List.append_assoc, List.singleton_append]

/-- The first of some arguments comes before the rest of them, in the terms of `Caller.withMore`. -/
theorem Expr.evalList_cons_withMore (first : Expr) (rest : List Expr) (function : Value)
    (values : List Value) (env : Env) (heap : Heap) :
    (Expr.evalList config caller env (first :: rest) >>= caller.withMore function values).run heap =
      ((first.eval config caller env).proceed fun value =>
        Expr.evalList config caller env rest >>=
          caller.withMore function (values ++ [value])).run heap := by
  simp only [← Caller.withMore_cons]
  rw [EvalM.proceed_run, Expr.evalList, bind_assoc, StateT.run_bind]
  rcases (first.eval config caller env).run heap with ⟨value, after⟩
  cases value <;> rfl

mutual

/-- The steps from an expression lead to its value by `Expr.eval`, if those from calls lead to
theirs. -/
theorem Expr.gives (calls : GivesCalls config depth caller) :
    (tree : Expr) → Gives config depth (Progress.mk (.expression tree)) (tree.eval config caller ·)
  | .int _ _ | .bool _ | .fn _ _ => fun _ _ _ => .single rfl
  | .ident name => by
    intro waiting env heap
    change Reaches config _ ⟨.give ((EvalM.lookup env name).run heap).1, waiting, env, depth,
      ((EvalM.lookup env name).run heap).2⟩
    rw [EvalM.lookup_run]
    exact .head rfl (lookup_reaches name env.chain waiting ⟨env, depth, heap⟩)
  | .unary op operand => .step (fun _ _ => rfl) <|
      (operand.gives calls).proceed (fun _ => rfl) fun _ => .give _
  | .binary op left right => .step (fun _ _ => rfl) <|
      (left.gives calls).proceed (fun _ => rfl) fun _ =>
        (right.gives calls).proceed (fun _ => rfl) fun _ => .give _
  | .cond condition consequence none => by
    refine .step (fun _ _ => rfl) <| (condition.gives calls).proceed (fun _ => rfl) fun value => ?_
    simp only [Waiting.resume_branches]
    split
    · exact Stmt.givesList calls consequence .null
    · exact .give _
  | .cond condition consequence (some alternative) => by
    refine .step (fun _ _ => rfl) <| (condition.gives calls).proceed (fun _ => rfl) fun value => ?_
    simp only [Waiting.resume_branches]
    split
    · exact Stmt.givesList calls consequence .null
    · exact Stmt.givesList calls alternative .null
  | .call callee arguments => .step (fun _ _ => rfl) <|
      (callee.gives calls).proceed (fun _ => rfl) fun function =>
        Expr.givesList calls arguments function []

/-- The steps from the arguments of a call lead to what the call comes to, or to the first error
among them. -/
theorem Expr.givesList (calls : GivesCalls config depth caller) :
    (trees : List Expr) → (function : Value) → (values : List Value) →
    Gives config depth (Progress.mk (.arguments function values trees)) fun env =>
      Expr.evalList config caller env trees >>= caller.withMore function values
  | [], function, values => by
    refine .step (fun _ _ => rfl) ((calls function values).congr fun _ _ => ?_)
    change _ = (caller function (values ++ [])).run _
    rw [List.append_nil]
  | first :: rest, function, values => by
    have inTurn : Gives config depth
        (fun waiting machine =>
          ⟨.expression first, .argument function values rest :: waiting, machine⟩)
        fun env => (first.eval config caller env).proceed fun value =>
          Expr.evalList config caller env rest >>= caller.withMore function (values ++ [value]) :=
      (first.gives calls).proceed (fun _ => rfl) fun value =>
        Expr.givesList calls rest function (values ++ [value])
    refine .step (fun _ _ => rfl) (inTurn.congr fun env heap => ?_)
    exact (Expr.evalList_cons_withMore first rest function values env heap).symm

/-- The steps from a statement lead to its value by `Stmt.eval`. -/
theorem Stmt.gives (calls : GivesCalls config depth caller) :
    (tree : Stmt) → Gives config depth (Progress.mk (.statement tree)) (tree.eval config caller ·)
  | .letStmt _ value => .step (fun _ _ => rfl) <|
      (value.gives calls).proceed (fun _ => rfl) fun _ _ _ _ => .refl
  | .returnStmt none => .step (fun _ _ => rfl) (.give _)
  | .returnStmt (some value) => .step (fun _ _ => rfl) <|
      (value.gives calls).proceed (fun _ => rfl) fun _ => .give _
  | .exprStmt value => .step (fun _ _ => rfl) (value.gives calls)

/-- The steps from the statements of a block lead to the value of the last of them that is reached.
-/
theorem Stmt.givesList (calls : GivesCalls config depth caller) :
    (trees : List Stmt) → (last : Value) →
    Gives config depth (Progress.mk (.statements last trees))
      (Stmt.evalList config caller · last trees)
  | [], last => .step (fun _ _ => rfl) (.give last)
  | first :: rest, _ => by
    refine .step (fun _ _ => rfl) <| (first.gives calls).bind fun value => ?_
    cases value with
    | error cause | returned value => exact .give _
    | _ => exact Stmt.givesList calls rest _

end

/-- The steps from the statements of a program lead to its value, by `Program.evalFrom`. -/
theorem Program.givesFrom (calls : GivesCalls config depth caller) (trees : List Stmt)
    (last : Value) : Gives config depth (Progress.mk (.program last trees))
      (Program.evalFrom config caller · last trees) := by
  induction trees generalizing last with
  | nil => exact .step (fun _ _ => rfl) (.give last)
  | cons first rest ih =>
    refine .step (fun _ _ => rfl) <| (first.gives calls).bind fun value => ?_
    cases value with
    | error cause | returned value => exact .give _
    | _ => exact ih _

/-- The steps from a node lead to its value, and there they end, as nothing waits any more. -/
theorem Node.reaches (calls : GivesCalls config depth caller) (node : Node) (env : Env)
    (heap : Heap) :
    Reaches config (node.start ⟨env, depth, heap⟩)
      ⟨.give ((node.eval config caller env).run heap).1, [],
        ⟨env, depth, ((node.eval config caller env).run heap).2⟩⟩ := by
  cases node with
  | program tree => exact Program.givesFrom calls tree.statements .null [] env heap
  | block tree => exact (Stmt.givesList calls tree .null).unwrap [] env heap
  | statement tree => exact (tree.gives calls).unwrap [] env heap
  | expression tree => exact tree.gives calls [] env heap

end Trees

/-! ## Calls -/

section Calls

variable {config : Config}

/-- The end of a call takes a return off the value of the body, and puts back what the call
replaced. -/
theorem Waiting.receive_leaving (outer inner : Env) (depth : Nat) (heap : Heap)
    (waiting : List Waiting) (value : Value) :
    (leaving outer).receive config waiting ⟨inner, depth + 1, heap⟩ value =
      ⟨.give value.unwrap, waiting, ⟨outer, depth, heap⟩⟩ := by
  cases value <;> rfl

/-- The steps from a call lead to its value if those from a body do, with one more open call. -/
theorem Value.call_gives_of_bodies {depth : Nat}
    (bodies : depth < config.maxCallDepth → ∀ body, Gives config (depth + 1)
      (Progress.mk (.statements .null body)) (Block.eval config (call config
        (config.maxCallDepth - (depth + 1))) · body)) :
    GivesCalls config depth (call config (config.maxCallDepth - depth)) := by
  intro function arguments waiting env heap
  rw [call_sub]
  cases function with
  | function parameters body defined =>
    by_cases wrong : parameters.length ≠ arguments.length
    · refine .head (congrArg some (start_of_arity_ne wrong)) ?_
      simp only [callWith, if_pos wrong]
      exact .refl
    · by_cases below : depth < config.maxCallDepth
      · -- The call is opened, the body comes to its value, and the call ends.
        refine .head (congrArg some (start_of_lt wrong below)) ?_
        refine (bodies below body _ _ _).tail ?_
        simp only [Next, Progress.step, Waiting.receive_leaving, callWith, if_neg wrong,
          if_pos below]
        rfl
      · refine .head (congrArg some (start_of_le wrong (Nat.le_of_not_lt below))) ?_
        simp only [callWith, if_neg wrong, if_neg below]
        exact .refl
  | _ => exact .single rfl

/-- The steps from a call lead to its value: by induction on the calls that the limit still allows.
-/
theorem Value.call_gives (config : Config) (depth : Nat) :
    GivesCalls config depth (call config (config.maxCallDepth - depth)) := by
  induction left_eq : config.maxCallDepth - depth generalizing depth with
  | zero =>
    rw [← left_eq]
    exact call_gives_of_bodies fun below => by omega
  | succ left ih =>
    rw [← left_eq]
    refine call_gives_of_bodies fun below body => ?_
    have less : config.maxCallDepth - (depth + 1) = left := by omega
    rw [less]
    exact Stmt.givesList (ih (depth + 1) less) body .null

/-! ## Runs -/

/-- **What holds throughout an evaluation** that starts with some calls open: the machine counts the
calls that have been opened since, there are never more of them than the limit, and at the limit a
function is refused whatever its body is. -/
structure Progress.Limited (config : Config) (outside : Nat) (progress : Progress) : Prop where
  depth_eq : progress.machine.depth = outside + progress.openCalls
  depth_le : progress.machine.depth ≤ config.maxCallDepth
  refuses : progress.machine.depth = config.maxCallDepth → ∀ parameters body env arguments,
    progress.focus = .call (.function parameters body env) arguments →
    parameters.length = arguments.length → ∃ cause : RuntimeError,
      cause.message = "maximum call depth of " ++ toString config.maxCallDepth ++ " exceeded" ∧
      progress.step config = some { progress with focus := .give (.error cause) }

/-- At the limit a call is refused, and the step that refuses it opens nothing. -/
theorem Progress.step_of_full {progress : Progress} {parameters : List String} {body : Block}
    {env : Env} {arguments : List Value} (full : progress.machine.depth = config.maxCallDepth)
    (calls : progress.focus = .call (.function parameters body env) arguments)
    (arity : parameters.length = arguments.length) :
    progress.step config =
      some { progress with focus := .give (.error (.callsTooDeep config.maxCallDepth)) } := by
  obtain ⟨focus, waiting, machine⟩ := progress
  cases calls
  exact congrArg some (Value.start_of_le (not_not_intro arity) (Nat.le_of_eq full.symm))

/-- No step opens a call that is not counted, or one above the limit: `Progress.Limited` at the
start holds throughout. -/
theorem Progress.Reaches.limited {start progress : Progress} {outside : Nat}
    (reaches : Reaches config start progress) (within : outside ≤ config.maxCallDepth)
    (depth : start.machine.depth = outside) (outermost : start.openCalls = 0) :
    progress.Limited config outside := by
  have counted : progress.machine.depth = outside + progress.openCalls ∧
      progress.machine.depth ≤ config.maxCallDepth := by
    induction reaches with
    | refl => exact ⟨by rw [depth, outermost, Nat.add_zero], depth ▸ within⟩
    | tail _ step ih =>
      obtain same | ⟨below, more, opened⟩ | ⟨less, closed⟩ := step.openCalls_cases
      · rw [same.depth_eq, same.openCalls_eq]
        exact ih
      · omega
      · omega
  exact ⟨counted.1, counted.2, fun full _ _ _ _ calls arity =>
    ⟨_, rfl, step_of_full full calls arity⟩⟩

namespace Node

/-- **Every evaluation ends**, whatever functions the bindings hold and whatever these call. Step by
step there is but one way, it cannot go on for ever, and it leads to the value and the bindings that
the node comes to, with as many calls open as before. On the way the open calls are counted and stay
within the limit, so a counter that can hold the limit does not overflow; at the limit a function is
refused, and its body is not evaluated. -/
theorem evaluation_ends (config : Config) (node : Node) (machine : Machine)
    (within : machine.depth ≤ config.maxCallDepth) :
    let result := (node.eval config (Value.call config (config.maxCallDepth - machine.depth))
      machine.env).run machine.heap
    Acc (fun next before => Next config before next) (node.start machine) ∧
    Reaches config (node.start machine) ⟨.give result.1, [], { machine with heap := result.2 }⟩ ∧
    ∀ progress, Reaches config (node.start machine) progress →
      progress.Limited config machine.depth := by
  intro result
  have reaches : Reaches config (node.start machine)
      ⟨.give result.1, [], { machine with heap := result.2 }⟩ :=
    node.reaches (Value.call_gives config machine.depth) machine.env machine.heap
  refine ⟨reaches.acc rfl, reaches, fun progress reached => reached.limited within ?_ ?_⟩
  · cases node <;> rfl
  · cases node <;> rfl

/-- The function `f` of `let f = fn() { f() }; f()` calls itself without end. Under a limit of two
calls the program ends with an error, outside all calls, and nothing is left to be done. -/
theorem endless_recursion_ends :
    let config : Config := { maxCallDepth := 2 }
    let call : Expr := .call (.ident "f") []
    let node : Node := .program
      ⟨[.letStmt "f" (.fn [] [.exprStmt call]), .exprStmt call]⟩
    let machine : Machine := ⟨(Heap.empty.newScope []).1, 0, (Heap.empty.newScope []).2⟩
    machine.depth ≤ config.maxCallDepth ∧
      Acc (fun next before => Next config before next) (node.start machine) ∧
      ∃ after, Reaches config (node.start machine) ⟨.give (.error (.callsTooDeep 2)), [], after⟩ ∧
        after.depth = 0 := by
  intro config call node machine
  have within : machine.depth ≤ config.maxCallDepth := by decide
  obtain ⟨ends, reaches, -⟩ := evaluation_ends config node machine within
  have value : ((node.eval config (Value.call config (config.maxCallDepth - machine.depth))
      machine.env).run machine.heap).1 = .error (.callsTooDeep 2) := rfl
  rw [value] at reaches
  exact ⟨within, ends, _, reaches, rfl⟩

end Node

end Calls

end Monkey
