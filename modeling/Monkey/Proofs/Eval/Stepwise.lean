import Mathlib.Logic.Relation
import Monkey.Proofs.Eval.Machine

/-! # Evaluation step by step

An evaluator to compare with, which never calls itself. What is still to be done when a value is
there waits in a list, the next thing first (`Waiting`), and a step, `Progress.step`, does one
thing: it starts on a tree, looks into one scope, opens a call, or hands a value to what waits for
it. A call goes on with the body of the function, wherever that comes from and however large it
is. Nothing bounds the number of steps. -/

namespace Monkey

/-- **What an evaluation is at**: a part of a tree that is to be evaluated, or a value that is
there. -/
inductive Focus where
  /-- An expression is to be evaluated next. -/
  | expression (tree : Expr)
  /-- A statement is to be evaluated next. -/
  | statement (tree : Stmt)
  /-- Statements of a block are left; the one before them came to `last`. -/
  | statements (last : Value) (trees : List Stmt)
  /-- Statements of a program are left; the one before them came to `last`. -/
  | program (last : Value) (trees : List Stmt)
  /-- Arguments of a function are left; those before them came to `values`. -/
  | arguments (function : Value) (values : List Value) (trees : List Expr)
  /-- A name is looked for in these scopes. -/
  | lookup (name : String) (scopes : List ScopeId)
  /-- A value is to be called. -/
  | call (function : Value) (arguments : List Value)
  /-- A value is there for what waits. -/
  | give (value : Value)

/-- What comes where a condition does not hold: the other block, or `null` if there is none. -/
def Focus.ofAlternative : Option Block → Focus
  | some alternative => .statements .null alternative
  | none => .give .null

/-- **What waits for a value**, with all that is needed to go on when it is there. -/
inductive Waiting where
  /-- A unary operator waits for its operand. -/
  | unary (op : UnaryOp)
  /-- A binary operator waits for its left operand, with the right one to be evaluated then. -/
  | left (op : BinaryOp) (second : Expr)
  /-- A binary operator waits for its right operand, with the value of the left one. -/
  | right (op : BinaryOp) (first : Value)
  /-- A conditional waits for its condition, with both of its branches. -/
  | branches (consequence : Block) (alternative : Option Block)
  /-- A call waits for its callee, with all arguments to be evaluated then. -/
  | callee (arguments : List Expr)
  /-- A call waits for one of its arguments, with those before it and those to come. -/
  | argument (function : Value) (values : List Value) (rest : List Expr)
  /-- A name is to be bound to the value. -/
  | binding (name : String)
  /-- A value is to be returned, which wraps it. -/
  | returning
  /-- Statements of a block come next, unless the value ends them. -/
  | statements (rest : List Stmt)
  /-- Statements of a program come next, unless the value ends them. -/
  | program (rest : List Stmt)
  /-- One level of return is to be taken off. -/
  | unwrapping
  /-- A call ends, and the environment that it replaced is put back. -/
  | leaving (outer : Env)

/-- **An evaluation under way**: the `Focus` it is at, what is `Waiting`, and the machine it goes
on. -/
structure Progress where
  focus : Focus
  waiting : List Waiting
  machine : Machine

section Steps

variable (config : Config) (waiting : List Waiting) (machine : Machine)

/-- How an evaluation starts on an expression: with its first part, while the rest of it waits. -/
def Expr.start : Expr → Progress
  | .int value _ => ⟨.give (.integer value), waiting, machine⟩
  | .bool value => ⟨.give (.boolean value), waiting, machine⟩
  | .ident name => ⟨.lookup name machine.env.chain, waiting, machine⟩
  | .unary op operand => ⟨.expression operand, .unary op :: waiting, machine⟩
  | .binary op left right => ⟨.expression left, .left op right :: waiting, machine⟩
  | .cond condition consequence alternative =>
    ⟨.expression condition, .branches consequence alternative :: waiting, machine⟩
  | .fn parameters body => ⟨.give (.function parameters body machine.env), waiting, machine⟩
  | .call callee arguments => ⟨.expression callee, .callee arguments :: waiting, machine⟩

/-- How an evaluation starts on a statement: with its expression, while what is to be done with the
value waits. -/
def Stmt.start : Stmt → Progress
  | .letStmt name value => ⟨.expression value, .binding name :: waiting, machine⟩
  | .returnStmt none => ⟨.give (.returned .null), waiting, machine⟩
  | .returnStmt (some value) => ⟨.expression value, .returning :: waiting, machine⟩
  | .exprStmt value => ⟨.expression value, waiting, machine⟩

/-- How an evaluation goes on with a value that is no error, by what was `Waiting` for it. -/
def Waiting.resume (value : Value) : Waiting → Progress
  | .unary op => ⟨.give (op.apply config value), waiting, machine⟩
  | .left op second => ⟨.expression second, .right op value :: waiting, machine⟩
  | .right op first => ⟨.give (op.apply config first value), waiting, machine⟩
  | .branches consequence alternative =>
    ⟨if value.isTruthy then .statements .null consequence else .ofAlternative alternative, waiting,
      machine⟩
  | .callee arguments => ⟨.arguments value [] arguments, waiting, machine⟩
  | .argument function values rest =>
    ⟨.arguments function (values ++ [value]) rest, waiting, machine⟩
  | .binding name =>
    ⟨.give .null, waiting, { machine with heap := machine.heap.set machine.env name value }⟩
  | .returning => ⟨.give (.returned value), waiting, machine⟩
  | .statements rest =>
    ⟨if value.ends then .give value else .statements value rest, waiting, machine⟩
  | .program rest =>
    ⟨if value.ends then .give value.unwrap else .program value rest, waiting, machine⟩
  | .unwrapping | .leaving _ => ⟨.give value.unwrap, waiting, machine⟩

/-- A condition decides where to go on: `Value.isTruthy` of it selects the branch. -/
theorem Waiting.resume_branches (value : Value) (consequence : Block) (alternative : Option Block) :
    (branches consequence alternative).resume config waiting machine value =
      ⟨if value.isTruthy then .statements .null consequence else .ofAlternative alternative,
        waiting, machine⟩ := rfl

/-- The end of a call, `leaving`, puts back the environment and the number of open calls; nothing
else that waits replaced any. -/
def Waiting.restore : Waiting → Machine
  | .leaving outer => { machine with env := outer, depth := machine.depth - 1 }
  | _ => machine

/-- How an evaluation goes on with a value: by `resume`; an error is handed on, whatever waits for
it, and the ends of calls put back what they replaced. -/
def Waiting.receive (first : Waiting) : Value → Progress
  | .error cause => ⟨.give (.error cause), waiting, first.restore machine⟩
  | value => first.resume config waiting (first.restore machine) value

/-- **How a call starts.** The callee has to be a function, the number of its arguments has to be
right, and only then there has to be a call left. -/
def Value.start : Value → List Value → Progress
  | .function parameters body env, arguments =>
    if parameters.length ≠ arguments.length then
      ⟨.give (.error (.wrongArity parameters.length arguments.length)), waiting, machine⟩
    else if config.maxCallDepth ≤ machine.depth then
      ⟨.give (.error (.callsTooDeep config.maxCallDepth)), waiting, machine⟩
    else
      let inner := (machine.heap.newScope env.chain).1
      let heap := (machine.heap.newScope env.chain).2
      let bound := ((EvalM.bindNames inner parameters arguments).run heap).2
      ⟨.statements .null body, .leaving machine.env :: waiting, ⟨inner, machine.depth + 1, bound⟩⟩
  | callee, _ => ⟨.give (.error (.notCallable callee.kind)), waiting, machine⟩

section Functions

variable {config waiting machine} {parameters : List String} {body : Block} {env : Env}
  {arguments : List Value}

/-- The number of arguments comes first, before the limit is looked at, and the error is
`RuntimeError.wrongArity`. -/
theorem Value.start_of_arity_ne (wrong : parameters.length ≠ arguments.length) :
    (function parameters body env).start config waiting machine arguments =
      ⟨.give (.error (.wrongArity parameters.length arguments.length)), waiting, machine⟩ :=
  if_pos wrong

/-- At the limit of open calls a function is refused, with `RuntimeError.callsTooDeep`. -/
theorem Value.start_of_le (arity : ¬parameters.length ≠ arguments.length)
    (full : config.maxCallDepth ≤ machine.depth) :
    (function parameters body env).start config waiting machine arguments =
      ⟨.give (.error (.callsTooDeep config.maxCallDepth)), waiting, machine⟩ := by
  rw [start, if_neg arity, if_pos full]

/-- Below the limit the body of a function is entered, in a new scope (`Heap.newScope`) and with one
more open call. -/
theorem Value.start_of_lt (arity : ¬parameters.length ≠ arguments.length)
    (below : machine.depth < config.maxCallDepth) :
    (function parameters body env).start config waiting machine arguments =
      let inner := (machine.heap.newScope env.chain).1
      let heap := (machine.heap.newScope env.chain).2
      let bound := ((EvalM.bindNames inner parameters arguments).run heap).2
      ⟨.statements .null body, .leaving machine.env :: waiting,
        ⟨inner, machine.depth + 1, bound⟩⟩ := by
  rw [start, if_neg arity, if_neg (Nat.not_le_of_lt below)]

end Functions

/-- **One step**; there is none when a value is there and nothing waits for it. -/
def Progress.step : Progress → Option Progress
  | ⟨.expression tree, waiting, machine⟩ => some (tree.start waiting machine)
  | ⟨.statement tree, waiting, machine⟩ => some (tree.start waiting machine)
  | ⟨.statements last [], waiting, machine⟩ => some ⟨.give last, waiting, machine⟩
  | ⟨.statements _ (first :: rest), waiting, machine⟩ =>
    some ⟨.statement first, .statements rest :: waiting, machine⟩
  | ⟨.program last [], waiting, machine⟩ => some ⟨.give last, waiting, machine⟩
  | ⟨.program _ (first :: rest), waiting, machine⟩ =>
    some ⟨.statement first, .program rest :: waiting, machine⟩
  | ⟨.arguments function values [], waiting, machine⟩ =>
    some ⟨.call function values, waiting, machine⟩
  | ⟨.arguments function values (first :: rest), waiting, machine⟩ =>
    some ⟨.expression first, .argument function values rest :: waiting, machine⟩
  | ⟨.lookup name [], waiting, machine⟩ =>
    some ⟨.give (.error (.unboundName name)), waiting, machine⟩
  | ⟨.lookup name (nearest :: outer), waiting, machine⟩ =>
    match (machine.heap.scope nearest)[name]? with
    | some value => some ⟨.give value, waiting, machine⟩
    | none => some ⟨.lookup name outer, waiting, machine⟩
  | ⟨.call function arguments, waiting, machine⟩ =>
    some (function.start config waiting machine arguments)
  | ⟨.give value, first :: waiting, machine⟩ => some (first.receive config waiting machine value)
  | ⟨.give _, [], _⟩ => none

/-- How an evaluation starts on a node; at blocks and statements a level of return is to be taken
off in the end, by `unwrapping`. -/
def Node.start : Node → Progress
  | .program tree => ⟨.program .null tree.statements, [], machine⟩
  | .block tree => ⟨.statements .null tree, [.unwrapping], machine⟩
  | .statement tree => ⟨.statement tree, [.unwrapping], machine⟩
  | .expression tree => ⟨.expression tree, [], machine⟩

end Steps

namespace Progress

variable {config : Config}

/-- One state of an evaluation comes right after another one, by `Progress.step`. -/
def Next (config : Config) (progress next : Progress) : Prop := progress.step config = some next

/-- A state of an evaluation comes some steps after another one, or none. -/
abbrev Reaches (config : Config) : Progress → Progress → Prop := Relation.ReflTransGen (Next config)

/-- An evaluation that `Reaches` an end cannot go on for ever: there is but one way, and it ends. -/
theorem Reaches.acc {progress last : Progress} (reaches : Reaches config progress last)
    (ends : last.step config = none) :
    Acc (fun next before => Next config before next) progress := by
  induction reaches using Relation.ReflTransGen.head_induction_on with
  | refl =>
    refine ⟨_, fun next step => ?_⟩
    rw [Next, ends] at step
    cases step
  | head step _ ih =>
    refine ⟨_, fun next other => ?_⟩
    cases step.symm.trans other
    exact ih

/-- How many calls are open by what waits: as many as there are ends of calls, `leaving`, among
that. -/
def openCalls (progress : Progress) : Nat :=
  progress.waiting.countP fun
    | .leaving _ => true
    | _ => false

end Progress

end Monkey
