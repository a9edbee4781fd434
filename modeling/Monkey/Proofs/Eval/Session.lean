import Monkey.Eval.Evaluator
import Monkey.Proofs.Parse.Concatenation

/-! # Sessions

Programs that are evaluated one after the other in one environment. Between two statements there
is nothing but the bindings, so a program may be split anywhere, and its parts come to what the
whole comes to, as long as no return and no error stops it in the first part (`Program.stops`).
With sources it is the same where the first one is closed off: `Program.session_eq_batch`. -/

namespace Monkey

namespace Program

section Statements

variable (config : Config) (call : Caller) (env : Env)

/-- Whether one of some statements that is reached comes to a return or an error, from the bindings
that those before it leave. -/
def stopsFrom (heap : Heap) : List Stmt → Bool
  | [] => false
  | first :: rest =>
    let (value, after) := (first.eval config call env).run heap
    value.ends || stopsFrom after rest

/-- **Whether a program stops early**, at a return or an error, from some bindings. -/
def stops (heap : Heap) (program : Program) : Bool :=
  stopsFrom config call env heap program.statements

variable {config call env} {heap : Heap}

/-- Statements that stop are followed by no others, and others go on with the value and the bindings
that they come to: `Program.evalFrom` of a list in two parts. -/
theorem evalFrom_append (last : Value) (trees more : List Stmt) :
    (evalFrom config call env last (trees ++ more)).run heap =
      if stopsFrom config call env heap trees then (evalFrom config call env last trees).run heap
      else
        let (value, after) := (evalFrom config call env last trees).run heap
        (evalFrom config call env value more).run after := by
  induction trees generalizing last heap with
  | nil => rfl
  | cons first rest ih =>
    rw [List.cons_append, evalFrom_run, evalFrom_run, stopsFrom]
    rcases (first.eval config call env).run heap with ⟨value, after⟩
    cases value with
    | returned value | error cause => rfl
    | _ => exact ih _

/-- What was there before, `last` or `other`, does not matter to the value of a program with a
statement. -/
theorem evalFrom_eq_of_ne_nil {trees : List Stmt} (some_statement : trees ≠ [])
    (last other : Value) :
    evalFrom config call env last trees = evalFrom config call env other trees := by
  cases trees with
  | nil => exact absurd rfl some_statement
  | cons first rest => rfl

/-- What was there before never matters to the bindings, also where there is no statement. -/
theorem snd_evalFrom (trees : List Stmt) (last other : Value) :
    ((evalFrom config call env last trees).run heap).2 =
      ((evalFrom config call env other trees).run heap).2 := by
  cases trees <;> rfl

variable {left right : Program}

/-- A program that stops early is followed by nothing: the whole comes to what it alone comes to. -/
theorem eval_append_of_stops (early : left.stops config call env heap = true) :
    (eval config call env ⟨left.statements ++ right.statements⟩).run heap =
      (left.eval config call env).run heap := by
  rw [stops] at early
  rw [eval, evalFrom_append, if_pos early, eval]

/-- A program that does not stop leaves its bindings to the next one, which gives the value if it
has a statement. -/
theorem eval_append_of_not_stops (late : ¬left.stops config call env heap = true) :
    ((eval config call env ⟨left.statements ++ right.statements⟩).run heap).2 =
        ((right.eval config call env).run ((left.eval config call env).run heap).2).2 ∧
      (right.statements ≠ [] →
        ((eval config call env ⟨left.statements ++ right.statements⟩).run heap).1 =
          ((right.eval config call env).run ((left.eval config call env).run heap).2).1) := by
  rw [stops] at late
  rw [eval, evalFrom_append, if_neg late]
  constructor
  · exact snd_evalFrom _ _ _
  · intro some_statement
    change ((evalFrom config call env _ right.statements).run _).1 = _
    rw [evalFrom_eq_of_ne_nil some_statement _ .null]
    rfl

end Statements

/-- **Two sources that are read and evaluated one after the other** come to what they come to
together, where the last token of the first one is a semicolon, if it has a token. Together they are
read without an error. If the first program stops early, the whole comes to the same as that program
alone; if it does not, the whole comes to the bindings that the second one leaves, and to the value
of the second one if that has a statement. -/
theorem session_eq_batch {first second : String} {left right : Program}
    (readFirst : parse first = .ok left) (readSecond : parse second = .ok right)
    (closed : ∀ token ∈ (TokenStream.ofSource first).tokens.getLast?, token.kind = .semicolon) :
    ∃ whole, parse (first ++ second) = .ok whole ∧
      ∀ (config : Config) (calls : Nat) (env : Env) (heap : Heap),
        let caller := Value.call config calls
        let alone := (left.eval config caller env).run heap
        let next := (right.eval config caller env).run alone.2
        let together := (whole.eval config caller env).run heap
        if left.stops config caller env heap then together = alone
        else together.2 = next.2 ∧ (right.statements ≠ [] → together.1 = next.1) := by
  refine ⟨_, parse_concat readFirst readSecond closed, fun config calls env heap => ?_⟩
  by_cases early : left.stops config (Value.call config calls) env heap = true
  · rw [if_pos early]
    exact eval_append_of_stops early
  · rw [if_neg early]
    exact eval_append_of_not_stops early

/-- A function that is defined in one source can be called in the next. -/
theorem session_calls_function :
    let left : Program := ⟨[.letStmt "f" (.fn ["x"] [.exprStmt (.ident "x")])]⟩
    let right : Program := ⟨[.exprStmt (.call (.ident "f") [.int 2 "2"])]⟩
    let env := (Heap.empty.newScope []).1
    let heap := (Heap.empty.newScope []).2
    let caller := Value.call .standard 256
    parse "let f = fn(x) \x7b x \x7d;" = .ok left ∧ parse "f(2)" = .ok right ∧
      (∀ token ∈ (TokenStream.ofSource "let f = fn(x) \x7b x \x7d;").tokens.getLast?,
        token.kind = .semicolon) ∧
      left.stops .standard caller env heap = false ∧
      ∃ whole, parse ("let f = fn(x) \x7b x \x7d;" ++ "f(2)") = .ok whole ∧
        ((whole.eval .standard caller env).run heap).1 = .integer 2 := by
  intro left right env heap caller
  have named : IsName "f" := by decide
  have two : IsLiteral 2 "2" := ⟨by decide, by decide⟩
  have inner : IsName "x" := by decide
  have letWritable : left.Writable :=
    ⟨⟨named, List.forall_mem_singleton.2 inner, inner, trivial⟩, trivial⟩
  have readFirst : parse "let f = fn(x) \x7b x \x7d;" = .ok left :=
    (parse_render letWritable).1 (by decide)
  have callWritable : right.Writable := ⟨⟨named, two, trivial⟩, trivial⟩
  have readSecond : parse "f(2)" = .ok right := (parse_render callWritable).1 (by decide)
  have closed : ∀ token ∈ (TokenStream.ofSource "let f = fn(x) \x7b x \x7d;").tokens.getLast?,
      token.kind = .semicolon := by decide +kernel
  have late : left.stops .standard caller env heap = false := rfl
  obtain ⟨whole, readWhole, same⟩ := session_eq_batch readFirst readSecond closed
  have after := same .standard 256 env heap
  rw [if_neg (by rw [late]; decide)] at after
  refine ⟨readFirst, readSecond, closed, late, whole, readWhole, ?_⟩
  exact (after.2 (by decide)).trans rfl

end Program

end Monkey
