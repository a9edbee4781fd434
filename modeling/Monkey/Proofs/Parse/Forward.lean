import Monkey.Parse.Program
import Monkey.Proofs.Parse.Outcome
import Monkey.Proofs.Token.Reach

/-! # Readers move forward

Whether a reader succeeds or fails, and whatever the rules, it stops at the place where it started
or further on (`Forward`). The same goes for recovery (`Cursor.reaches_recover`). So all that is
ever read of a stream are its own tokens, and what is left of it gets less. There is one law for
each primitive step and one lemma for each reader; `expression_forward` goes by induction on the
bound. -/

namespace Monkey

namespace ParseM

variable {α β : Type}

/-- The place where a reader stopped, whether with a value or with an error. -/
def place : EStateM.Result ParseError Cursor α → Cursor
  | .ok _ last => last
  | .error _ last => last

/-- A reader that stops where it started or further on, in the sense of `Cursor.Reaches`. -/
def Forward (reader : ParseM α) : Prop :=
  ∀ cursor : Cursor, cursor.Reaches (place (reader cursor))

namespace Forward

variable {reader : ParseM α} {next : α → ParseM β}

/-- A reader that only makes a value stays where it is. -/
theorem pure (value : α) : Forward (Pure.pure value) := fun _ => .here

/-- A reader that only fails stays where it is. -/
theorem throw (error : ParseError) : Forward (MonadExcept.throw error : ParseM α) := fun _ => .here

/-- A reader that only moves on moves once, or not at all at the end of the input. -/
theorem advance : Forward Parse.advance := fun _ => .advance

/-- To look at the current token with `Parse.current` is no move. -/
theorem current : Forward Parse.current := fun _ => .here

/-- To look at the token after it with `Parse.peek` is no move either. -/
theorem peek : Forward Parse.peek := fun _ => .here

/-- Readers in turn move forward if each of them does; where the first fails it is as if there were
no second. -/
theorem bind (first : Forward reader) (second : ∀ value, Forward (next value)) :
    Forward (reader >>= next) := by
  intro cursor
  have way := first cursor
  cases run : reader cursor with
  | ok value last =>
    rw [run] at way
    rw [bind_ok run]
    exact way.trans (second value last)
  | error error last =>
    rw [run] at way
    rw [bind_error run]
    exact way

/-- A choice moves forward if both sides of it do, whatever the condition. -/
theorem ite {condition : Prop} [Decidable condition] {other : ParseM α} (first : Forward reader)
    (second : Forward other) : Forward (if condition then reader else other) := by
  split
  · exact first
  · exact second

/-- The next token is passed if it is the expected one; otherwise `Parse.expect` does not move. -/
theorem expect (kind : TokenKind) : Forward (Parse.expect kind) :=
  peek.bind fun _ => .ite (advance.bind fun _ => pure _) (throw _)

/-- The next token is passed if it is a semicolon; otherwise `Parse.skipSemicolon` does not move. -/
theorem skipSemicolon : Forward Parse.skipSemicolon :=
  peek.bind fun _ => .ite advance (pure _)

end Forward

end ParseM

namespace Parse

open ParseM

section

variable {inner : ExprReader} (forward : ∀ floor, Forward (inner floor))

include forward

/-- A `statement` moves forward if its expressions do: one case for each kind of statement. -/
theorem statement_forward : Forward (statement inner) := by
  have valued (make : Expr → Stmt) : Forward (do
      let value ← inner .lowest
      skipSemicolon
      return make value) :=
    (forward _).bind fun _ => Forward.skipSemicolon.bind fun _ => .pure _
  -- Each form moves by single tokens and by its value.
  refine Forward.current.bind fun token => ?_
  split
  · exact (Forward.expect _).bind fun name => (Forward.expect _).bind fun _ =>
      Forward.advance.bind fun _ => valued (.letStmt name.literal)
  · refine Forward.peek.bind fun token => ?_
    split
    · exact Forward.advance.bind fun _ => .pure _
    · exact .pure _
    · exact .pure _
    · exact Forward.advance.bind fun _ => valued fun value => .returnStmt (some value)
  · exact valued .exprStmt

/-- The `statements` of a block move forward if their expressions do, by induction on the bound. -/
theorem statements_forward (bound : Nat) : Forward (statements inner bound) := by
  induction bound with
  | zero => exact Forward.current.bind fun _ => .throw _
  | succ bound ih =>
    refine Forward.current.bind fun token => ?_
    split
    · exact .pure _
    · exact .throw _
    · exact (statement_forward forward).bind fun _ => Forward.advance.bind fun _ =>
        ih.bind fun _ => .pure _

/-- A `block` moves forward if its expressions do, from before its opening brace. -/
theorem block_forward (bound : Nat) : Forward (block inner bound) :=
  (Forward.expect _).bind fun _ => Forward.advance.bind fun _ => statements_forward forward bound

/-- The arguments after a comma (`moreArguments`) move forward if their expressions do, by induction
on the bound. -/
theorem moreArguments_forward (bound : Nat) : Forward (moreArguments inner bound) := by
  induction bound with
  | zero => exact (Forward.expect _).bind fun _ => .pure _
  | succ bound ih =>
    exact Forward.peek.bind fun _ => .ite
      (Forward.advance.bind fun _ => Forward.advance.bind fun _ => (forward _).bind fun _ =>
        ih.bind fun _ => .pure _)
      ((Forward.expect _).bind fun _ => .pure _)

/-- The `arguments` of a call move forward if their expressions do, with the parenthesis that closes
them. -/
theorem arguments_forward (bound : Nat) : Forward (arguments inner bound) :=
  Forward.peek.bind fun _ => .ite (Forward.advance.bind fun _ => .pure _)
    (Forward.advance.bind fun _ => (forward _).bind fun _ =>
      (moreArguments_forward forward bound).bind fun _ => .pure _)

/-- A conditional moves forward if its expressions do, with an `else` or without one. -/
theorem conditional_forward (bound : Nat) : Forward (conditional inner bound) :=
  (Forward.expect _).bind fun _ => Forward.advance.bind fun _ => (forward _).bind fun _ =>
    (Forward.expect _).bind fun _ => (block_forward forward bound).bind fun _ =>
      Forward.peek.bind fun _ => .ite
        (Forward.advance.bind fun _ => (block_forward forward bound).bind fun _ => .pure _)
        (.pure _)

/-- A `group` moves forward if its expression does, with the parentheses around it. -/
theorem group_forward : Forward (group inner) :=
  Forward.advance.bind fun _ => (forward _).bind fun _ => (Forward.expect _).bind fun _ => .pure _

/-- A `unary` operation moves forward if its operand does, from its sign on. -/
theorem unary_forward (op : UnaryOp) : Forward (unary inner op) :=
  Forward.advance.bind fun _ => (forward _).bind fun _ => .pure _

end

/-- The parameters after a comma (`moreParameters`) move forward, by induction on the bound. -/
theorem moreParameters_forward (bound : Nat) : Forward (moreParameters bound) := by
  induction bound with
  | zero => exact (Forward.expect _).bind fun _ => .pure _
  | succ bound ih =>
    exact Forward.peek.bind fun _ => .ite
      (Forward.advance.bind fun _ => (Forward.expect _).bind fun _ => ih.bind fun _ => .pure _)
      ((Forward.expect _).bind fun _ => .pure _)

/-- The `parameters` of a function move forward, with the parentheses around them. -/
theorem parameters_forward (bound : Nat) : Forward (parameters bound) :=
  (Forward.expect _).bind fun _ => Forward.peek.bind fun _ => .ite
    (Forward.advance.bind fun _ => .pure _)
    ((Forward.expect _).bind fun _ => (moreParameters_forward bound).bind fun _ => .pure _)

/-- An integer literal is one token, which is the current one already, so `integer` does not move.
-/
theorem integer_forward (token : Token) : Forward (integer token) := by
  rw [integer]
  split
  · exact .pure _
  · exact .throw _

namespace Context

variable (context : Context)

/-- To count a level is no move: `descend` succeeds or fails where it stands. -/
theorem descend_forward (depth : Nat) (token : Token) : Forward (context.descend depth token) := by
  rw [descend_eq_checkDepth, checkDepth.eq_def]
  split
  · exact .ite (.throw _) (.pure _)
  · exact .pure _

/-- A registered rule consumes no token: what it answers is put in place of a reader by
`MonadExcept.ofExcept`. -/
theorem rule_forward {α : Type} (result : Except ParseError α) :
    Forward (MonadExcept.ofExcept result : ParseM α) := by
  cases result with
  | ok value => exact .pure value
  | error error => exact .throw error

/-- An `operand` is read forward if the expressions in it are, be it read by a registered rule or by
a built-in one. -/
theorem operand_forward {inner : ExprReader} (forward : ∀ floor, Forward (inner floor))
    (bound : Nat) : Forward (context.operand inner bound) := by
  refine Forward.current.bind fun token => ?_
  split
  · -- A rule of the grammar's own comes before the built-in forms.
    exact rule_forward _
  · split
    · exact .pure _
    · exact integer_forward _
    · exact .pure _
    · exact .pure _
    · exact unary_forward forward _
    · exact unary_forward forward _
    · exact group_forward forward
    · exact conditional_forward forward bound
    · exact (parameters_forward bound).bind fun _ => (block_forward forward bound).bind fun _ =>
        .pure _
    · exact .throw _

/-- Operations move forward if the expressions in them do, whatever the `OperatorAction` at the
operator is. -/
theorem operation_forward {inner : ExprReader} (forward : ∀ floor, Forward (inner floor))
    (bound : Nat) (token : Token) (left : Expr) (action : OperatorAction) :
    Forward (context.operation inner bound token left action) := by
  unfold operation
  split
  · exact rule_forward _
  · exact Forward.advance.bind fun _ => (forward _).bind fun _ => .pure _
  · exact (arguments_forward forward bound).bind fun _ => .pure _

/-- The `operators` behind an operand move forward if the expressions behind them do, by induction
on the bound. -/
theorem operators_forward {reader : Nat → ExprReader}
    (forward : ∀ depth floor, Forward (reader depth floor)) (floor : Precedence) (bound depth : Nat)
    (left : Expr) : Forward (context.operators reader floor bound depth left) := by
  induction bound generalizing depth left with
  | zero => exact .pure _
  | succ bound ih =>
    refine Forward.peek.bind fun token => .ite ?_ (.pure _)
    split
    · exact .pure _
    · exact Forward.advance.bind fun _ => (context.descend_forward _ _).bind fun _ =>
        (context.operation_forward (forward _) _ _ _ _).bind fun _ => ih _ _

/-- An expression moves forward if the expressions in it do: the step lemma for `expressionStep`. -/
theorem expressionStep_forward {reader : Nat → ExprReader}
    (forward : ∀ depth floor, Forward (reader depth floor)) (bound depth : Nat)
    (floor : Precedence) : Forward (context.expressionStep reader bound depth floor) :=
  Forward.current.bind fun _ => (context.descend_forward _ _).bind fun _ =>
    (context.operand_forward (forward _) bound).bind fun _ =>
      context.operators_forward forward _ _ _ _

/-- **Expressions move forward**, whatever the rules, by induction on the bound with which they are
read. -/
theorem expression_forward (bound depth : Nat) (floor : Precedence) :
    Forward (context.expression bound depth floor) := by
  induction bound generalizing depth floor with
  | zero =>
    -- Where the bound is used up, inner expressions only fail.
    exact context.expressionStep_forward (fun _ _ => Forward.current.bind fun _ => .throw _) _ _ _
  | succ bound ih => exact context.expressionStep_forward ih _ _ _

end Context

end Parse

/-- Recovery moves forward, by the recursion of `Cursor.recover`: it stops or goes on from the next
token. -/
theorem Cursor.reaches_recover (rules : Rules) (floor : Nat) (cursor : Cursor) :
    cursor.Reaches (cursor.recover rules floor) := by
  fun_induction recover rules floor cursor with
  | case1 | case2 | case4 => exact .here
  | case3 => exact .advance
  | case5 cursor _ _ _ ih => exact Reaches.advance.trans ih

/-- Behind a statement, broken or not, reading goes on further on: at the token behind a place that
was reached from the start. -/
theorem Grammar.reaches_parseItem {grammar : Grammar} {bound : Nat} {recorded : List ParseError}
    {start next : Cursor} {item : ParsedItem}
    (read : grammar.parseItem bound recorded start = (item, next)) :
    ∃ place, start.Reaches place ∧ next = place.advance := by
  have forward := Parse.statement_forward
    (Parse.Context.expression_forward ⟨grammar, recorded⟩ bound 0) start
  rw [parseItem] at read
  split at read
  · next run =>
    rw [run] at forward
    cases read
    exact ⟨_, forward, rfl⟩
  · next run =>
    rw [run] at forward
    cases read
    exact ⟨_, forward.trans (Cursor.reaches_recover ..), rfl⟩

end Monkey
