import Monkey.Parse.Expression

/-! # Outcomes of readers

How a reader made of two readers ends (`bind_ok`, `bind_error`, `bind_eq_ok_iff`), and what the
loop of operators does at the next token (`operators_of_not_lt`, `operators_of_lt`). A reader
whose only way to fail is the nesting limit `Leads` to where it would go without one: it gets
there if the expressions on its way fit `Within` the limit, and otherwise it fails because they
nest too deep. -/

namespace Monkey

/-- Whether an error is that expressions nest too deep, which no other error than `nestingTooDeep`
says. -/
def ParseError.isTooDeep : ParseError → Bool
  | .nestingTooDeep .. => true
  | _ => false

/-- A depth that a nesting limit allows; without a limit all are allowed. -/
def Within (limit : Option Nat) (depth : Nat) : Prop := ∀ most ∈ limit, depth ≤ most

namespace Within

variable {limit : Option Nat} {depth other : Nat}

/-- A limit allows the depths up to it, with the limit itself. -/
theorem some_iff {most : Nat} : Within (some most) depth ↔ depth ≤ most :=
  ⟨fun within => within most rfl, fun le _ limited => Option.some.inj limited ▸ le⟩

/-- No depth at all is always allowed, whatever the limit. -/
theorem zero : Within limit 0 := fun _ _ => Nat.zero_le _

/-- What is allowed at a depth is allowed above it, at any depth that is less. -/
theorem mono (within : Within limit other) (le : depth ≤ other) : Within limit depth :=
  fun most limited => Nat.le_trans le (within most limited)

/-- The deeper of two depths decides: both are `Within` the limit if their maximum is. -/
theorem max_iff : Within limit (max depth other) ↔ Within limit depth ∧ Within limit other :=
  ⟨fun within => ⟨within.mono (Nat.le_max_left ..), within.mono (Nat.le_max_right ..)⟩,
    fun ⟨left, right⟩ most limited => Nat.max_le.2 ⟨left most limited, right most limited⟩⟩

/-- A count of levels from one level deeper on is a count of one level more from here on. -/
theorem deeper_iff : Within limit (depth + (other + 1)) ↔ Within limit (depth + 1 + other) := by
  rw [Nat.add_comm other, Nat.add_assoc]

/-- The deeper of two counts of levels, from the same depth on, decides. -/
theorem add_max_iff {more : Nat} :
    Within limit (depth + max other more) ↔
      Within limit (depth + other) ∧ Within limit (depth + more) := by
  rw [← Nat.add_max_add_left, max_iff]

/-- Levels below a level that is counted are allowed only if it is, so only the sum has to be looked
at. -/
theorem below_iff {taken more : Nat} :
    Within limit (depth + taken + 1) ∧ Within limit (depth + taken + 1 + more) ↔
      Within limit (depth + (taken + 1 + more)) := by
  have same : depth + (taken + 1 + more) = depth + taken + 1 + more := by omega
  rw [same, and_iff_right_iff_imp]
  exact fun within => within.mono (Nat.le_add_right ..)

end Within

namespace ParseM

open Parse

variable {α β : Type} {reader : ParseM α} {next : α → ParseM β}

/-- After a value the next reader goes on: `bind` where the first reader succeeds. -/
theorem bind_ok {cursor place : Cursor} {value : α} (run : reader cursor = .ok value place) :
    (reader >>= next) cursor = next value place := by
  show EStateM.bind reader next cursor = _
  rw [EStateM.bind, run]

/-- After an error nothing goes on: `bind` where the first reader fails. -/
theorem bind_error {cursor place : Cursor} {error : ParseError}
    (run : reader cursor = .error error place) :
    (reader >>= next) cursor = .error error place := by
  show EStateM.bind reader next cursor = _
  rw [EStateM.bind, run]

/-- Two readers in turn succeed when the first succeeds and the second does from there on. -/
theorem bind_eq_ok_iff {cursor last : Cursor} {result : β} :
    (reader >>= next) cursor = .ok result last ↔
      ∃ value place, reader cursor = .ok value place ∧ next value place = .ok result last := by
  constructor
  · intro run
    cases first : reader cursor with
    | ok value place => exact ⟨value, place, rfl, by rwa [bind_ok first] at run⟩
    | error error place => rw [bind_error first] at run; cases run
  · rintro ⟨value, place, first, second⟩
    rw [bind_ok first, second]

@[simp] theorem pure_apply (value : α) (cursor : Cursor) :
    (pure value : ParseM α) cursor = .ok value cursor := rfl

@[simp] theorem throw_apply (error : ParseError) (cursor : Cursor) :
    (throw error : ParseM α) cursor = .error error cursor := rfl

/-! ### Steps before a reader -/

@[simp] theorem current_bind (next : Token → ParseM β) (cursor : Cursor) :
    (current >>= next) cursor = next cursor.current cursor := rfl

@[simp] theorem peek_bind (next : Token → ParseM β) (cursor : Cursor) :
    (peek >>= next) cursor = next cursor.peek cursor := rfl

@[simp] theorem advance_bind (next : Unit → ParseM β) (cursor : Cursor) :
    (advance >>= next) cursor = next () cursor.advance := rfl

/-- Where reading goes on behind a statement whose last token is the current one: a semicolon that
follows is passed. -/
def behindSemicolon (cursor : Cursor) : Cursor :=
  if cursor.peek.kind = .semicolon then cursor.advance else cursor

@[simp] theorem skipSemicolon_bind (next : Unit → ParseM β) (cursor : Cursor) :
    (skipSemicolon >>= next) cursor = next () (behindSemicolon cursor) :=
  bind_ok (skipSemicolon_apply cursor)

/-- A token of the expected kind is passed by `expect`, and becomes the current one. -/
theorem expect_ok {kind : TokenKind} {cursor : Cursor} (found : cursor.peek.kind = kind) :
    expect (m := ParseM) kind cursor = .ok cursor.peek cursor.advance := by
  rw [expect_apply, if_pos found]

/-- What is passed by an expectation is a token of the expected kind: there is no other way for
`expect` to succeed. -/
theorem expect_eq_ok_iff {kind : TokenKind} {cursor last : Cursor} {token : Token} :
    expect (m := ParseM) kind cursor = .ok token last ↔
      cursor.peek.kind = kind ∧ cursor.peek = token ∧ cursor.advance = last := by
  rw [expect_apply]
  by_cases found : cursor.peek.kind = kind
  · rw [if_pos found, EStateM.Result.ok.injEq, eq_true found, true_and]
  · rw [if_neg found]
    constructor
    · intro run
      cases run
    · rintro ⟨same, -, -⟩
      exact absurd same found

/-- A reader behind an expectation starts at a token of the expected kind, which it is given. -/
theorem expect_bind_eq_ok_iff {kind : TokenKind} {next : Token → ParseM β} {cursor last : Cursor}
    {result : β} :
    (expect kind >>= next) cursor = .ok result last ↔
      cursor.peek.kind = kind ∧ next cursor.peek cursor.advance = .ok result last := by
  simp only [bind_eq_ok_iff, expect_eq_ok_iff]
  constructor
  · rintro ⟨_, _, ⟨found, rfl, rfl⟩, run⟩
    exact ⟨found, run⟩
  · rintro ⟨found, run⟩
    exact ⟨_, _, ⟨found, rfl, rfl⟩, run⟩

end ParseM

namespace Parse.Context

open ParseM

variable {context : Context} {reader : Nat → ExprReader} {floor : Precedence} {bound depth : Nat}
  {cursor : Cursor} {left : Expr}

/-- Where the next token binds no tighter than `floor` the expression is finished, whatever is done
at its kind: no entry of the rules is looked up. -/
theorem operators_of_not_lt (loose : ¬floor < .ofKind cursor.peek.kind) :
    context.operators reader floor bound depth left cursor = .ok left cursor := by
  cases bound with
  | zero => rfl
  | succ bound =>
    rw [operators, peek_bind, if_neg fun goesOn => loose goesOn.2]
    rfl

/-- A token that binds tighter than `floor` is passed, one level deeper, and what is done at its
kind makes one whole of the expression before it. -/
theorem operators_of_lt {action : OperatorAction} (tighter : floor < .ofKind cursor.peek.kind)
    (found : context.grammar.rules.action? cursor.peek.kind = some action) :
    context.operators reader floor (bound + 1) depth left cursor =
      (do
        context.descend depth cursor.peek
        let whole ← context.operation (reader (depth + 1)) bound cursor.peek left action
        context.operators reader floor bound (depth + 1) whole) cursor.advance := by
  have not_semicolon : cursor.peek.kind ≠ .semicolon := by
    intro semicolon
    rw [semicolon] at tighter
    exact absurd (Precedence.mem_table_of_lt_ofKind tighter) (by decide)
  rw [operators, peek_bind, if_pos ⟨not_semicolon, tighter⟩, found]
  rfl

end Parse.Context

namespace ParseM

variable {α β : Type} {reader : ParseM α} {next : α → ParseM β}

/-! ### The nesting limit as the only way to fail -/

/-- A failure because expressions nest too deep, wherever the reader stands then. -/
def TooDeep (result : EStateM.Result ParseError Cursor α) : Prop :=
  ∃ error place, result = .error error place ∧ error.isTooDeep = true

/-- A result is another one if the expressions on the way fit, and otherwise they nest too deep. -/
structure Leads (result : EStateM.Result ParseError Cursor α) (fits : Prop)
    (next : EStateM.Result ParseError Cursor α) : Prop where
  eq_of_fits : fits → result = next
  tooDeep : ¬fits → TooDeep result

namespace Leads

variable {result middle last : EStateM.Result ParseError Cursor α} {fits also : Prop}

/-- A result that needs nothing to fit, for it is reached without going deeper. -/
theorem of_eq (same : result = last) : Leads result True last :=
  ⟨fun _ => same, fun never => absurd trivial never⟩

/-- What has to fit may be said in another way, by an equivalent condition. -/
theorem congr (leads : Leads result fits last) (same : fits ↔ also) : Leads result also last :=
  propext same ▸ leads

/-- One way after the other; on the second one the first is known to fit, and both have to. -/
theorem trans (first : Leads result fits middle) (second : fits → Leads middle also last) :
    Leads result (fits ∧ also) last where
  eq_of_fits := fun ⟨here, there⟩ =>
    (first.eq_of_fits here).trans ((second here).eq_of_fits there)
  tooDeep := by
    intro misfit
    by_cases here : fits
    · -- The first way is passed, so the second one is where it nests too deep.
      rw [first.eq_of_fits here]
      exact (second here).tooDeep fun there => misfit ⟨here, there⟩
    · exact first.tooDeep here

/-- A reader that gets to a value goes on from there, and what has to fit is what either part needs.
-/
theorem bind {cursor place : Cursor} {value : α} {last : EStateM.Result ParseError Cursor β}
    (first : Leads (reader cursor) fits (.ok value place))
    (second : fits → Leads (next value place) also last) :
    Leads ((reader >>= next) cursor) (fits ∧ also) last := by
  have passed : Leads ((reader >>= next) cursor) fits (next value place) := by
    constructor
    · intro here
      exact bind_ok (first.eq_of_fits here)
    · -- Nothing goes on behind the first error.
      intro misfit
      obtain ⟨error, failed, run, deep⟩ := first.tooDeep misfit
      exact ⟨error, failed, bind_error run, deep⟩
  exact passed.trans second

/-- A reader that gets to a value, behind which the next one needs nothing more to fit. -/
theorem bind_eq {cursor place : Cursor} {value : α} {last : EStateM.Result ParseError Cursor β}
    (first : Leads (reader cursor) fits (.ok value place)) (second : next value place = last) :
    Leads ((reader >>= next) cursor) fits last :=
  (first.bind fun _ => of_eq second).congr (and_iff_left trivial)

end Leads

end ParseM

end Monkey
