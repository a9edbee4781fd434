import Mathlib.Data.List.Forall2
import Monkey.Proofs.Parse.Forward
import Monkey.Proofs.Parse.Fueled

/-! # Readings that correspond

Two readings are compared step by step: one by the loops that run on fuel (`LoopM`), the other by
the readers that recurse on a bound (`ParseM`). Both run the same definitions, which are generic
in the monad. What is compared is up to a `Correspondence` between cursors, between tokens and
between errors. Here is what each step of a reader preserves, as a law about `Related`; a reader
that is made of such steps then needs no look at a cursor. What the readers themselves preserve is
derived from these laws in the module on traversal. -/

namespace Monkey

open Parse ParseM

/-- What two readings are compared by: relations between cursors, tokens and errors that the
primitive steps of readers preserve. -/
structure Correspondence where
  /-- The cursors of both readings at the same time. -/
  At : Cursor → Cursor → Prop
  /-- The tokens that both readings see at the same time. They are of the same kind. -/
  Like : Token → Token → Prop
  /-- The errors with which both readings fail at the same time. -/
  Fails : ParseError → ParseError → Prop
  /-- The errors of the first reading that need none of the second one, so that what it does then is
  left open. -/
  Excused : ParseError → Prop
  like_current {cursor other : Cursor} : At cursor other → Like cursor.current other.current
  opened_eq {cursor other : Cursor} : At cursor other → cursor.opened = other.opened
  at_advance {cursor other : Cursor} : At cursor other → At cursor.advance other.advance
  kind_eq {token other : Token} : Like token other → token.kind = other.kind
  literal_eq {token other : Token} : Like token other → token.literal = other.literal
  unexpectedToken {token other : Token} (kind : TokenKind) :
    Like token other → Fails (.unexpectedToken kind token) (.unexpectedToken kind other)
  noOperand {token other : Token} : Like token other → Fails (.noOperand token) (.noOperand other)
  invalidInteger {token other : Token} : Like token other →
    Fails (.invalidInteger token.literal token.position)
      (.invalidInteger other.literal other.position)

namespace Parse

/-- Where no token is left, `current` is the end of the input. -/
theorem current_kind_of_size_eq_zero {cursor : Cursor} (empty : cursor.size = 0) :
    cursor.current.kind = .eof :=
  of_decide_eq_true (Cursor.atEnd_of_size_eq_zero empty)

/-- Where the current token is the last one, `peek` is the end of the input. -/
theorem peek_kind_of_size_le_one {cursor : Cursor} (last : cursor.size ≤ 1) :
    cursor.peek.kind = .eof := by
  rw [← Cursor.current_advance]
  exact current_kind_of_size_eq_zero (by rw [Cursor.size_advance]; omega)

end Parse

namespace LoopM

variable {α β : Type} {loop : LoopM α} {next : α → LoopM β} {reading last : Reading}

/-- After a value the next reader goes on: `bind` in `LoopM`, where it succeeds. -/
theorem bind_ok {value : α} (run : loop reading = some (.ok value, last)) :
    (loop >>= next) reading = next value last := by
  show (loop reading >>= _ : Option _) = _
  rw [run]
  rfl

/-- After an error nothing goes on: `bind` in `LoopM`, where it fails. -/
theorem bind_error {error : ParseError} (run : loop reading = some (.error error, last)) :
    (loop >>= next) reading = some (.error error, last) := by
  show (loop reading >>= _ : Option _) = _
  rw [run]
  rfl

/-- A token of the expected kind is passed by `expect`, and nothing but the cursor changes. -/
theorem expect_ok {kind : TokenKind} (found : reading.cursor.peek.kind = kind) :
    (expect kind : LoopM Token) reading =
      some (.ok reading.cursor.peek, { reading with cursor := reading.cursor.advance }) := by
  change (if reading.cursor.peek.kind = kind then _ else _ : LoopM Token) reading = _
  rw [if_pos found]
  rfl

/-- Any other token is reported as an `unexpectedToken`, and reading does not move. -/
theorem expect_error {kind : TokenKind} (missing : reading.cursor.peek.kind ≠ kind) :
    (expect kind : LoopM Token) reading =
      some (.error (.unexpectedToken kind reading.cursor.peek), reading) := by
  change (if reading.cursor.peek.kind = kind then _ else _ : LoopM Token) reading = _
  rw [if_neg missing]
  rfl

variable {context : Context} {told : Nat} {token : Token}

/-- Where the depth that is counted allows it a loop goes one level deeper, whatever depth it is
told: `LoopM` counts the depth in its state. -/
theorem descend_ok
    (run : (checkDepth context.grammar.nestingLimit reading.depth token : LoopM Unit) reading =
      some (.ok (), last)) :
    (context.descend told token : LoopM Unit) reading =
      some (.ok (), { last with depth := last.depth + 1 }) := by
  show (checkDepth (m := LoopM) context.grammar.nestingLimit reading.depth token >>= _) _ = _
  rw [bind_ok run]
  rfl

/-- Where the counted depth does not allow it, a loop fails with the error of `checkDepth`. -/
theorem descend_error {error : ParseError}
    (run : (checkDepth context.grammar.nestingLimit reading.depth token : LoopM Unit) reading =
      some (.error error, last)) :
    (context.descend told token : LoopM Unit) reading = some (.error error, last) := by
  show (checkDepth (m := LoopM) context.grammar.nestingLimit reading.depth token >>= _) _ = _
  rw [bind_error run]

end LoopM

namespace Correspondence

variable {R : Correspondence} {α β : Type} {size depth : Nat}

/-- Two ends of readings that correspond: both got to the same value, or both failed, or the first
one failed with an error that excuses it. -/
inductive Ends (R : Correspondence) :
    Except ParseError α × Cursor → EStateM.Result ParseError Cursor α → Prop where
  | ok {value : α} {place place' : Cursor} :
      R.At place place' → Ends R (.ok value, place) (.ok value place')
  | error {error error' : ParseError} {place place' : Cursor} :
      R.Fails error error' → R.At place place' → Ends R (.error error, place) (.error error' place')
  | excused {error : ParseError} {place : Cursor} {result : EStateM.Result ParseError Cursor α} :
      R.Excused error → Ends R (.error error, place) result

/-- From cursors that correspond, with no more than `size` tokens left, the loop ends, no earlier
than where it started, and the reader `Ends` as it does. The depth that is counted behind the loop
is the one before it, unless `kept` is false and nothing is said about it. -/
def Related (R : Correspondence) (size depth : Nat) (loop : LoopM α) (reader : ParseM α)
    (kept : Bool := true) : Prop :=
  ∀ cursor cursor', R.At cursor cursor' → cursor.size ≤ size →
    ∃ result last, loop ⟨cursor, depth⟩ = some (result, last) ∧
      last.cursor.size ≤ cursor.size ∧ (kept = true → last.depth = depth) ∧
        R.Ends (result, last.cursor) (reader cursor')

namespace Related

variable {loop : LoopM α} {reader : ParseM α} {next : α → LoopM β} {next' : α → ParseM β}
  {kept : Bool}

/-- What holds with some number of tokens left holds with fewer of them too. -/
theorem mono {fewer : Nat} (related : R.Related size depth loop reader kept) (le : fewer ≤ size) :
    R.Related fewer depth loop reader kept :=
  fun cursor cursor' together small => related cursor cursor' together (Nat.le_trans small le)

/-- Both readers make the same value, and neither moves. -/
theorem pure (value : α) :
    R.Related size depth (Pure.pure value : LoopM α) (Pure.pure value) kept :=
  fun cursor _ together _ =>
    ⟨.ok value, ⟨cursor, depth⟩, rfl, Nat.le_refl _, fun _ => rfl, .ok together⟩

/-- Both readers fail, with errors that correspond, and neither moves. -/
theorem throw {error error' : ParseError} (fails : R.Fails error error') :
    R.Related size depth (MonadExcept.throw error : LoopM α) (MonadExcept.throw error') kept :=
  fun cursor _ together _ =>
    ⟨.error error, ⟨cursor, depth⟩, rfl, Nat.le_refl _, fun _ => rfl, .error fails together⟩

/-- The first reader fails with an error that excuses whatever the second one does. -/
theorem excused {error : ParseError} (excused : R.Excused error) :
    R.Related size depth (MonadExcept.throw error : LoopM α) reader kept :=
  fun cursor _ _ _ =>
    ⟨.error error, ⟨cursor, depth⟩, rfl, Nat.le_refl _, fun _ => rfl, .excused excused⟩

/-- Readers in turn, if the second ones are related from every value that the first ones can give.
-/
theorem bind (first : R.Related size depth loop reader)
    (second : ∀ value, R.Related size depth (next value) (next' value) kept) :
    R.Related size depth (loop >>= next) (reader >>= next') kept := by
  intro cursor cursor' together small
  obtain ⟨result, ⟨place, counted⟩, run, le, stays, ends⟩ := first cursor cursor' together small
  obtain rfl : depth = counted := (stays rfl).symm
  generalize run' : reader cursor' = other at ends
  cases ends with
  | ok places =>
    obtain ⟨result, last, run₂, le₂, after, ends⟩ := second _ _ _ places (Nat.le_trans le small)
    refine ⟨result, last, ?_, Nat.le_trans le₂ le, after, ?_⟩
    · rw [LoopM.bind_ok run, run₂]
    · rwa [bind_ok run']
  | error fails places =>
    refine ⟨_, _, LoopM.bind_error run, le, fun _ => rfl, ?_⟩
    rw [bind_error run']
    exact .error fails places
  | excused excused =>
    exact ⟨_, _, LoopM.bind_error run, le, fun _ => rfl, .excused excused⟩

/-- A choice by the same condition, if both sides of it are related. -/
theorem ite {condition : Prop} [Decidable condition] {no : LoopM α} {no' : ParseM α}
    (first : R.Related size depth loop reader kept) (second : R.Related size depth no no' kept) :
    R.Related size depth (if condition then loop else no) (if condition then reader else no')
      kept := by
  split
  · exact first
  · exact second

/-- Whatever is counted on the way, the depth is kept in the end by `Fueled.restoring`. This is the
only place where it is put back. -/
theorem restoring (related : R.Related size depth loop reader false) :
    R.Related size depth (Fueled.restoring loop) reader := by
  intro cursor cursor' together small
  obtain ⟨result, last, run, le, -, ends⟩ := related cursor cursor' together small
  refine ⟨result, ⟨last.cursor, depth⟩, ?_, le, fun _ => rfl, ends⟩
  show (loop ⟨cursor, depth⟩ >>= _ : Option _) = _
  rw [run]
  rfl

/-! ### Steps before readers -/

section

variable {after : Token → LoopM β} {after' : Token → ParseM β}

/-- Both look at the current token; where no token is left it is the end of the input. -/
theorem current (rest : ∀ token token', R.Like token token' → (size = 0 → token.kind = .eof) →
      R.Related size depth (after token) (after' token') kept) :
    R.Related size depth (Parse.current >>= after) (Parse.current >>= after') kept := by
  intro cursor cursor' together small
  refine rest _ _ (R.like_current together) (fun empty => ?_) cursor cursor' together small
  exact current_kind_of_size_eq_zero (by omega)

/-- Both look at the token after the current one, which is the end of the input if no more than one
is left. -/
theorem peek (rest : ∀ token token', R.Like token token' → (size ≤ 1 → token.kind = .eof) →
      R.Related size depth (after token) (after' token') kept) :
    R.Related size depth (Parse.peek >>= after) (Parse.peek >>= after') kept :=
  fun cursor cursor' together small =>
    rest _ _ (R.like_current (R.at_advance together))
      (fun last => peek_kind_of_size_le_one (Nat.le_trans small last)) cursor cursor' together small

/-- Only the loop looks at the token after the current one: a reader whose bound is used up does
not. -/
theorem peek_left {reader : ParseM β} (rest : ∀ token, (size ≤ 1 → token.kind = .eof) →
      R.Related size depth (after token) reader kept) :
    R.Related size depth (Parse.peek >>= after) reader kept :=
  fun cursor cursor' together small =>
    rest cursor.peek (fun last => peek_kind_of_size_le_one (Nat.le_trans small last)) cursor
      cursor' together small

/-- Both `expect` a token of the same kind, which is one token more: behind it the readers may count
on one token less. -/
theorem expect (kind : TokenKind) (rest : ∀ token token', R.Like token token' →
      R.Related size depth (after token) (after' token')) :
    R.Related (size + 1) depth (Parse.expect kind >>= after) (Parse.expect kind >>= after') := by
  intro cursor cursor' together small
  have like := R.like_current (R.at_advance together)
  have same : cursor.peek.kind = cursor'.peek.kind := R.kind_eq like
  by_cases found : cursor.peek.kind = kind
  · have run : (Parse.expect kind : LoopM Token) ⟨cursor, depth⟩ =
        some (.ok cursor.peek, ⟨cursor.advance, depth⟩) := LoopM.expect_ok found
    have less : cursor.advance.size ≤ size := by
      rw [Cursor.size_advance]
      omega
    obtain ⟨result, last, run₂, le, after, ends⟩ := rest _ _ like _ _ (R.at_advance together) less
    refine ⟨result, last, ?_, Nat.le_trans le cursor.size_advance_le, after, ?_⟩
    · rw [LoopM.bind_ok run]
      exact run₂
    · rwa [bind_ok (expect_ok (same ▸ found))]
  · have refused : Parse.expect (m := ParseM) kind cursor' =
        .error (.unexpectedToken kind cursor'.peek) cursor' := by
      rw [expect_apply, if_neg (same ▸ found)]
    refine ⟨_, _, LoopM.bind_error (LoopM.expect_error found), Nat.le_refl _, fun _ => rfl, ?_⟩
    rw [bind_error refused]
    exact .error (R.unexpectedToken kind like) together

end

section

variable {step : Unit → LoopM β} {step' : Unit → ParseM β}

/-- Both move on with `advance`; the current token is one token more. -/
theorem advance (rest : R.Related size depth (step ()) (step' ()) kept) :
    R.Related (size + 1) depth (Parse.advance >>= step) (Parse.advance >>= step')
      kept := by
  intro cursor cursor' together small
  have less : cursor.advance.size ≤ size := by
    rw [Cursor.size_advance]
    omega
  obtain ⟨result, last, run, le, after, ends⟩ := rest _ _ (R.at_advance together) less
  exact ⟨result, last, run, Nat.le_trans le cursor.size_advance_le, after, ends⟩

/-- Both move on with `advance`, of which nothing more is used than that no token more is left. -/
theorem move (rest : R.Related size depth (step ()) (step' ()) kept) :
    R.Related size depth (Parse.advance >>= step) (Parse.advance >>= step') kept :=
  (advance rest).mono (Nat.le_succ size)

/-- Both pass a semicolon with `skipSemicolon` if there is one. -/
theorem skipSemicolon (rest : R.Related size depth (step ()) (step' ())) :
    R.Related size depth (Parse.skipSemicolon >>= step) (Parse.skipSemicolon >>= step') := by
  have semicolon : R.Related size depth Parse.skipSemicolon Parse.skipSemicolon := by
    refine .peek fun token token' like _ => ?_
    rw [← R.kind_eq like]
    exact .ite (.move (.pure ())) (.pure ())
  exact .bind semicolon fun _ => rest

/-- Both go one level deeper, the loop in the depth that it counts, the reader in the depth that it
is told. -/
theorem descend {left right : Context} {told : Nat} {token token' : Token}
    (same : R.Related size depth (checkDepth left.grammar.nestingLimit depth token)
      (checkDepth right.grammar.nestingLimit depth token'))
    (rest : R.Related size (depth + 1) (step ()) (step' ()) false) :
    R.Related size depth (left.descend told token >>= step)
      (right.descend depth token' >>= step') false := by
  intro cursor cursor' together small
  obtain ⟨result, ⟨place, counted⟩, run, le, stays, ends⟩ := same cursor cursor' together small
  obtain rfl : depth = counted := (stays rfl).symm
  rw [Context.descend_eq_checkDepth]
  generalize run' : (checkDepth right.grammar.nestingLimit depth token' : ParseM Unit) cursor' =
    other at ends
  cases ends with
  | ok places =>
    obtain ⟨result, last, run₂, le₂, -, ends⟩ := rest _ _ places (Nat.le_trans le small)
    refine ⟨result, last, ?_, Nat.le_trans le₂ le, nofun, ?_⟩
    · rw [LoopM.bind_ok (LoopM.descend_ok run), run₂]
    · rwa [bind_ok run']
  | error fails places =>
    refine ⟨_, _, LoopM.bind_error (LoopM.descend_error run), le, nofun, ?_⟩
    rw [bind_error run']
    exact .error fails places
  | excused excused =>
    exact ⟨_, _, LoopM.bind_error (LoopM.descend_error run), le, nofun, .excused excused⟩

end

end Related

end Correspondence

end Monkey
