import Monkey.Proofs.Parse.Recognition
import Monkey.Proofs.Parse.Traversal

/-! # Bounds that are enough

Readers recurse on a bound. A bound that is at least the number of tokens left is not used up
before the tokens are, so `Grammar.parse` does as the loop that only its fuel ends,
`Fueled.parse`; and fuel for one round more than there are tokens is not used up either
(`parse_eq`). With the built-in rules alone the errors that are recorded so far make no difference
(`items_parseFrom_congr`). Both are cases of what is proved for a `Correspondence` of readings, of
which `exact` is the one that compares a reading with itself. -/

namespace Monkey

open Parse ParseM

namespace Correspondence

variable {R : Correspondence} {most : Nat}

/-- Grammars with the built-in rules read what corresponds, whatever was recorded, if `checkDepth`
lets them go one level deeper at the same time. -/
theorem grammars_limited {limit limit' : Option Nat}
    (descend : ∀ (size depth : Nat) {token token' : Token},
      depth ≤ most → R.Like token token' →
        R.Related size depth (checkDepth limit depth token) (checkDepth limit' depth token')) :
    R.Grammars most (fun _ _ => True) (.limited limit) (.limited limit') where
  contexts _ :=
    { descend := fun size => descend size _
      operand := fun _ => .none
      operator := fun _ _ => .none }
  record _ _ := trivial
  hasOperator _ := rfl

/-! ## The same reading twice -/

/-- Readings that do the same: equal cursors, equal tokens and equal errors, and no error is
excused. -/
def exact : Correspondence where
  At := Eq
  Like := Eq
  Fails := Eq
  Excused _ := False
  like_current := congrArg _
  opened_eq := congrArg _
  at_advance := congrArg _
  kind_eq := congrArg _
  literal_eq := congrArg _
  unexpectedToken _ := congrArg _
  noOperand := congrArg _
  invalidInteger same := same ▸ rfl

/-- Answers that correspond exactly are the same, -/
theorem Answers.eq {α : Type} {answer answer' : Except ParseError α}
    (answers : exact.Answers answer answer') : answer = answer' := by
  cases answers with
  | ok => rfl
  | error same => exact congrArg _ same

/-- so are items that correspond exactly, -/
theorem Items.eq {item item' : ParsedItem} (items : exact.Items item item') : item = item' := by
  obtain ⟨start, result⟩ := item
  obtain ⟨same_start, answers⟩ := items
  cases same_start
  cases answers.eq
  rfl

/-- and so are outcomes, with their items and the flag for the end of the input. -/
theorem Outcomes.eq {outcome outcome' : ParseOutcome} (outcomes : exact.Outcomes outcome outcome') :
    outcome = outcome' := by
  obtain ⟨items, cursor⟩ := outcome
  obtain ⟨same, rfl⟩ := outcomes
  cases List.forall₂_eq_eq_eq ▸ same.imp fun _ _ => Items.eq
  rfl

/-- Every grammar reads the same twice, by the built-in rules and by the registered ones, if the
same errors were recorded before. -/
theorem grammars_exact (grammar : Grammar) (most : Nat) :
    exact.Grammars most Eq grammar grammar where
  contexts := by
    rintro recorded _ rfl
    have refl {α : Type} (answer : Except ParseError α) : exact.Answers answer answer := by
      cases answer with
      | ok => exact .ok
      | error => exact .error rfl
    refine ⟨fun size _ like => checkDepth_related size _ fun _ => ?_, ?_, ?_⟩
    · cases like
      rfl
    · rintro token _ rfl
      cases grammar.rules.operand token.kind with
      | none => exact .none
      | some rule => exact .some (refl _)
    · rintro token _ tree rfl
      cases grammar.rules.operator token.kind with
      | none => exact .none
      | some rule => exact .some (refl _)
  record same_error same := by rw [same_error, same]
  hasOperator _ := rfl

/-- The built-in rules do not look at the errors recorded so far, so with `limited` grammars these
may differ. -/
theorem grammars_recorded (limit : Option Nat) (most : Nat) :
    exact.Grammars most (fun _ _ => True) (.limited limit) (.limited limit) := by
  refine grammars_limited fun size depth _ _ _ like => checkDepth_related size _ fun _ => ?_
  cases like
  rfl

variable {Recorded : List ParseError → List ParseError → Prop} {grammar grammar' : Grammar}
  {fuel bound : Nat} {recorded recorded' : List ParseError} {cursor : Cursor}

/-- A stream is read by `Fueled.items` as it is by `parseFrom` if fuel and bound are enough: more
fuel than there are tokens, and a bound that is no less than their number. -/
theorem items_eq (grammars : exact.Grammars cursor.size Recorded grammar grammar')
    (logs : Recorded recorded recorded') (burns : cursor.size < fuel)
    (enough : cursor.size ≤ bound) :
    Fueled.items grammar fuel recorded ⟨cursor, 0⟩ =
      some (grammar'.parseFrom bound recorded' cursor) := by
  obtain ⟨outcome, run, ⟨_, _, never⟩ | outcomes⟩ := items_related grammars
    (fun _ never => never.elim) logs (rfl : exact.At cursor cursor) (Nat.le_refl _) burns enough
  · exact never.elim
  · rw [run, outcomes.eq]

end Correspondence

open Correspondence

namespace Grammar

/-- **Fuel for one round more than there are tokens is enough to read a program**, and what is read
is what `Grammar.parse` reads with its bound. -/
theorem parse_eq (grammar : Grammar) {stream : TokenStream} {fuel : Nat}
    (burns : stream.tokens.length < fuel) :
    Fueled.parse grammar fuel stream = some (grammar.parse stream) :=
  items_eq (grammars_exact grammar _) rfl burns (Nat.le_refl _)

variable {limit : Option Nat} {bound bound' : Nat} {recorded recorded' : List ParseError}
  {cursor : Cursor}

/-- Whatever the bound, as long as it is enough, and whatever errors were recorded before,
`parseFrom` reads the rest of a stream as the same items. -/
theorem items_parseFrom_congr (enough : cursor.size ≤ bound) (enough' : cursor.size ≤ bound') :
    ((limited limit).parseFrom bound recorded cursor).items =
      ((limited limit).parseFrom bound' recorded' cursor).items := by
  have same {bound : Nat} {recorded' : List ParseError} (enough : cursor.size ≤ bound) :
      Fueled.items (limited limit) (cursor.size + 1) recorded ⟨cursor, 0⟩ =
        some ((limited limit).parseFrom bound recorded' cursor) :=
    items_eq (grammars_recorded limit _) trivial (Nat.lt_succ_self _) enough
  exact congrArg _ (Option.some.inj ((same enough).symm.trans (same enough')))

end Grammar

/-- From streams that correspond two grammars read what corresponds, unless the first one records an
error that excuses it. This is `Grammars` brought to whole streams and to `Grammar.parse`. -/
theorem Correspondence.parse_related {R : Correspondence} {most : Nat}
    {Recorded : List ParseError → List ParseError → Prop} {grammar grammar' : Grammar}
    (grammars : R.Grammars most Recorded grammar grammar') (logs : Recorded [] [])
    {stream stream' : TokenStream} (together : R.At (.start stream) (.start stream'))
    (allowed : stream.tokens.length ≤ most)
    (enough : stream.tokens.length ≤ stream'.tokens.length) :
    (∃ error ∈ (grammar.parse stream).errors, R.Excused error) ∨
      R.Outcomes (grammar.parse stream) (grammar'.parse stream') := by
  have ends (fuel : Nat) (recorded : List ParseError) (cursor : Cursor)
      (burns : cursor.size < fuel) :
      ∃ outcome, Fueled.items grammar fuel recorded ⟨cursor, 0⟩ = some outcome :=
    ⟨_, items_eq (grammars_exact grammar _) rfl burns (Nat.le_refl _)⟩
  have burns := Nat.lt_succ_self stream.tokens.length
  obtain ⟨outcome, run, related⟩ :=
    items_related grammars (fun _ _ => ends) logs together allowed burns enough
  obtain rfl : grammar.parse stream = outcome :=
    Option.some.inj ((grammar.parse_eq burns).symm.trans run)
  exact related

end Monkey
