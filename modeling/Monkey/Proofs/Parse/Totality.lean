import Monkey.Proofs.Parse.Bounds
import Monkey.Proofs.Parse.Leak

/-! # Reading always ends

Every statement takes a token at least, whether it can be read or not (`parseItem_passes`), so
reading gets to the end of any stream, and it makes no more statements and errors than the stream
has tokens (`EndsFrom`). Rules of a grammar's own take no token, but the statement they are part
of does. With the loops that only fuel ends, this is `parse_ends`. -/

namespace Monkey

namespace ParseOutcome

/-- Every item is a statement or an error, and not both, so the two counts make up that of the
items. -/
theorem length_items (outcome : ParseOutcome) :
    outcome.statements.length + outcome.errors.length = outcome.items.length := by
  obtain ⟨items, cursor⟩ := outcome
  induction items with
  | nil => rfl
  | cons item items ih =>
    obtain ⟨start, result⟩ := item
    simp only [statements, errors] at ih ⊢
    cases result with
    | ok tree =>
      show (tree :: items.filterMap _).length + _ = _
      simp only [List.length_cons, ← ih]
      exact Nat.add_right_comm ..
    | error error =>
      show _ + (error :: items.filterMap _).length = _
      simp only [List.length_cons, ← ih]
      rfl

/-- Reading from a place got to the end of the input, and took a token for every item. -/
structure EndsFrom (outcome : ParseOutcome) (cursor : Cursor) : Prop where
  atEnd : outcome.cursor.atEnd = true
  reaches : cursor.Reaches outcome.cursor
  length_le : outcome.items.length ≤ cursor.size

/-- An item before the others takes a token more, so the count goes on to hold. -/
theorem EndsFrom.cons {rest : ParseOutcome} {cursor next : Cursor} (ends : rest.EndsFrom next)
    (way : cursor.Reaches next) (less : next.size < cursor.size) (item : ParsedItem) :
    EndsFrom { rest with items := item :: rest.items } cursor where
  atEnd := ends.atEnd
  reaches := way.trans ends.reaches
  length_le := Nat.le_trans (Nat.succ_le_succ ends.length_le) less

end ParseOutcome

namespace Grammar

variable {grammar : Grammar} {bound : Nat} {recorded : List ParseError} {cursor : Cursor}

/-- An item takes a token at least: reading goes on behind the token at which the statement or its
recovery ends. -/
theorem parseItem_passes (inside : ¬cursor.atEnd = true) {item : ParsedItem} {next : Cursor}
    (read : grammar.parseItem bound recorded cursor = (item, next)) :
    cursor.Reaches next ∧ next.size < cursor.size := by
  obtain ⟨place, reaches, rfl⟩ := reaches_parseItem read
  have some_token := mt Cursor.atEnd_of_size_eq_zero inside
  have le := reaches.size_le
  refine ⟨reaches.further, ?_⟩
  rw [Cursor.size_advance]
  omega

/-- Reading with a bound that is enough ends at the end of the input, by induction on the bound. -/
theorem parseFrom_endsFrom (enough : cursor.size ≤ bound) :
    (grammar.parseFrom bound recorded cursor).EndsFrom cursor := by
  induction bound generalizing recorded cursor with
  | zero =>
    have ended := Cursor.atEnd_of_size_eq_zero (Nat.le_zero.1 enough)
    exact ⟨ended, .here, Nat.zero_le _⟩
  | succ bound ih =>
    by_cases ended : cursor.atEnd = true
    · rw [parseFrom_atEnd ended]
      exact ⟨ended, .here, Nat.zero_le _⟩
    · cases read : grammar.parseItem (bound + 1) recorded cursor with
      | mk item next =>
        obtain ⟨way, less⟩ := parseItem_passes ended read
        rw [parseFrom, if_neg ended, read]
        exact (ih (Nat.le_of_lt_succ (Nat.lt_of_lt_of_le less enough))).cons way less item

/-- **Whatever rules a grammar has, reading a stream ends**: fuel for one round more than there are
tokens is enough. It ends at the end of the input with no token left, and makes no more statements
and errors than the stream has tokens. -/
theorem parse_ends (grammar : Grammar) {stream : TokenStream}
    (inside : ∀ token ∈ stream.tokens, token.kind ≠ .eof) :
    ∃ outcome, (∀ fuel, stream.tokens.length < fuel →
        Fueled.parse grammar fuel stream = some outcome) ∧
      grammar.parse stream = outcome ∧
      outcome.cursor.current.kind = .eof ∧ outcome.cursor.stream.tokens = [] ∧
      outcome.statements.length + outcome.errors.length ≤ stream.tokens.length := by
  have ends : (grammar.parse stream).EndsFrom (.start stream) := parseFrom_endsFrom (Nat.le_refl _)
  refine ⟨_, fun _ => grammar.parse_eq, rfl, of_decide_eq_true ends.atEnd, ?_, ?_⟩
  · exact Cursor.tokens_eq_nil (fun token mem => inside token (ends.reaches.tokens_subset mem))
      ends.atEnd
  · rw [ParseOutcome.length_items]
    exact ends.length_le

/-- A rule that makes nothing of an operator still takes it: behind the sign in `a +` the input has
ended. -/
theorem parse_ends_behind_rule :
    let grammar : Grammar := { rules := Rules.builtin.setOperator .plus fun _ _ left => .ok left }
    let stream : TokenStream := ⟨[⟨.ident, "a", ⟨1, 1⟩⟩, ⟨.plus, "+", ⟨1, 3⟩⟩], ⟨1, 4⟩⟩
    (∀ token ∈ stream.tokens, token.kind ≠ .eof) ∧
      ∃ outcome, Fueled.parse grammar 3 stream = some outcome ∧
        outcome.cursor.stream.tokens = [] ∧ outcome.statements = [.exprStmt (.ident "a")] ∧
          outcome.errors = [] := by
  intro grammar stream
  have inside : ∀ token ∈ stream.tokens, token.kind ≠ .eof := by decide
  obtain ⟨outcome, run, rfl, -, ended, -⟩ := parse_ends grammar inside
  exact ⟨inside, _, run 3 (Nat.lt_succ_self 2), ended, by decide +kernel, by decide +kernel⟩

end Grammar

end Monkey
