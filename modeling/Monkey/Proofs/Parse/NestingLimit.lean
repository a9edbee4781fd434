import Monkey.Proofs.Parse.Bounds

/-! # What the nesting limit does

Every level of nesting takes a token, so a reader that meets the limit has passed as many tokens
as the limit counts levels. Until then it does as it would without a limit. This is said by a
`Correspondence` that excuses the error of the limit (`unlimited`), and what it preserves comes
from the module on traversal: `parse_unlimited`, and from it `nestingLimit_rejects`. -/

namespace Monkey

open Parse

namespace Correspondence

/-- Readings of so many tokens with and without a limit: they do the same until the first one fails
because expressions nest too deep, which it does not do where the limit is higher than the number of
tokens. -/
def unlimited (limit most : Nat) : Correspondence where
  At := Eq
  Like := Eq
  Fails error other := error.isTooDeep = false ∧ error = other
  Excused error := error.isTooDeep = true ∧ limit ≤ most
  like_current := congrArg _
  opened_eq := congrArg _
  at_advance := congrArg _
  kind_eq := congrArg _
  literal_eq := congrArg _
  unexpectedToken _ same := ⟨rfl, congrArg _ same⟩
  noOperand same := ⟨rfl, congrArg _ same⟩
  invalidInteger same := ⟨rfl, same ▸ rfl⟩

/-- Down to a depth that is no more than the number of tokens, the limit is met there or not at all.
`checkDepth` is the only step at which the two grammars differ. -/
theorem grammars_unlimited (limit most : Nat) :
    (unlimited limit most).Grammars most (fun _ _ => True) (.limited (some limit))
      (.limited none) := by
  refine grammars_limited fun size depth token _ allowed _ => ?_
  by_cases deep : limit ≤ depth
  · -- The limit is met: the first reading fails, whatever the second one does.
    have run : (checkDepth (some limit) depth token : LoopM Unit) =
        throw (.nestingTooDeep limit token.position) := if_pos deep
    rw [run]
    exact .excused ⟨rfl, Nat.le_trans deep allowed⟩
  · have run : (checkDepth (some limit) depth token : LoopM Unit) = pure () := if_neg deep
    rw [run]
    exact .pure ()

end Correspondence

open Correspondence

namespace Grammar

/-- Unless the limit is met a stream is read as without it, and no error says that it is met: the
items are the same, one by one. -/
theorem parse_unlimited (limit : Nat) (stream : TokenStream) :
    let outcome := (limited (some limit)).parse stream
    (∃ error ∈ outcome.errors, error.isTooDeep = true ∧ limit ≤ stream.tokens.length) ∨
      outcome.program = ((limited none).parse stream).program ∧
        outcome.errors = ((limited none).parse stream).errors ∧
        ∀ error ∈ outcome.errors, error.isTooDeep = false := by
  intro outcome
  obtain met | outcomes := parse_related (grammars_unlimited limit stream.tokens.length) trivial
    (rfl : Cursor.start stream = .start stream) (Nat.le_refl _) (Nat.le_refl _)
  · exact .inl met
  · obtain ⟨statements, errors⟩ := outcomes.statements_errors
    obtain ⟨plain, same⟩ := (List.forall₂_and_left _ _).1 errors
    rw [List.forall₂_eq_eq_eq] at same
    exact .inr ⟨congrArg Program.mk statements, same, plain⟩

/-- **The nesting limit only rejects**: where no error says that it is met, program and errors are
those without a limit. Fewer tokens than the limit counts levels do not meet it. -/
theorem nestingLimit_rejects (stream : TokenStream) :
    let outcome := standard.parse stream
    ((∀ error ∈ outcome.errors, error.isTooDeep = false) →
        outcome.program = ((limited none).parse stream).program ∧
          outcome.errors = ((limited none).parse stream).errors) ∧
      (stream.tokens.length < 1024 → ∀ error ∈ outcome.errors, error.isTooDeep = false) := by
  intro outcome
  obtain ⟨error, mem, deep, le⟩ | ⟨program, errors, plain⟩ := parse_unlimited 1024 stream
  · refine ⟨fun none => ?_, fun few => absurd le (Nat.not_le.2 few)⟩
    rw [none error mem] at deep
    cases deep
  · exact ⟨fun _ => ⟨program, errors⟩, fun _ => plain⟩

/-- Parentheses around a name do not meet the limit, so they are read as without it. -/
theorem nestingLimit_rejects_none :
    let stream : TokenStream :=
      ⟨[⟨.lparen, "(", ⟨1, 1⟩⟩, ⟨.ident, "a", ⟨1, 2⟩⟩, ⟨.rparen, ")", ⟨1, 3⟩⟩], ⟨1, 4⟩⟩
    stream.tokens.length < 1024 ∧
      (∀ error ∈ (standard.parse stream).errors, error.isTooDeep = false) ∧
        (standard.parse stream).program = ((limited none).parse stream).program ∧
          (standard.parse stream).statements = [.exprStmt (.ident "a")] := by
  intro stream
  have few : stream.tokens.length < 1024 := by decide
  obtain ⟨same, plain⟩ := nestingLimit_rejects stream
  exact ⟨few, plain few, (same (plain few)).1, rfl⟩

end Grammar

end Monkey
