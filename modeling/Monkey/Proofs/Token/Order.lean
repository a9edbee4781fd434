import Monkey.Proofs.Token.Reach
import Monkey.Token.Scan

/-! # The order of tokens

Tokens are scanned from the left to the right, so each one stands behind all that come before it,
and the end of the input behind them all (`InOrder`, `inOrder_ofSource`). A cursor that moves on
never gets to a token that stands further to the left (`Reaches.current_le`). -/

namespace Monkey

/-! ## Places in a source -/

namespace Position

/-- One place is before another one, or is the same, on the same line by its column, or it is on a
line before. -/
instance : LE Position :=
  ⟨fun left right => left.line < right.line ∨ left.line = right.line ∧ left.column ≤ right.column⟩

/-- A place is not behind itself. -/
theorem le_refl (position : Position) : position ≤ position := .inr ⟨rfl, Nat.le_refl _⟩

/-- Places in turn: what is before a place is before all that it is before. -/
theorem le_trans {left middle right : Position} (first : left ≤ middle) (second : middle ≤ right) :
    left ≤ right := by
  change _ ∨ _ at first second ⊢
  omega

/-- A character is passed to the right, or to the start of the next line. -/
theorem le_next (position : Position) (char : Char) : position ≤ position.next char := by
  unfold next
  split
  · exact .inl (Nat.lt_succ_self _)
  · exact .inr ⟨rfl, Nat.le_succ _⟩

/-- Characters are passed to the right, by induction on them. -/
theorem le_after (position : Position) (chars : List Char) : position ≤ position.after chars := by
  induction chars generalizing position with
  | nil => exact position.le_refl
  | cons char chars ih => exact le_trans (position.le_next char) (ih _)

end Position

/-! ## Tokens in order -/

namespace TokenStream

/-- The tokens of a stream, the end of the input included, which stands behind them. -/
def withEnd (stream : TokenStream) : List Token := stream.tokens ++ [stream.endToken]

/-- Streams in which no token stands to the right of one that comes after it. -/
def InOrder (stream : TokenStream) : Prop :=
  stream.withEnd.Pairwise fun left right => left.position ≤ right.position

/-- The token that the next read gives, `head`, is the first one, or the end of the input. -/
theorem exists_withEnd_eq (stream : TokenStream) :
    ∃ rest, stream.withEnd = stream.head :: rest := by
  obtain ⟨tokens, endPosition⟩ := stream
  cases tokens with
  | nil => exact ⟨[], rfl⟩
  | cons token tokens => exact ⟨_, rfl⟩

/-- A read takes the first token, unless it is the end, which stays for ever. -/
theorem withEnd_tail_suffix (stream : TokenStream) : stream.tail.withEnd <:+ stream.withEnd := by
  obtain ⟨tokens, endPosition⟩ := stream
  cases tokens with
  | nil => exact List.suffix_rfl
  | cons token tokens => exact List.suffix_cons ..

/-- The next token is a token of the stream, or its end. -/
theorem head_mem (stream : TokenStream) : stream.head ∈ stream.withEnd := by
  obtain ⟨rest, same⟩ := stream.exists_withEnd_eq
  exact same ▸ List.mem_cons_self

/-- No token stands to the left of the next one, if they stand in order. -/
theorem InOrder.head_le {stream : TokenStream} (ordered : stream.InOrder) :
    ∀ token ∈ stream.withEnd, stream.head.position ≤ token.position := by
  obtain ⟨rest, same⟩ := stream.exists_withEnd_eq
  rw [InOrder, same, List.pairwise_cons] at ordered
  rw [same, List.forall_mem_cons]
  exact ⟨Position.le_refl _, ordered.1⟩

/-- The tokens of a text stand in order, from the place on where the text starts, by the recursion
of `scanChars`. -/
theorem inOrder_scanChars (position : Position) (chars : List Char) :
    InOrder ⟨scanChars position chars, position.after chars⟩ ∧
      ∀ token ∈ withEnd ⟨scanChars position chars, position.after chars⟩,
        position ≤ token.position := by
  fun_induction scanChars position chars with
  | case1 position =>
    exact ⟨List.pairwise_singleton .., List.forall_mem_singleton.2 position.le_refl⟩
  | case2 position first rest blank ih =>
    exact ⟨ih.1, fun token mem => Position.le_trans (position.le_next first) (ih.2 token mem)⟩
  | case3 position first rest visible lexeme ih =>
    -- The text is the lexeme and what is scanned behind it.
    have whole : position.after (first :: rest) =
        (position.after lexeme).after (rest.drop (lexemeTail first rest).length) := by
      rw [← Position.after_append, List.cons_append,
        List.prefix_iff_eq_append.1 (lexemeTail_isPrefix first rest)]
    rw [← whole] at ih
    have behind : ∀ token ∈ withEnd _, position ≤ token.position :=
      fun token mem => Position.le_trans (position.le_after lexeme) (ih.2 token mem)
    exact ⟨List.pairwise_cons.2 ⟨behind, ih.1⟩, List.forall_mem_cons.2 ⟨position.le_refl, behind⟩⟩

/-- The tokens of a source stand in order, and its end behind them. -/
theorem inOrder_ofSource (source : String) : (ofSource source).InOrder :=
  (inOrder_scanChars .start source.toList).1

end TokenStream

namespace Cursor.Reaches

variable {cursor place : Cursor}

/-- All that is read from a place on is among what is read from a place before it: it is a suffix of
that. -/
theorem withEnd_suffix (reaches : cursor.Reaches place) :
    place.stream.withEnd <:+ cursor.stream.withEnd := by
  induction reaches with
  | here => exact List.suffix_rfl
  | @further place _ ih => exact place.stream.withEnd_tail_suffix.trans ih

/-- What is left of tokens in order is in order. -/
theorem inOrder (reaches : cursor.Reaches place) (ordered : cursor.stream.InOrder) :
    place.stream.InOrder :=
  ordered.sublist reaches.withEnd_suffix.sublist

/-- A token that a cursor gets to is one of those ahead of it, or the end of the input. -/
theorem current_mem (reaches : cursor.Reaches place) : place.current ∈ cursor.stream.withEnd :=
  reaches.withEnd_suffix.subset place.stream.head_mem

/-- A cursor moves to the right, or it stays where it is. -/
theorem current_le (reaches : cursor.Reaches place) (ordered : cursor.stream.InOrder) :
    cursor.current.position ≤ place.current.position :=
  ordered.head_le _ reaches.current_mem

/-- If both places are left by one move, the one is still reached from the other. -/
theorem advance_advance (reaches : cursor.Reaches place) :
    cursor.advance.Reaches place.advance := by
  induction reaches with
  | here => exact .here
  | further _ ih => exact ih.further

end Cursor.Reaches

end Monkey
