import Monkey.Proofs.Token.Symbol

/-! # Places that a cursor gets to

Cursors only move on. A place that a cursor `Reaches` is some moves further, so what the tokens of
a stream have in common is left in common to the tokens from there on: they are the last ones of
the stream (`symbols_suffix`), and no more of them (`size_le`). -/

namespace Monkey.Cursor

/-- A place is reached from another one by moving on, any number of times. -/
inductive Reaches (cursor : Cursor) : Cursor → Prop where
  /-- Without a move a cursor stays where it is. -/
  | here : Reaches cursor cursor
  /-- One move more, by `Cursor.advance`. -/
  | further {place : Cursor} : Reaches cursor place → Reaches cursor place.advance

namespace Reaches

variable {cursor place last : Cursor}

/-- A move is a way to the next place, or to the same one at the end of the input. -/
theorem advance : cursor.Reaches cursor.advance := here.further

/-- One way after another is a way, by induction on the second one. -/
theorem trans (first : cursor.Reaches place) (second : place.Reaches last) :
    cursor.Reaches last := by
  induction second with
  | here => exact first
  | further _ ih => exact ih.further

/-- The symbols from a place on are the last ones of those from any place before it. -/
theorem symbols_suffix (reaches : cursor.Reaches place) : place.symbols <:+ cursor.symbols := by
  induction reaches with
  | here => exact List.suffix_rfl
  | @further place _ ih =>
    rw [symbols_advance]
    exact (List.tail_suffix _).trans ih

/-- On the way no token is added, so a bound on their number goes on to hold. -/
theorem size_le (reaches : cursor.Reaches place) : place.size ≤ cursor.size := by
  rw [← length_symbols, ← length_symbols]
  exact reaches.symbols_suffix.length_le

end Reaches

end Monkey.Cursor
