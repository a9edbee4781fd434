import Monkey.Proofs.Token.Reach

/-! # Open braces

The count of open braces along a list of tokens (`openBehind`). A `Balanced` list closes the
braces that it opens and no others: wherever it stands it leaves the count as it was, and within
it the count never falls below that. A place `Above` a level is reached without closing a brace
that is open at that level, so it is no further than the closing brace of the block at whose start
that level is counted (`Above.within_block`). -/

namespace Monkey

/-- How many braces are open behind some tokens, from a count before them, with `Cursor.braces` for
each. -/
def openBehind (opened : Nat) (tokens : List Token) : Nat :=
  tokens.foldl (fun opened token => Cursor.braces opened token.kind) opened

@[simp] theorem openBehind_cons (opened : Nat) (token : Token) (rest : List Token) :
    openBehind opened (token :: rest) = openBehind (Cursor.braces opened token.kind) rest := rfl

/-- The count goes on behind the first of two lists with what that one leaves open. -/
@[simp] theorem openBehind_append (opened : Nat) (left right : List Token) :
    openBehind opened (left ++ right) = openBehind (openBehind opened left) right :=
  List.foldl_append

/-- The kinds of token that are braces, an opening and a closing one. -/
def TokenKind.isBrace : TokenKind → Bool
  | .lbrace | .rbrace => true
  | _ => false

/-- Only braces are counted by `Cursor.braces`. -/
theorem Cursor.braces_of_not_brace {kind : TokenKind} (plain : kind.isBrace = false)
    (opened : Nat) : braces opened kind = opened := by
  cases kind <;> first | rfl | cases plain

/-- A token that opens no brace leaves no more of them open than were before it. -/
theorem Cursor.braces_le {opened : Nat} {kind : TokenKind} (other : kind ≠ .lbrace) :
    braces opened kind ≤ opened := by
  cases kind with
  | lbrace => exact absurd rfl other
  | rbrace => exact Nat.sub_le opened 1
  | _ => exact Nat.le_refl opened

/-! ## Balanced lists -/

/-- Tokens whose braces pair off, each with a closing one behind it. -/
inductive Balanced : List Token → Prop where
  /-- No token. -/
  | nil : Balanced []
  /-- A token that is no brace. -/
  | plain {token : Token} {rest : List Token} :
      token.kind.isBrace = false → Balanced rest → Balanced (token :: rest)
  /-- A pair of braces around balanced tokens. -/
  | pair {opening closing : Token} {inner rest : List Token} :
      opening.kind = .lbrace → closing.kind = .rbrace → Balanced inner → Balanced rest →
      Balanced (opening :: (inner ++ closing :: rest))

namespace Balanced

variable {tokens : List Token}

/-- Behind balanced tokens as many braces are open as before them, by induction on `Balanced`. -/
theorem openBehind_eq (balanced : Balanced tokens) (opened : Nat) :
    openBehind opened tokens = opened := by
  induction balanced generalizing opened with
  | nil => rfl
  | plain plain _ ih => rw [openBehind_cons, Cursor.braces_of_not_brace plain, ih]
  | pair opens closes _ _ innerIh restIh =>
    rw [openBehind_cons, openBehind_append, opens, innerIh, openBehind_cons, closes, restIh]
    rfl

/-- Within balanced tokens no fewer braces are open than before them, wherever the list is split. -/
theorem le_openBehind (balanced : Balanced tokens) (opened : Nat) {before after : List Token}
    (split : tokens = before ++ after) : opened ≤ openBehind opened before := by
  induction balanced generalizing opened before after with
  | nil =>
    obtain ⟨rfl, -⟩ := List.append_eq_nil_iff.1 split.symm
    exact Nat.le_refl opened
  | plain plain _ ih =>
    obtain ⟨rfl, -⟩ | ⟨before, rfl, rest⟩ := List.cons_eq_append_iff.1 split
    · exact Nat.le_refl opened
    · rw [openBehind_cons, Cursor.braces_of_not_brace plain]
      exact ih opened rest
  | pair opens closes inner _ innerIh restIh =>
    obtain ⟨rfl, -⟩ | ⟨before, rfl, tail⟩ := List.cons_eq_append_iff.1 split
    · exact Nat.le_refl opened
    · rw [openBehind_cons, opens]
      obtain ⟨others, rfl, closed⟩ | ⟨others, within, -⟩ := List.append_eq_append_iff.1 tail
      · -- The place is behind the inner tokens, at the closing brace or among the rest.
        rw [openBehind_append, inner.openBehind_eq]
        obtain ⟨rfl, -⟩ | ⟨others, rfl, rest⟩ := List.cons_eq_append_iff.1 closed
        · exact Nat.le_succ opened
        · rw [openBehind_cons, closes]
          exact restIh opened rest
      · exact Nat.le_trans (Nat.le_succ opened) (innerIh (opened + 1) within)

end Balanced

namespace Cursor

/-! ## Counts at a cursor -/

/-- The count of a cursor is that of the tokens it has passed, from wherever it came. -/
theorem Reaches.exists_passed {cursor place : Cursor} (reaches : cursor.Reaches place) :
    ∃ passed, cursor.stream.tokens = passed ++ place.stream.tokens ∧
      place.opened = openBehind cursor.opened passed := by
  induction reaches with
  | here => exact ⟨[], rfl, rfl⟩
  | @further place _ ih =>
    obtain ⟨passed, tokens, opened⟩ := ih
    obtain ⟨⟨left, endPosition⟩, count⟩ := place
    cases left with
    | nil =>
      -- Past the last token there is nothing to pass.
      exact ⟨passed, tokens, opened⟩
    | cons token left =>
      refine ⟨passed ++ [token], ?_, ?_⟩
      · rw [tokens, List.append_assoc]
        rfl
      · rw [openBehind_append, ← opened]
        rfl

/-- A current token that is no brace leaves the count: `openedThrough` is `opened` there. -/
theorem openedThrough_of_not_brace {cursor : Cursor} (plain : cursor.current.kind.isBrace = false) :
    cursor.openedThrough = cursor.opened :=
  braces_of_not_brace plain _

/-- A place is above a level if every token passed on the way leaves at least so many braces open.
-/
inductive Above (level : Nat) (cursor : Cursor) : Cursor → Prop where
  /-- Without a move no token is passed, so nothing is asked of the count. -/
  | here : Above level cursor cursor
  /-- One token more, which leaves enough braces open behind it. -/
  | further {place : Cursor} :
      Above level cursor place → level ≤ place.openedThrough → Above level cursor place.advance

namespace Above

variable {level other : Nat} {cursor place last : Cursor}

/-- One way above a level after another is a way above it. -/
theorem trans (first : Above level cursor place) (second : Above level place last) :
    Above level cursor last := by
  induction second with
  | here => exact first
  | further _ le ih => exact ih.further le

/-- What is above a level is above a lower one, for the same tokens leave enough braces open. -/
theorem mono (above : Above other cursor place) (le : level ≤ other) :
    Above level cursor place := by
  induction above with
  | here => exact .here
  | further _ enough ih => exact ih.further (Nat.le_trans le enough)

/-- From the start of a block no place above the level of the block is beyond its closing brace: it
is somewhere in the block, behind some of its tokens. -/
theorem within_block {inner behind : List Token} {closing : Token} {endPosition : Position}
    (balanced : Balanced inner) (closes : closing.kind = .rbrace)
    (above : Above (level + 1) ⟨⟨inner ++ closing :: behind, endPosition⟩, level + 1⟩ place) :
    ∃ passed left, inner = passed ++ left ∧
      place = ⟨⟨left ++ closing :: behind, endPosition⟩, openBehind (level + 1) passed⟩ := by
  induction above with
  | here => exact ⟨[], inner, rfl, rfl⟩
  | further _ enough ih =>
    obtain ⟨passed, left, rfl, rfl⟩ := ih
    cases left with
    | nil =>
      -- The closing brace itself would leave fewer braces open than the level asks for.
      rw [List.append_nil] at balanced
      have count := balanced.openBehind_eq (level + 1)
      change level + 1 ≤ braces (openBehind (level + 1) passed) closing.kind at enough
      rw [count, closes] at enough
      exact absurd enough (Nat.not_succ_le_self level)
    | cons token left =>
      refine ⟨passed ++ [token], left, by rw [List.append_assoc]; rfl, ?_⟩
      rw [openBehind_append]
      rfl

end Above

end Cursor

end Monkey
