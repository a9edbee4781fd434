import Monkey.Parse.Program
import Monkey.Proofs.Token.Braces

/-! # Where recovery stops

`Cursor.recover` passes every token that leaves more braces open than it was told, and of the
others only those that end no statement. So it stops at the end, or at a semicolon or a closing
brace that leaves few enough braces open (`recover_cases`). Each case of its recursion has its
lemma here, and `recover_balanced` says of several tokens at once that recovery passes them. -/

namespace Monkey.Cursor

variable {rules : Rules} {floor : Nat} {cursor : Cursor}

/-- Recovery gets to the end, or to a place where no more braces are open than it was told. -/
theorem recover_cases (rules : Rules) (floor : Nat) (cursor : Cursor) :
    (cursor.recover rules floor).atEnd = true ∨
      (cursor.recover rules floor).openedThrough ≤ floor := by
  fun_induction recover rules floor cursor with
  | case1 cursor ended => exact .inl ended
  | case2 cursor inside ends => exact .inr ends.1
  | case3 cursor inside other ends semicolon =>
    refine .inr ?_
    rw [openedThrough_of_not_brace (by rw [current_advance, semicolon]; rfl)]
    exact ends.1
  | case4 cursor inside other ends => exact .inr ends.1
  | case5 cursor inside other other' ih => exact ih

/-- Recovery passes a token that leaves more braces open than it was told, whatever the token is. -/
theorem recover_within (inside : cursor.current.kind ≠ .eof)
    (above : floor < cursor.openedThrough) :
    cursor.recover rules floor = cursor.advance.recover rules floor := by
  have not_below : ¬cursor.openedThrough ≤ floor := by omega
  have inside : ¬cursor.atEnd = true := mt of_decide_eq_true inside
  rw [recover, if_neg inside]
  simp only [not_below, false_and, if_false]

/-- Recovery passes a token that is neither a semicolon nor a closing brace, wherever it stands. -/
theorem recover_plain (inside : cursor.current.kind ≠ .eof)
    (not_semicolon : cursor.current.kind ≠ .semicolon)
    (not_closing : cursor.current.kind ≠ .rbrace) :
    cursor.recover rules floor = cursor.advance.recover rules floor := by
  have inside : ¬cursor.atEnd = true := mt of_decide_eq_true inside
  rw [recover, if_neg inside]
  simp only [not_semicolon, not_closing, false_and, and_false, if_false]

/-- Recovery stops at a semicolon that leaves few enough braces open. -/
theorem recover_semicolon (closes : cursor.current.kind = .semicolon)
    (le : cursor.openedThrough ≤ floor) : cursor.recover rules floor = cursor := by
  rw [recover, if_neg (by rw [atEnd, closes]; decide), if_pos ⟨le, closes⟩]

/-- Recovery passes a closing brace behind which the expression goes on, with `else` or an operator.
-/
theorem recover_continued (closes : cursor.current.kind = .rbrace)
    (goes : cursor.peek.kind = .elseKw ∨ rules.hasOperator cursor.peek.kind = true) :
    cursor.recover rules floor = cursor.advance.recover rules floor := by
  have inside : ¬cursor.atEnd = true := by
    rw [atEnd, closes]
    decide
  have not_semicolon : cursor.current.kind ≠ .semicolon := by
    rw [closes]
    decide
  rw [recover, if_neg inside]
  simp only [not_semicolon, goes, not_true_eq_false, and_false, if_false]

/-- Recovery stops at a closing brace that leaves few enough braces open and behind which the
expression does not go on, or at the semicolon behind it. -/
theorem recover_closing (closes : cursor.current.kind = .rbrace) (le : cursor.openedThrough ≤ floor)
    (ends : ¬(cursor.peek.kind = .elseKw ∨ rules.hasOperator cursor.peek.kind = true)) :
    cursor.recover rules floor =
      if cursor.peek.kind = .semicolon then cursor.advance else cursor := by
  have inside : ¬cursor.atEnd = true := by
    rw [atEnd, closes]
    decide
  have not_semicolon : ¬(cursor.openedThrough ≤ floor ∧ cursor.current.kind = .semicolon) := by
    rw [closes]
    rintro ⟨-, wrong⟩
    cases wrong
  rw [recover, if_neg inside, if_neg not_semicolon, if_pos ⟨le, closes, ends⟩]

/-- From within `Balanced` tokens recovery gets behind them if it was told fewer braces than are
open before them, by induction along the tokens that are left. -/
theorem recover_balanced {level : Nat} {passed left rest : List Token} {endPosition : Position}
    (balanced : Balanced (passed ++ left)) (inside : ∀ token ∈ left, token.kind ≠ .eof)
    (fewer : floor < level) :
    recover rules floor ⟨⟨left ++ rest, endPosition⟩, openBehind level passed⟩ =
      recover rules floor ⟨⟨rest, endPosition⟩, level⟩ := by
  induction left generalizing passed with
  | nil =>
    rw [List.append_nil] at balanced
    rw [balanced.openBehind_eq]
    rfl
  | cons token left ih =>
    have split : passed ++ token :: left = (passed ++ [token]) ++ left := by
      rw [List.append_assoc]
      rfl
    have enough := balanced.le_openBehind level split
    rw [split] at balanced
    rw [List.forall_mem_cons] at inside
    rw [← ih balanced inside.2, openBehind_append]
    rw [openBehind_append] at enough
    exact recover_within inside.1 (Nat.lt_of_lt_of_le fewer enough)

end Monkey.Cursor
