import Monkey.Text.Decimal

/-! # Checked conversion

A text can be read digit by digit into a signed 64-bit integer, with a check of the range at each
multiplication and each addition (`readChecked?`). A number that has left the range never comes
back into it, so these checks come to the same as one check of the whole value: no value in range
is refused on the way, and leading zeros cost nothing. `foldlM_push?` shows it by induction on the
digits, `readChecked?_eq` for whole texts; `read?_write` says that what `write` writes is read
back. -/

namespace Monkey.Decimal

/-- A number as it is, or with the sign turned if it is `negative`. -/
def signed (negative : Bool) (value : Nat) : Int := if negative then -value else value

/-- The signed 64-bit integer of a value, if that is in range: the one check of the whole value. -/
def fit? (value : Int) : Option Int64 :=
  if Int64.minValue.toInt ≤ value ∧ value ≤ Int64.maxValue.toInt then some (.ofInt value) else none

/-- Takes one more digit behind a number, with checks by `fit?`. A negative number grows downwards.
-/
def push? (negative : Bool) (number : Int64) (char : Char) : Option Int64 := do
  guard char.isDigit
  let shifted ← fit? (number.toInt * 10)
  fit? (shifted.toInt + signed negative (char.toNat - '0'.toNat))

/-- Reads a run of digits, of which there is at least one, with `push?` from zero on. -/
def pushAll? (negative : Bool) (digits : List Char) : Option Int64 :=
  if digits.isEmpty then none else digits.foldlM (push? negative) 0

/-- Reads a run of digits behind at most one sign, `+` or `-`. -/
def pushSigned? : List Char → Option Int64
  | '+' :: digits => pushAll? false digits
  | '-' :: digits => pushAll? true digits
  | digits => pushAll? false digits

/-- Reads a text digit by digit; `Decimal.read?` is the same with one check at the end. -/
def readChecked? (text : String) : Option Int64 := pushSigned? text.toList

@[simp] theorem signed_false (value : Nat) : signed false value = value := rfl

@[simp] theorem signed_true (value : Nat) : signed true value = -value := rfl

/-! ## Range checks -/

/-- A value that passes the check is the one that is kept: `fit?` rounds nothing. -/
theorem fit?_eq_some_iff {value : Int} {number : Int64} :
    fit? value = some number ↔ number.toInt = value := by
  have least : Int64.minValue.toInt = -2 ^ 63 := rfl
  have greatest : Int64.maxValue.toInt = 2 ^ 63 - 1 := rfl
  constructor
  · intro found
    rw [fit?] at found
    split at found
    · next inside =>
      cases found
      exact Int64.toInt_ofInt_of_le (by omega) (by omega)
    · cases found
  · rintro rfl
    rw [fit?, if_pos ⟨number.minValue_le_toInt, number.toInt_le⟩, Int64.ofInt_toInt]

/-- A value that fails the check is out of range, below the least integer or above the greatest. -/
theorem fit?_eq_none_iff {value : Int} :
    fit? value = none ↔ value < Int64.minValue.toInt ∨ Int64.maxValue.toInt < value := by
  rw [fit?]
  split
  · next inside => exact iff_of_false nofun (by omega)
  · next outside => exact iff_of_true rfl (by omega)

/-- A number that does not fit has no larger one of the same sign that does. So a failure on the way
is one in the end. -/
theorem fit?_signed_of_le {negative : Bool} {value larger : Nat} (le : value ≤ larger)
    (failed : fit? (signed negative value) = none) : fit? (signed negative larger) = none := by
  have least : Int64.minValue.toInt < 0 := by decide
  have greatest : 0 < Int64.maxValue.toInt := by decide
  rw [fit?_eq_none_iff] at failed ⊢
  cases negative with
  | false => rw [signed_false] at failed ⊢; omega
  | true => rw [signed_true] at failed ⊢; omega

/-! ## The digits one by one -/

variable {negative : Bool} {number : Int64} {value : Nat}

/-- The digits behind a number make it no smaller, be they zeros or not. -/
theorem le_ofDigitChars (digits : List Char) (start : Nat) :
    start ≤ Nat.ofDigitChars 10 digits start := by
  induction digits generalizing start with
  | nil => exact Nat.le_refl _
  | cons char digits ih =>
    rw [Nat.ofDigitChars_cons]
    exact Nat.le_trans (by omega) (ih _)

/-- One digit more is one check of the number with it: the check of the product is part of that of
the sum. -/
theorem push?_digit (same : number.toInt = signed negative value) {char : Char}
    (digit : char.isDigit = true) :
    push? negative number char =
      fit? (signed negative (10 * value + (char.toNat - '0'.toNat))) := by
  have scaled : number.toInt * 10 = signed negative (10 * value) := by
    rw [same]
    cases negative <;> simp only [signed_false, signed_true] <;> omega
  have total (digit : Nat) : signed negative (10 * value) + signed negative digit =
      signed negative (10 * value + digit) := by
    cases negative <;> simp only [signed_false, signed_true] <;> omega
  rw [push?, digit, scaled]
  cases shifted : fit? (signed negative (10 * value)) with
  | none =>
    -- The number with the digit is no smaller than the one without.
    exact (fit?_signed_of_le (Nat.le_add_right ..) shifted).symm
  | some shifted' =>
    rw [← total, ← fit?_eq_some_iff.1 shifted]
    rfl

/-- **Checks on the way**: whatever has been read so far, the digits that follow come to one check
of the whole number, by induction on them. -/
theorem foldlM_push? (digits : List Char) (same : number.toInt = signed negative value) :
    digits.foldlM (push? negative) number =
      if digits.all Char.isDigit then fit? (signed negative (Nat.ofDigitChars 10 digits value))
      else none := by
  induction digits generalizing number value with
  | nil => exact (fit?_eq_some_iff.2 same).symm
  | cons char digits ih =>
    rw [List.foldlM_cons, List.all_cons, Nat.ofDigitChars_cons]
    cases digit : char.isDigit with
    | false =>
      rw [push?, digit]
      rfl
    | true =>
      rw [push?_digit same digit, Bool.true_and]
      cases pushed : fit? (signed negative (10 * value + (char.toNat - '0'.toNat))) with
      | some next => exact ih (fit?_eq_some_iff.1 pushed)
      | none =>
        -- Out of range once, out of range for ever.
        rw [fit?_signed_of_le (le_ofDigitChars digits _) pushed, ite_self]
        rfl

/-- A run of digits is read as its value behind its sign, if that is in range; without a digit
nothing is read. -/
theorem pushAll?_eq (negative : Bool) (digits : List Char) :
    pushAll? negative digits =
      (natural? digits).bind fun value => fit? (signed negative value) := by
  have zero : (0 : Int64).toInt = signed negative 0 := by
    cases negative <;> rfl
  rw [pushAll?, natural?]
  cases digits with
  | nil => rfl
  | cons char digits =>
    rw [foldlM_push? (char :: digits) zero]
    simp only [List.isEmpty_cons, Bool.false_eq_true, if_false, Bool.not_false, Bool.true_and]
    split <;> rfl

/-- Reading a text is one check of the whole value by `fit?`. -/
theorem read?_eq_bind (text : String) : read? text = (integer? text.toList).bind fit? := by
  rw [read?]
  cases integer? text.toList <;> rfl

/-- Checking at each digit comes to the same as checking the whole value, for every text. -/
theorem readChecked?_eq (text : String) : readChecked? text = read? text := by
  have mapped (sign : Nat → Int) (value? : Option Nat) :
      (value?.map sign).bind fit? = value?.bind fun value => fit? (sign value) := by
    cases value? <;> rfl
  rw [read?_eq_bind, readChecked?]
  fun_cases integer? text.toList with
  | case1 digits =>
    rw [mapped]
    exact pushAll?_eq false digits
  | case2 digits =>
    rw [mapped]
    exact pushAll?_eq true digits
  | case3 chars no_plus no_minus =>
    rw [mapped, pushSigned?]
    · exact pushAll?_eq false _
    · exact no_plus
    · exact no_minus

/-- The least integer is read down to its last digit, and one less is refused there. -/
example : readChecked? "-09223372036854775808" = some Int64.minValue ∧
    readChecked? "-9223372036854775809" = none := by decide +kernel

/-! ## Written integers -/

/-- Numbers are written with digits, by `Nat.toDigits` at base 10. -/
theorem all_isDigit_toDigits (value : Nat) : (Nat.toDigits 10 value).all Char.isDigit = true :=
  List.all_eq_true.2 fun _ => Nat.isDigit_of_mem_toDigits (by decide) (by decide)

/-- The digits of a number have its value when `natural?` reads them. -/
theorem natural?_toDigits (value : Nat) : natural? (Nat.toDigits 10 value) = some value := by
  rw [natural?, if_pos, Nat.ofDigitChars_ten_toDigits]
  simp [all_isDigit_toDigits, Nat.toDigits_ne_nil]

/-- What is not negative is written with its digits alone, without a sign. -/
theorem write_of_nonneg {value : Int64} (nonneg : 0 ≤ value.toInt) :
    write value = String.ofList (Nat.toDigits 10 value.toInt.natAbs) := by
  obtain ⟨size, same⟩ := Int.eq_ofNat_of_zero_le nonneg
  rw [write, same]
  exact Nat.repr_eq_ofList_toDigits

/-- What is negative is written with a minus sign before the digits of its absolute value. -/
theorem write_of_neg {value : Int64} (negative : value.toInt < 0) :
    write value = "-" ++ String.ofList (Nat.toDigits 10 value.toInt.natAbs) := by
  obtain ⟨size, same⟩ := Int.eq_negSucc_of_lt_zero negative
  rw [write, same]
  exact congrArg ("-" ++ ·) Nat.repr_eq_ofList_toDigits

/-- What is written is read back, the least integer included. -/
theorem read?_write (value : Int64) : read? (write value) = some value := by
  rcases Int.lt_or_le value.toInt 0 with negative | nonneg
  · have chars : (write value).toList = '-' :: Nat.toDigits 10 value.toInt.natAbs := by
      rw [write_of_neg negative, String.toList_append]
      exact congrArg ('-' :: ·) String.toList_ofList
    have turned : value.toInt = -(value.toInt.natAbs : Int) := by omega
    rw [read?_eq_bind, chars, integer?, natural?_toDigits]
    exact fit?_eq_some_iff.2 turned
  · have digits := List.all_eq_true.1 (all_isDigit_toDigits value.toInt.natAbs)
    have size : (value.toInt.natAbs : Int) = value.toInt := Int.natAbs_of_nonneg nonneg
    rw [write_of_nonneg nonneg, read?_digits Nat.toDigits_ne_nil digits,
      Nat.ofDigitChars_ten_toDigits, size, if_pos value.toInt_le, Int64.ofInt_toInt]

end Monkey.Decimal
