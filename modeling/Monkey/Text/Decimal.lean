/-! # Decimal integers

The text of a signed 64-bit integer: an optional sign and at least one ASCII digit, leading zeros
allowed, when read by `Decimal.read?`; a minus sign and no needless zero when written by
`Decimal.write`. On digits alone `read?_digits` says what is read: their value, if it is in range. -/

namespace Monkey.Decimal

/-- The value of a run of ASCII digits, of which there is at least one, as `Nat.ofDigitChars` counts
them. -/
def natural? (digits : List Char) : Option Nat :=
  if !digits.isEmpty && digits.all Char.isDigit then some (Nat.ofDigitChars 10 digits 0) else none

/-- The value of a run of digits behind at most one sign, without regard to any range. -/
def integer? : List Char → Option Int
  | '+' :: digits => (natural? digits).map Int.ofNat
  | '-' :: digits => (natural? digits).map fun value => -Int.ofNat value
  | digits => (natural? digits).map Int.ofNat

/-- The signed 64-bit integer that a text denotes; values out of range are refused. -/
def read? (text : String) : Option Int64 :=
  match integer? text.toList with
  | some value =>
    if Int64.minValue.toInt ≤ value ∧ value ≤ Int64.maxValue.toInt then some (.ofInt value)
    else none
  | none => none

/-- The text of a signed 64-bit integer: a minus sign if it is negative, and digits without needless
zeros. -/
def write (value : Int64) : String := toString value.toInt

/-- A run of digits alone is read by `read?` as its value, if that is no greater than
`Int64.maxValue`, and refused otherwise. -/
theorem read?_digits {digits : List Char} (some_digit : digits ≠ [])
    (all_digits : ∀ char ∈ digits, char.isDigit = true) :
    read? (String.ofList digits) =
      if (Nat.ofDigitChars 10 digits 0 : Int) ≤ Int64.maxValue.toInt
      then some (.ofInt (Nat.ofDigitChars 10 digits 0)) else none := by
  have value : natural? digits = some (Nat.ofDigitChars 10 digits 0) := by
    have all : digits.all Char.isDigit = true := List.all_eq_true.2 all_digits
    simp [natural?, some_digit, all]
  have no_sign : integer? digits = (natural? digits).map Int.ofNat := by
    unfold integer?
    split
    · exact absurd (all_digits '+' (List.mem_cons_self ..)) (by decide)
    · exact absurd (all_digits '-' (List.mem_cons_self ..)) (by decide)
    · rfl
  have above : Int64.minValue.toInt ≤ (Nat.ofDigitChars 10 digits 0 : Int) :=
    Int.le_trans (by decide) (Int.natCast_nonneg _)
  simp only [read?, String.toList_ofList, no_sign, value, Option.map_some, Int.ofNat_eq_natCast,
    above, true_and]

end Monkey.Decimal
