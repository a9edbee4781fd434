import Monkey.Eval.Evaluator
import Monkey.Proofs.Parse.LooseEnds
import Monkey.Proofs.Parse.Rendering
import Monkey.Proofs.Text.CheckedDecimal

/-! # Integer literals

A run of digits alone is a source: it is read as the literal that it is, up to the greatest signed
64-bit integer, and otherwise refused (`run_digits`). A minus sign before it is an operator of its
own, so the digits behind the sign have to be in range by themselves. That is why the least
integer is the only one whose text cannot be read back (`run_display_integer`). -/

namespace Monkey

open Parse ParseM

/-! ## Literals that are refused -/

namespace Parse.Context

variable {limit : Option Nat} {recorded : List ParseError} {bound depth : Nat}
  {floor : Precedence} {cursor : Cursor}

/-- Where one level more is allowed, an expression fails as its first operand does:
`Context.descend` passes, and nothing goes on behind the error. -/
theorem expressionStep_of_operand_error {reader : Nat → ExprReader} {error : ParseError}
    {place : Cursor} (within : Within limit (depth + 1))
    (run : (plain limit recorded).operand (reader (depth + 1)) bound cursor = .error error place) :
    (plain limit recorded).expressionStep reader bound depth floor cursor = .error error place := by
  have allowed : (plain limit recorded).descend (m := ParseM) depth cursor.current cursor =
      .ok () cursor := descend_eq_ok_iff.2 ⟨within, rfl⟩
  rw [expressionStep, current_bind, bind_ok allowed, bind_error run]

/-- A literal that `Decimal.read?` refuses is an error where it stands. -/
theorem expression_unread (stands : cursor.current.kind = .int)
    (unread : Decimal.read? cursor.current.literal = none) (within : Within limit (depth + 1)) :
    (plain limit recorded).expression bound depth floor cursor =
      .error (.invalidInteger cursor.current.literal cursor.current.position) cursor := by
  have operand (inner : ExprReader) (loop : Nat) :
      (plain limit recorded).operand inner loop cursor =
        .error (.invalidInteger cursor.current.literal cursor.current.position) cursor := by
    rw [operand_apply, stands]
    simp only [integer, unread]
    rfl
  cases bound <;> exact expressionStep_of_operand_error within (operand _ _)

/-- So is a refused literal behind a minus sign, which takes one level and moves on to the literal.
-/
theorem expression_neg_unread (stands : cursor.current.kind = .minus)
    (next : cursor.peek.kind = .int) (unread : Decimal.read? cursor.peek.literal = none)
    (within : Within limit (depth + 2)) :
    (plain limit recorded).expression (bound + 1) depth floor cursor =
      .error (.invalidInteger cursor.peek.literal cursor.peek.position) cursor.advance := by
  refine expressionStep_of_operand_error (within.mono (Nat.le_succ _)) ?_
  rw [operand_apply, stands]
  simp only [unary, advance_bind]
  exact bind_error (expression_unread next unread within)

end Parse.Context

/-- Where the first expression of a source fails at the last token, it makes the only error, as
there is nothing left to recover to. -/
theorem Grammar.errors_of_expression_error {limit : Option Nat} {stream : TokenStream}
    {place : Cursor} {error : ParseError}
    (starts : (Cursor.start stream).current.kind.startsOperand = true)
    (run : (Context.plain limit []).expression stream.tokens.length 0 .lowest (.start stream) =
      .error error place) (last : place.size ≤ 1) :
    ((limited limit).parse stream).errors = [error] := by
  have inside : (Cursor.start stream).current.kind ≠ .eof :=
    TokenKind.ne_of_startsOperand starts rfl
  have outside : (Cursor.start stream).openedThrough = 0 := by
    refine Cursor.openedThrough_of_not_brace ?_
    generalize (Cursor.start stream).current.kind = kind at starts
    cases kind <;> first | rfl | cases starts
  have broken : statement ((Context.plain limit []).expression stream.tokens.length 0)
      (.start stream) = .error error place := by
    rw [statement, current_bind]
    generalize (Cursor.start stream).current.kind = kind at starts
    cases kind <;> first | exact bind_error run | cases starts
  obtain ⟨fewer, length⟩ : ∃ fewer, stream.tokens.length = fewer + 1 :=
    Nat.exists_eq_succ_of_ne_zero fun empty => inside (current_kind_of_size_eq_zero empty)
  rw [length] at broken
  obtain ⟨-, -, errors⟩ := parseFrom_failed inside outside (Nat.le_of_eq length) broken
  -- Recovery gets no further back than the last token, and the move behind it ends the input.
  have passed := (Cursor.reaches_recover .builtin 0 place).size_le
  have ended : (place.recover .builtin 0).advance.atEnd = true := by
    refine Cursor.atEnd_of_size_eq_zero ?_
    rw [Cursor.size_advance]
    omega
  rw [parseFrom_atEnd ended] at errors
  rw [parse, length]
  exact errors

/-! ## Digits alone and behind a minus sign -/

namespace IsDigits

variable {text : String}

/-- A run of digits is one token, of kind `int` and with the digits as its literal. -/
theorem scanChars_eq (digits : IsDigits text) (position : Position) :
    scanChars position text.toList = [⟨.int, text, position⟩] := by
  obtain ⟨some_digit, all⟩ := digits
  obtain ⟨chars, rfl⟩ : ∃ chars, text = String.ofList chars := ⟨text.toList, by simp⟩
  rw [String.toList_ofList] at some_digit all ⊢
  cases chars with
  | nil => exact absurd rfl some_digit
  | cons first rest =>
    rw [List.all_cons, Bool.and_eq_true] at all
    obtain ⟨digit, all⟩ := all
    have tail : lexemeTail first (rest ++ []) = rest :=
      lexemeTail_digits digit (List.all_eq_true.1 all) (by simp)
    rw [List.append_nil] at tail
    rw [scanChars_lexeme (isBlank_eq_false (.inr digit)), tail, TokenKind.ofLexeme_digit digit,
      List.drop_length, scanChars_nil]

/-- A minus sign before a run of digits is one token more, and no part of the literal. -/
theorem scanChars_neg (digits : IsDigits text) :
    scanChars .start ("-" ++ text).toList = [⟨.minus, "-", ⟨1, 1⟩⟩, ⟨.int, text, ⟨1, 2⟩⟩] := by
  have sign : ("-" ++ text).toList = '-' :: text.toList := String.toList_append
  have visible : isBlank '-' = false := rfl
  have tail : lexemeTail '-' text.toList = [] := rfl
  rw [sign, scanChars_lexeme visible, tail, List.length_nil, List.drop_zero, digits.scanChars_eq]
  rfl

/-- Digits that denote an integer are read as its literal, alone as behind a minus sign. -/
theorem parse_of_read (digits : IsDigits text) {value : Int64}
    (read : Decimal.read? text = some value) :
    Program.parse text = .ok ⟨[.exprStmt (.int value text)]⟩ ∧
      Program.parse ("-" ++ text) = .ok ⟨[.exprStmt (.unary .neg (.int value text))]⟩ := by
  have minus : Cuts "-" [⟨.minus, "-"⟩] := cuts_sign rfl rfl rfl (by decide)
  have parsed {source : String} {level : Level} {tree : Expr} {symbols : List Symbol}
      (spelled : symbolsOf source.toList = symbols)
      (derivation : Derivation (.expression level tree) symbols)
      (shallow : derivation.nesting ≤ 1024) :
      Program.parse source = .ok ⟨[.exprStmt tree]⟩ := by
    subst spelled
    obtain ⟨whole, same⟩ := derivation.exists_single
    exact (Program.parse_of_derivation whole).1 (same ▸ shallow)
  constructor
  · exact parsed digits.spells.symbolsOf_eq (.integer read) (by decide : 1 ≤ 1024)
  · exact parsed (minus.append_spells digits.spells).symbolsOf_eq
      (.unary .neg "-" (.tighter (.integer read))) (by decide : 2 ≤ 1024)

/-- Digits that denote no integer make `ParseError.invalidInteger` the only error, alone as behind a
minus sign. -/
theorem parse_of_unread (digits : IsDigits text) (unread : Decimal.read? text = none) :
    Program.parse text = .error [.invalidInteger text ⟨1, 1⟩] ∧
      Program.parse ("-" ++ text) = .error [.invalidInteger text ⟨1, 2⟩] := by
  have refused {source : String} {error : ParseError}
      (errors : (Grammar.standard.parse (.ofSource source)).errors = [error]) :
      Program.parse source = .error [error] := by
    rw [Program.parse, ParseOutcome.toExcept, errors]
    rfl
  have alone : TokenStream.ofSource text = ⟨[⟨.int, text, ⟨1, 1⟩⟩], _⟩ :=
    congrArg (TokenStream.mk · _) (digits.scanChars_eq .start)
  have signed : TokenStream.ofSource ("-" ++ text) =
      ⟨[⟨.minus, "-", ⟨1, 1⟩⟩, ⟨.int, text, ⟨1, 2⟩⟩], _⟩ :=
    congrArg (TokenStream.mk · _) digits.scanChars_neg
  constructor
  · refine refused ?_
    rw [alone]
    exact Grammar.errors_of_expression_error rfl
      (Context.expression_unread rfl unread (Within.some_iff.2 (by decide))) (Nat.le_refl 1)
  · refine refused ?_
    rw [signed]
    exact Grammar.errors_of_expression_error rfl
      (Context.expression_neg_unread rfl rfl unread (Within.some_iff.2 (by decide)))
      (Nat.le_refl 1)

end IsDigits

/-! ## Values -/

/-- A source that is one expression comes to the integer that the expression always comes to,
whatever the configuration and the bindings. -/
theorem run_of_expression {source : String} {tree : Expr} {value : Int64} {config : Config}
    (parsed : Program.parse source = .ok ⟨[.exprStmt tree]⟩)
    (always : ∀ call env heap, (tree.eval config call env).run heap = (.integer value, heap))
    (heap : Heap) : ((run source config).run heap).1 = .ok (.integer value) := by
  have whole (env : Env) (heap : Heap) :
      (Evaluator.eval ⟨config, env⟩ (.program ⟨[.exprStmt tree]⟩)).run heap =
        (.integer value, heap) := by
    change (Program.evalFrom config _ env .null [.exprStmt tree]).run heap = _
    rw [Program.evalFrom_run, Stmt.eval, always]
    rfl
  rw [run, parsed]
  simp only [Evaluator.new, bind_assoc, pure_bind, StateT.run_bind, EvalM.newScope_run]
  dsimp only [bind]
  rw [whole]
  rfl

/-! ## Every run of digits -/

/-- A run of digits is read by `Decimal.read?` as the number it denotes up to the greatest integer,
and beyond that not at all. -/
theorem IsDigits.read_cases {text : String} (digits : IsDigits text) :
    let value := Nat.ofDigitChars 10 text.toList 0
    (value ≤ Int64.maxValue.toInt →
        ∃ literal : Int64, literal.toInt = value ∧ Decimal.read? text = some literal) ∧
      (Int64.maxValue.toInt < value → Decimal.read? text = none) := by
  intro value
  have greatest : Int64.maxValue.toInt = 2 ^ 63 - 1 := rfl
  constructor
  · intro small
    have same : (Int64.ofInt value).toInt = value :=
      Int64.toInt_ofInt_of_le (by omega) (by omega)
    exact ⟨.ofInt value, same, digits.read_eq_some_iff.2 ⟨digits, same⟩⟩
  · intro large
    refine Option.eq_none_iff_forall_ne_some.2 fun literal read => ?_
    have same : literal.toInt = value := (digits.read_eq_some_iff.1 read).value_eq
    have small := literal.toInt_le
    omega

/-- A run of digits, however long and with however many zeros in front, is a program of one literal
if the number it denotes is at most the greatest integer. The literal keeps its text, and the
program comes to the number. Any other run of digits is one error, at its first digit. A check of
the range at each digit accepts and refuses the same. -/
theorem run_digits {text : String} (digits : IsDigits text) :
    let value := Nat.ofDigitChars 10 text.toList 0
    (value ≤ Int64.maxValue.toInt → ∃ literal : Int64, literal.toInt = value ∧
        Decimal.readChecked? text = some literal ∧
        Program.parse text = .ok ⟨[.exprStmt (.int literal text)]⟩ ∧
        Program.render ⟨[.exprStmt (.int literal text)]⟩ = text ∧
        ∀ config heap, ((run text config).run heap).1 = .ok (.integer literal)) ∧
      (Int64.maxValue.toInt < value → Decimal.readChecked? text = none ∧
        Program.parse text = .error [.invalidInteger text ⟨1, 1⟩]) := by
  intro value
  rw [Decimal.readChecked?_eq]
  obtain ⟨fits, exceeds⟩ := digits.read_cases
  constructor
  · intro small
    obtain ⟨literal, same, read⟩ := fits small
    have parsed := (digits.parse_of_read read).1
    exact ⟨literal, same, read, parsed, rfl,
      fun config => run_of_expression parsed fun _ _ _ => rfl⟩
  · intro large
    have unread := exceeds large
    exact ⟨unread, (digits.parse_of_unread unread).1⟩

/-- With zeros in front the greatest integer is longer and no larger, and one more is refused. -/
theorem run_digits_greatest :
    IsDigits "0009223372036854775807" ∧ IsDigits "9223372036854775808" ∧
      Program.parse "0009223372036854775807" =
        .ok ⟨[.exprStmt (.int Int64.maxValue "0009223372036854775807")]⟩ ∧
      Program.parse "9223372036854775808" =
        .error [.invalidInteger "9223372036854775808" ⟨1, 1⟩] := by
  have long : IsDigits "0009223372036854775807" := by decide
  have large : IsDigits "9223372036854775808" := by decide
  obtain ⟨literal, same, -, parsed, -⟩ := (run_digits long).1 (by decide +kernel)
  have greatest : literal = Int64.maxValue := Int64.toInt_inj.1 same
  obtain ⟨-, refused⟩ := (run_digits large).2 (by decide +kernel)
  exact ⟨long, large, greatest ▸ parsed, refused⟩

/-! ## Every integer -/

/-- A number is written with a run of digits, by `Nat.toDigits`. -/
theorem isDigits_toDigits (value : Nat) : IsDigits (String.ofList (Nat.toDigits 10 value)) := by
  constructor <;> rw [String.toList_ofList]
  · exact Nat.toDigits_ne_nil
  · exact Decimal.all_isDigit_toDigits value

section

variable {value : Int64}

/-- An integer that is not negative is read back from its `Value.display` as a literal. -/
theorem parse_display_of_nonneg (nonneg : 0 ≤ value.toInt) :
    Program.parse (Value.integer value).display =
      .ok ⟨[.exprStmt (.int value (Value.integer value).display)]⟩ := by
  have digits : IsDigits (Decimal.write value) := by
    rw [Decimal.write_of_nonneg nonneg]
    exact isDigits_toDigits _
  exact (digits.parse_of_read (Decimal.read?_write value)).1

/-- A negative integer is read back from its `Value.display` as a minus sign before the literal of
its opposite, except the least one, which has none. -/
theorem parse_display_of_neg (negative : value.toInt < 0) (above : value ≠ Int64.minValue) :
    ∃ text, Program.parse (Value.integer value).display =
      .ok ⟨[.exprStmt (.unary .neg (.int (-value) text))]⟩ := by
  have digits := isDigits_toDigits value.toInt.natAbs
  have denoted : Nat.ofDigitChars 10
      (String.ofList (Nat.toDigits 10 value.toInt.natAbs)).toList 0 = value.toInt.natAbs := by
    rw [String.toList_ofList, Nat.ofDigitChars_ten_toDigits]
  have small : (value.toInt.natAbs : Int) ≤ Int64.maxValue.toInt := by
    have least : Int64.minValue.toInt = -Int64.maxValue.toInt - 1 := rfl
    have bound := value.minValue_le_toInt
    have apart : value.toInt ≠ Int64.minValue.toInt := mt Int64.toInt_inj.1 above
    omega
  obtain ⟨literal, same, read⟩ := digits.read_cases.1 (by rwa [denoted])
  have opposite : literal = -value := by
    have same : literal.toInt = -value.toInt := by omega
    rw [← Int64.ofInt_toInt literal, same, Int64.ofInt_neg, Int64.ofInt_toInt]
  have parsed := (digits.parse_of_read read).2
  rw [← Decimal.write_of_neg negative, opposite] at parsed
  exact ⟨_, parsed⟩

end

/-- The digits of the least integer denote a number that is too large, and the sign before them is
no part of the literal. -/
theorem parse_display_minValue : Program.parse (Value.integer Int64.minValue).display =
    .error [.invalidInteger "9223372036854775808" ⟨1, 2⟩] := by
  have digits : IsDigits "9223372036854775808" := by decide
  exact (digits.parse_of_unread (by decide +kernel)).2

/-- The text of an integer is a source that comes to the integer. The text of the least one alone is
refused, for the digits behind its sign. -/
theorem run_display_integer (value : Int64) (config : Config) (heap : Heap) :
    ((run (Value.integer value).display config).run heap).1 =
      if value = Int64.minValue then
        .error (.parse [.invalidInteger "9223372036854775808" ⟨1, 2⟩])
      else .ok (.integer value) := by
  by_cases least : value = Int64.minValue
  · subst least
    rw [if_pos rfl, run, parse_display_minValue]
    rfl
  · rw [if_neg least]
    rcases Int.lt_or_le value.toInt 0 with negative | nonneg
    · obtain ⟨text, parsed⟩ := parse_display_of_neg negative least
      refine run_of_expression parsed (fun call env heap => ?_) heap
      change (Value.integer (- -value), heap) = _
      rw [Int64.neg_neg]
    · exact run_of_expression (parse_display_of_nonneg nonneg) (fun _ _ _ => rfl) heap

/-- Not every integer is read back from its text: the least one is not. -/
theorem not_run_display_minValue :
    ¬∀ value : Int64,
      ((run (Value.integer value).display).run .empty).1 = .ok (.integer value) := by
  intro all
  have least := all Int64.minValue
  rw [run, parse_display_minValue] at least
  cases least

end Monkey
