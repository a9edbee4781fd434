import Monkey.Proofs.Token.Symbol
import Monkey.Token.Scan

/-! # How symbols are spelled

The symbols of a text (`symbolsOf`) do not depend on where the text starts. A piece of text spells
its own symbols wherever it stands, as long as what follows does not carry on its last lexeme
(`Spells`), or whatever follows (`Cuts`); so the symbols of a longer text are put together from
those of its pieces, by the laws of `append`. What scanning makes of words, numbers and signs is
`WellSpelled`. -/

namespace Monkey

/-- The symbols that a text is cut into, by scanning it from the start. -/
def symbolsOf (chars : List Char) : List Symbol := (scanChars .start chars).map Token.symbol

/-- Where a text starts makes no difference to its symbols, by the recursion of `scanChars`. -/
theorem map_symbol_scanChars (left right : Position) (chars : List Char) :
    (scanChars left chars).map Token.symbol = (scanChars right chars).map Token.symbol := by
  match chars with
  | [] => rw [scanChars_nil, scanChars_nil]
  | first :: rest =>
    -- Both scans cut the same lexeme off, and only the places of what follows differ.
    cases visible : isBlank first with
    | true =>
      rw [scanChars_blank visible, scanChars_blank visible]
      exact map_symbol_scanChars _ _ rest
    | false =>
      rw [scanChars_lexeme visible, scanChars_lexeme visible, List.map_cons, List.map_cons]
      exact congrArg (_ :: ·) (map_symbol_scanChars _ _ _)
termination_by chars.length
decreasing_by all_goals simp only [List.length_cons, List.length_drop]; omega

/-- The symbols of a source are those of its characters. -/
theorem map_symbol_ofSource (source : String) :
    (TokenStream.ofSource source).tokens.map Token.symbol = symbolsOf source.toList := rfl

@[simp] theorem symbolsOf_nil : symbolsOf [] = [] := by
  rw [symbolsOf, scanChars_nil, List.map_nil]

/-- A blank spells nothing, be it a space, a tabulator or a line break. -/
theorem symbolsOf_blank {first : Char} (blank : isBlank first = true) (rest : List Char) :
    symbolsOf (first :: rest) = symbolsOf rest := by
  rw [symbolsOf, scanChars_blank blank, symbolsOf]
  exact map_symbol_scanChars _ _ rest

/-- Any other character starts a lexeme, which goes on with its `lexemeTail`. -/
theorem symbolsOf_lexeme {first : Char} (visible : isBlank first = false) (rest : List Char) :
    symbolsOf (first :: rest) =
      ⟨.ofLexeme (first :: lexemeTail first rest), String.ofList (first :: lexemeTail first rest)⟩ ::
        symbolsOf (rest.drop (lexemeTail first rest).length) := by
  rw [symbolsOf, scanChars_lexeme visible, List.map_cons, symbolsOf]
  exact congrArg (_ :: ·) (map_symbol_scanChars _ _ _)

/-- What holds of the symbols of lexemes holds of all symbols of a text, by induction along the
text. -/
theorem forall_symbolsOf (holds : Symbol → Prop)
    (lexeme : ∀ first rest, isBlank first = false →
      holds ⟨.ofLexeme (first :: lexemeTail first rest),
        String.ofList (first :: lexemeTail first rest)⟩)
    {symbol : Symbol} {chars : List Char} (mem : symbol ∈ symbolsOf chars) : holds symbol := by
  -- Along the scan: a symbol is that of the first lexeme or one of those behind it.
  match chars with
  | [] => simp at mem
  | first :: rest =>
    cases visible : isBlank first with
    | true =>
      rw [symbolsOf_blank visible] at mem
      exact forall_symbolsOf holds lexeme mem
    | false =>
      rw [symbolsOf_lexeme visible, List.mem_cons] at mem
      obtain rfl | mem := mem
      · exact lexeme first rest visible
      · exact forall_symbolsOf holds lexeme mem
termination_by chars.length
decreasing_by all_goals simp only [List.length_cons, List.length_drop]; omega

/-! ## Blanks -/

/-- Blanks move the place only, in `scanChars` as elsewhere. -/
theorem scanChars_blanks {blanks : List Char} (blank : ∀ char ∈ blanks, isBlank char = true)
    (position : Position) (rest : List Char) :
    scanChars position (blanks ++ rest) = scanChars (position.after blanks) rest := by
  induction blanks generalizing position with
  | nil => rfl
  | cons char blanks ih =>
    rw [List.forall_mem_cons] at blank
    rw [List.cons_append, scanChars_blank blank.1, ih blank.2, Position.after_cons]

/-- A text starts with all its blanks up to the first lexeme, if there is one. -/
theorem exists_blanks (chars : List Char) :
    ∃ blanks rest, chars = blanks ++ rest ∧ (∀ char ∈ blanks, isBlank char = true) ∧
      ∀ first ∈ rest.head?, isBlank first = false := by
  refine ⟨_, _, List.takeWhile_append_dropWhile.symm, List.all_eq_true.1 List.all_takeWhile, ?_⟩
  intro first next
  have visible := List.head?_dropWhile_not isBlank chars
  rwa [Option.mem_def.1 next] at visible

/-! ## Lexemes -/

/-- A text that carries on no lexeme before it: it is empty or starts with neither a letter nor a
digit nor `=`. -/
def Breaks (rest : List Char) : Prop :=
  ∀ char ∈ rest.head?, isLetter char = false ∧ char.isDigit = false ∧ char ≠ '='

@[simp] theorem breaks_nil : Breaks [] := nofun

/-- A text breaks off by its first character, if it has one. -/
@[simp] theorem breaks_cons {char : Char} {rest : List Char} :
    Breaks (char :: rest) ↔ isLetter char = false ∧ char.isDigit = false ∧ char ≠ '=' := by
  simp [Breaks]

/-- A run of characters of a kind ends where a character of another kind follows. -/
theorem takeWhile_run {isOne : Char → Bool} {run rest : List Char}
    (all : ∀ char ∈ run, isOne char = true) (ends : ∀ char ∈ rest.head?, isOne char = false) :
    (run ++ rest).takeWhile isOne = run := by
  rw [List.takeWhile_append_of_pos all]
  cases rest with
  | nil => simp
  | cons char rest => simp [ends char rfl]

/-- Behind a run the rest starts: to drop as many characters as `takeWhile` takes is `dropWhile`. -/
theorem drop_takeWhile (isOne : Char → Bool) (chars : List Char) :
    chars.drop (chars.takeWhile isOne).length = chars.dropWhile isOne := calc
  chars.drop (chars.takeWhile isOne).length =
      (chars.takeWhile isOne ++ chars.dropWhile isOne).drop (chars.takeWhile isOne).length := by
    rw [List.takeWhile_append_dropWhile]
  _ = chars.dropWhile isOne := List.drop_left

/-- Letters and digits are no blanks, so they are visible. -/
theorem isBlank_eq_false {char : Char} (visible : isLetter char = true ∨ char.isDigit = true) :
    isBlank char = false := by
  rw [Bool.eq_false_iff]
  intro blank
  -- There are four blanks, and none of them is a letter or a digit.
  simp only [isBlank, Bool.or_eq_true, decide_eq_true_eq] at blank
  obtain ((rfl | rfl) | rfl) | rfl := blank <;> revert visible <;> decide

/-- No digit is a letter, so words and numbers end where the other starts. -/
theorem not_letter_of_digit {char : Char} (digit : char.isDigit = true) :
    ¬isLetter char = true := by
  intro letter
  simp only [isLetter, Bool.or_eq_true, decide_eq_true_eq] at letter
  obtain alpha | rfl := letter
  · -- All digits come before all letters.
    have small : char.toNat ≤ 57 := (Char.isDigit_iff_toNat.1 digit).2
    obtain upper | lower := Bool.or_eq_true_iff.1 alpha
    · have large : 65 ≤ char.toNat := UInt32.le_iff_toNat_le.1 (of_decide_eq_true upper).1
      omega
    · have large : 97 ≤ char.toNat :=
        UInt32.le_iff_toNat_le.1 (of_decide_eq_true (Bool.and_eq_true_iff.1 lower).1)
      omega
  · -- the underscore
    exact absurd digit (by decide)

/-- A lexeme that starts with a digit goes on up to the last digit of the run. -/
theorem lexemeTail_digits {first : Char} {run rest : List Char} (digit : first.isDigit = true)
    (all : ∀ char ∈ run, char.isDigit = true) (ends : ∀ char ∈ rest.head?, char.isDigit = false) :
    lexemeTail first (run ++ rest) = run := by
  rw [lexemeTail, if_neg (not_letter_of_digit digit), if_pos digit]
  exact takeWhile_run all ends

/-- A sign that may go on with `=` takes one behind it, if there is one. -/
theorem lexemeTail_sign {first : Char} (sign : first = '=' ∨ first = '!') (rest : List Char) :
    lexemeTail first rest = if rest.head? = some '=' then ['='] else [] := by
  have apart : isLetter first = false ∧ first.isDigit = false := by
    obtain rfl | rfl := sign <;> decide
  rw [lexemeTail, apart.1, apart.2, if_neg Bool.false_ne_true, if_neg Bool.false_ne_true]
  simp [sign]

namespace TokenKind

variable {first : Char} {rest : List Char}

/-- A lexeme that starts with a letter is a word, and its kind is that of `ofWord`. -/
theorem ofLexeme_letter (letter : isLetter first = true) :
    ofLexeme (first :: rest) = ofWord (String.ofList (first :: rest)) := by
  unfold ofLexeme
  split
  · next same => cases same
  · next same => cases same; exact absurd letter (by decide)
  · next same => cases same; exact absurd letter (by decide)
  · next same =>
    cases same
    rw [if_pos letter]

/-- A lexeme that starts with a digit is an integer literal, whatever digits follow. -/
theorem ofLexeme_digit (digit : first.isDigit = true) : ofLexeme (first :: rest) = .int := by
  unfold ofLexeme
  split
  · next same => cases same
  · next same => cases same; exact absurd digit (by decide)
  · next same => cases same; exact absurd digit (by decide)
  · next same =>
    cases same
    rw [if_neg (not_letter_of_digit digit), if_pos digit]

end TokenKind

/-! ## Signs -/

/-- A sign spells itself, unless it is the first half of a longer one. -/
theorem symbolsOf_sign {first : Char} {rest : List Char} (visible : isBlank first = false)
    (not_letter : isLetter first = false) (not_digit : first.isDigit = false)
    (single : first = '=' ∨ first = '!' → rest.head? ≠ some '=') :
    symbolsOf (first :: rest) =
      ⟨.ofSign first, String.ofList [first]⟩ :: symbolsOf rest := by
  -- Neither a run of letters or digits nor a second half comes behind it.
  have tail : lexemeTail first rest = [] := by
    simp only [lexemeTail, not_letter, not_digit]
    rw [if_neg Bool.false_ne_true, if_neg Bool.false_ne_true, if_neg]
    simp only [Bool.and_eq_true, Bool.or_eq_true, decide_eq_true_eq]
    exact fun ⟨half, second⟩ => single half second
  have kind : TokenKind.ofLexeme [first] = .ofSign first := by
    simp [TokenKind.ofLexeme, not_letter, not_digit]
  rw [symbolsOf_lexeme visible, tail, kind]
  rfl

/-! ## Pieces of text -/

/-- A text spells its symbols before any text that does not carry on its last lexeme, one that
`Breaks`. -/
def Spells (text : String) (symbols : List Symbol) : Prop :=
  ∀ rest, Breaks rest → symbolsOf (text.toList ++ rest) = symbols ++ symbolsOf rest

/-- A text spells its symbols whatever follows, for it ends with a sign or a blank. -/
def Cuts (text : String) (symbols : List Symbol) : Prop :=
  ∀ rest, symbolsOf (text.toList ++ rest) = symbols ++ symbolsOf rest

/-- A text that starts with a character that carries on no lexeme, so that it parts what stands
before it. -/
def Parts (text : String) : Prop := ∀ rest, Breaks (text.toList ++ rest)

/-- A text that cannot be taken for the second half of a sign, since it does not start with `=`. -/
def Opens (text : String) : Prop := ∃ char rest, text.toList = char :: rest ∧ char ≠ '='

variable {left right : String} {first second : List Symbol}

theorem Cuts.spells (cuts : Cuts left first) : Spells left first := fun rest _ => cuts rest

/-- A text that is cut off spells its symbols before those of the next one, which is not cut off. -/
theorem Cuts.append_spells (cuts : Cuts left first) (spells : Spells right second) :
    Spells (left ++ right) (first ++ second) := by
  intro rest breaks
  rw [String.toList_append, List.append_assoc, cuts, spells rest breaks, List.append_assoc]

/-- Texts that are cut off make a text that is: the law by which pieces are put together. -/
theorem Cuts.append (cuts : Cuts left first) (more : Cuts right second) :
    Cuts (left ++ right) (first ++ second) := by
  intro rest
  rw [String.toList_append, List.append_assoc, cuts, more, List.append_assoc]

/-- A text spells its symbols before a text that parts it from what follows. -/
theorem Spells.append (spells : Spells left first) (cuts : Cuts right second)
    (parts : Parts right) : Cuts (left ++ right) (first ++ second) := by
  intro rest
  rw [String.toList_append, List.append_assoc, spells _ (parts rest), cuts, List.append_assoc]

/-- The symbols of a text are those that it spells, when nothing follows. -/
theorem Spells.symbolsOf_eq (spells : Spells left first) : symbolsOf left.toList = first := by
  have whole := spells [] breaks_nil
  rwa [List.append_nil, symbolsOf_nil, List.append_nil] at whole

/-- A text parts if its first piece does, unless that is empty. -/
theorem Parts.append (parts : Parts left) (right : String) : Parts (left ++ right) := by
  intro rest
  rw [String.toList_append, List.append_assoc]
  exact parts _

/-- A text opens as its first piece does, whatever follows. -/
theorem Opens.append (opens : Opens left) (right : String) : Opens (left ++ right) := by
  obtain ⟨char, rest, eq, other⟩ := opens
  refine ⟨char, rest ++ right.toList, ?_, other⟩
  rw [String.toList_append, eq, List.cons_append]

theorem cuts_empty : Cuts "" [] := fun _ => rfl

/-- A space spells nothing and is cut off. -/
theorem cuts_space : Cuts " " [] := fun rest => symbolsOf_blank rfl rest

/-- A sign that is half of no other spells itself, whatever follows. -/
theorem cuts_sign {char : Char} (visible : isBlank char = false) (not_letter : isLetter char = false)
    (not_digit : char.isDigit = false) (whole : char ≠ '=' ∧ char ≠ '!') :
    Cuts (String.ofList [char]) [⟨.ofSign char, String.ofList [char]⟩] := by
  intro rest
  rw [String.toList_ofList]
  refine symbolsOf_sign visible not_letter not_digit fun half => ?_
  exact (half.elim whole.1 whole.2).elim

theorem cuts_lparen : Cuts "(" [⟨.lparen, "("⟩] :=
  cuts_sign (by decide) (by decide) (by decide) (by decide)

theorem cuts_rparen : Cuts ")" [⟨.rparen, ")"⟩] :=
  cuts_sign (by decide) (by decide) (by decide) (by decide)

theorem cuts_lbrace : Cuts "\x7b" [⟨.lbrace, "\x7b"⟩] :=
  cuts_sign (by decide) (by decide) (by decide) (by decide)

theorem cuts_rbrace : Cuts "\x7d" [⟨.rbrace, "\x7d"⟩] :=
  cuts_sign (by decide) (by decide) (by decide) (by decide)

theorem cuts_comma : Cuts "," [⟨.comma, ","⟩] :=
  cuts_sign (by decide) (by decide) (by decide) (by decide)

theorem cuts_semicolon : Cuts ";" [⟨.semicolon, ";"⟩] :=
  cuts_sign (by decide) (by decide) (by decide) (by decide)

theorem parts_space : Parts " " := fun _ => breaks_cons.2 (by decide)

theorem parts_rparen : Parts ")" := fun _ => breaks_cons.2 (by decide)

theorem parts_semicolon : Parts ";" := fun _ => breaks_cons.2 (by decide)

/-! ## Words and numbers -/

/-- A word ends where no letter follows, and its kind is that of `ofWord`. -/
theorem symbolsOf_word {word : String} {rest : List Char} (some_letter : word.toList ≠ [])
    (letters : word.toList.all isLetter = true)
    (ends : ∀ char ∈ rest.head?, isLetter char = false) :
    symbolsOf (word.toList ++ rest) = ⟨.ofWord word, word⟩ :: symbolsOf rest := by
  obtain ⟨chars, rfl⟩ : ∃ chars, word = String.ofList chars := ⟨word.toList, by simp⟩
  rw [String.toList_ofList] at some_letter letters ⊢
  cases chars with
  | nil => exact absurd rfl some_letter
  | cons first word =>
    rw [List.all_cons, Bool.and_eq_true] at letters
    obtain ⟨letter, letters⟩ := letters
    -- The letters behind the first one are the lexeme's tail, and no more of them follow.
    have tail : lexemeTail first (word ++ rest) = word := by
      rw [lexemeTail, if_pos letter]
      exact takeWhile_run (List.all_eq_true.1 letters) ends
    rw [List.cons_append, symbolsOf_lexeme (isBlank_eq_false (.inl letter)), tail,
      TokenKind.ofLexeme_letter letter, List.drop_left]

/-- A run of digits ends where no digit follows. -/
theorem symbolsOf_digits {digits : String} {rest : List Char} (some_digit : digits.toList ≠ [])
    (all : digits.toList.all Char.isDigit = true)
    (ends : ∀ char ∈ rest.head?, char.isDigit = false) :
    symbolsOf (digits.toList ++ rest) = ⟨.int, digits⟩ :: symbolsOf rest := by
  obtain ⟨chars, rfl⟩ : ∃ chars, digits = String.ofList chars := ⟨digits.toList, by simp⟩
  rw [String.toList_ofList] at some_digit all ⊢
  cases chars with
  | nil => exact absurd rfl some_digit
  | cons first digits =>
    rw [List.all_cons, Bool.and_eq_true] at all
    obtain ⟨digit, all⟩ := all
    have tail : lexemeTail first (digits ++ rest) = digits :=
      lexemeTail_digits digit (List.all_eq_true.1 all) ends
    rw [List.cons_append, symbolsOf_lexeme (isBlank_eq_false (.inr digit)), tail,
      TokenKind.ofLexeme_digit digit, List.drop_left]

/-- A keyword ends where no letter follows, and has the kind that `keywords` gives it. -/
theorem symbolsOf_keyword {word : String} {kind : TokenKind} {rest : List Char}
    (mem : (word, kind) ∈ TokenKind.keywords) (ends : ∀ char ∈ rest.head?, isLetter char = false) :
    symbolsOf (word.toList ++ rest) = ⟨kind, word⟩ :: symbolsOf rest := by
  simp only [TokenKind.keywords, List.mem_cons, List.not_mem_nil, or_false, Prod.mk.injEq] at mem
  obtain ⟨rfl, rfl⟩ | ⟨rfl, rfl⟩ | ⟨rfl, rfl⟩ | ⟨rfl, rfl⟩ | ⟨rfl, rfl⟩ | ⟨rfl, rfl⟩ | ⟨rfl, rfl⟩ :=
    mem <;> exact symbolsOf_word (by decide) (by decide) ends

/-- A word spells its kind, be it a name or a keyword. -/
theorem spells_word {word : String} (some_letter : word.toList ≠ [])
    (letters : word.toList.all isLetter = true) : Spells word [⟨.ofWord word, word⟩] :=
  fun _ breaks => symbolsOf_word some_letter letters fun char mem => (breaks char mem).1

/-- A run of digits spells an integer literal, in or out of range. -/
theorem spells_digits {digits : String} (some_digit : digits.toList ≠ [])
    (all : digits.toList.all Char.isDigit = true) : Spells digits [⟨.int, digits⟩] :=
  fun _ breaks => symbolsOf_digits some_digit all fun char mem => (breaks char mem).2.1

/-- A keyword spells itself, with the kind that `keywords` gives it. -/
theorem spells_keyword {word : String} {kind : TokenKind}
    (mem : (word, kind) ∈ TokenKind.keywords) : Spells word [⟨kind, word⟩] :=
  fun _ breaks => symbolsOf_keyword mem fun char mem => (breaks char mem).1

/-! ## What symbols of a text are like -/

/-- A name is a run of letters, at least one, that is no keyword. -/
structure IsName (name : String) : Prop where
  some_letter : name.toList ≠ []
  letters : name.toList.all isLetter = true
  not_keyword : name ∉ TokenKind.keywords.map Prod.fst

instance (name : String) : Decidable (IsName name) :=
  decidable_of_iff (name.toList ≠ [] ∧ name.toList.all isLetter = true ∧
      name ∉ TokenKind.keywords.map Prod.fst)
    ⟨fun ⟨some_letter, letters, free⟩ => ⟨some_letter, letters, free⟩,
      fun ⟨some_letter, letters, free⟩ => ⟨some_letter, letters, free⟩⟩

/-- A run of digits, at least one; what `IsLiteral` asks of literals besides is a value. -/
structure IsDigits (text : String) : Prop where
  some_digit : text.toList ≠ []
  digits : text.toList.all Char.isDigit = true

instance (text : String) : Decidable (IsDigits text) :=
  decidable_of_iff (text.toList ≠ [] ∧ text.toList.all Char.isDigit = true)
    ⟨fun ⟨some_digit, digits⟩ => ⟨some_digit, digits⟩,
      fun ⟨some_digit, digits⟩ => ⟨some_digit, digits⟩⟩

namespace TokenKind

/-- A word is a name, or it is reserved and stands with its kind in `keywords`. -/
theorem ofWord_cases (word : String) :
    (ofWord word = .ident ∧ word ∉ keywords.map Prod.fst) ∨ (word, ofWord word) ∈ keywords := by
  rw [ofWord]
  cases found : keywords.lookup word with
  | none =>
    -- Not found, it is none of the words of the table.
    refine .inl ⟨rfl, fun mem => ?_⟩
    obtain ⟨⟨_, kind⟩, pair, rfl⟩ := List.mem_map.1 mem
    have differs := List.lookup_eq_none_iff.1 found _ pair
    simp at differs
  | some kind =>
    -- Found, it stands in the table with its kind.
    obtain ⟨before, after, eq, -⟩ := List.lookup_eq_some_iff.1 found
    rw [eq]
    exact .inr (List.mem_append_right _ List.mem_cons_self)

/-- No keyword is of the kind of names or of integer literals, by a look at the list. -/
theorem ne_of_mem_keywords {word : String} {kind : TokenKind} (mem : (word, kind) ∈ keywords) :
    kind ≠ .ident ∧ kind ≠ .int := by
  have all : ∀ pair ∈ keywords, pair.2 ≠ .ident ∧ pair.2 ≠ .int := by decide
  exact all _ mem

/-- The words of the kind of names are those that are not reserved. -/
theorem ofWord_eq_ident_iff {word : String} :
    ofWord word = .ident ↔ word ∉ keywords.map Prod.fst := by
  constructor
  · intro named
    obtain ⟨-, free⟩ | mem := ofWord_cases word
    · exact free
    · exact absurd named (ne_of_mem_keywords mem).1
  · intro free
    obtain ⟨named, -⟩ | mem := ofWord_cases word
    · exact named
    · exact absurd (List.mem_map_of_mem mem) free

theorem ofWord_ne_int (word : String) : ofWord word ≠ .int := by
  obtain ⟨named, -⟩ | mem := ofWord_cases word
  · rw [named]
    decide
  · exact (ne_of_mem_keywords mem).2

/-- A lexeme that starts with neither a letter nor a digit is a sign, so it is neither a name nor a
number. -/
theorem ofLexeme_other {first : Char} {rest : List Char} (not_letter : ¬isLetter first = true)
    (not_digit : ¬first.isDigit = true) :
    ofLexeme (first :: rest) ≠ .ident ∧ ofLexeme (first :: rest) ≠ .int := by
  unfold ofLexeme
  split
  · decide
  · decide
  · decide
  · next same =>
    cases same
    rw [if_neg not_letter, if_neg not_digit, ofSign.eq_def]
    split <;> decide

end TokenKind

/-- A name spells itself, where no letter follows. -/
theorem IsName.spells {name : String} (named : IsName name) : Spells name [⟨.ident, name⟩] := by
  have spells := spells_word named.some_letter named.letters
  rwa [TokenKind.ofWord_eq_ident_iff.2 named.not_keyword] at spells

/-- A run of digits spells itself, where no digit follows. -/
theorem IsDigits.spells {digits : String} (all : IsDigits digits) :
    Spells digits [⟨.int, digits⟩] :=
  spells_digits all.some_digit all.digits

/-- Names and integer literals are written with the characters that are theirs; of other symbols
nothing is said. -/
structure Symbol.WellSpelled (symbol : Symbol) : Prop where
  isName : symbol.kind = .ident → IsName symbol.literal
  isDigits : symbol.kind = .int → IsDigits symbol.literal

/-- A lexeme is spelled well, whatever character it starts with. -/
theorem wellSpelled_lexeme (first : Char) (rest : List Char) :
    Symbol.WellSpelled ⟨.ofLexeme (first :: lexemeTail first rest),
      String.ofList (first :: lexemeTail first rest)⟩ := by
  by_cases letter : isLetter first = true
  · -- a word, which is a name unless it is reserved
    rw [TokenKind.ofLexeme_letter letter, lexemeTail, if_pos letter]
    constructor
    · intro named
      refine ⟨by simp, ?_, TokenKind.ofWord_eq_ident_iff.1 named⟩
      rw [String.toList_ofList, List.all_cons, letter, List.all_takeWhile]
      rfl
    · intro number
      exact absurd number (TokenKind.ofWord_ne_int _)
  · by_cases digit : first.isDigit = true
    · -- an integer literal
      rw [TokenKind.ofLexeme_digit digit, lexemeTail, if_neg letter, if_pos digit]
      constructor
      · nofun
      · intro _
        refine ⟨by simp, ?_⟩
        rw [String.toList_ofList, List.all_cons, digit, List.all_takeWhile]
        rfl
    · -- a sign
      obtain ⟨not_name, not_number⟩ := TokenKind.ofLexeme_other letter digit
      exact ⟨fun named => absurd named not_name, fun number => absurd number not_number⟩

/-- The symbols of a text are spelled well, each of them. -/
theorem wellSpelled_of_mem {symbol : Symbol} {chars : List Char} (mem : symbol ∈ symbolsOf chars) :
    symbol.WellSpelled := forall_symbolsOf _ (fun first rest _ => wellSpelled_lexeme first rest) mem

end Monkey
