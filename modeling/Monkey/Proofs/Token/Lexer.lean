import Monkey.Proofs.Token.Spelling

/-! # Scanning one token at a time

A `Lexer` holds a text and stands at one of its characters. It looks one character ahead, counts
the place character by character, and makes one token at each call of `nextToken`. What it has
passed is never looked at again, except to copy the literal of the token that it is at. Its tokens
are those of the whole text at once: `Between` says what a lexer has passed, each step has its law
about it, and `reads_ofSource` is what comes of them for a `TokenStream`. -/

namespace Monkey

/-- A lexer: the text, the index of the character it stands at, and the place of that character. -/
structure Lexer where
  input : List Char
  index : Nat
  place : Position

namespace Lexer

/-- A lexer at the first character of a source, or at its end if it is empty. -/
def ofSource (source : String) : Lexer := ⟨source.toList, 0, .start⟩

/-- The character that the lexer stands at, unless the text has ended. -/
def char (lexer : Lexer) : Option Char := lexer.input[lexer.index]?

/-- The character after that one, which decides between signs of one character and of two. -/
def peekChar (lexer : Lexer) : Option Char := lexer.input[lexer.index + 1]?

/-- Moves on to the next character; behind a line feed a line starts. -/
def readChar (lexer : Lexer) : Lexer where
  input := lexer.input
  index := lexer.index + 1
  place :=
    if lexer.char = some '\n' then ⟨lexer.place.line + 1, 1⟩
    else ⟨lexer.place.line, lexer.place.column + 1⟩

/-- Passes blanks up to the first character that is none. -/
def skipBlanks (lexer : Lexer) : Lexer :=
  if lexer.char.any isBlank then lexer.readChar.skipBlanks else lexer
termination_by lexer.input.length - lexer.index
decreasing_by
  rename_i blank
  obtain ⟨_, current, _⟩ := (Option.any_eq_true ..).1 blank
  obtain ⟨inside, _⟩ := List.getElem?_eq_some_iff.1 current
  exact Nat.sub_succ_lt_self _ _ inside

/-- Moves on to the last character of a run, so the character behind it is the next one. -/
def readWhile (isOne : Char → Bool) (lexer : Lexer) : Lexer :=
  if lexer.peekChar.any isOne then lexer.readChar.readWhile isOne else lexer
termination_by lexer.input.length - lexer.index
decreasing_by
  rename_i more
  obtain ⟨_, next, _⟩ := (Option.any_eq_true ..).1 more
  obtain ⟨inside, _⟩ := List.getElem?_eq_some_iff.1 next
  exact Nat.sub_succ_lt_self _ _ (Nat.lt_of_succ_lt inside)

/-- The text from one lexer to another one, their characters included: the literal of a token. -/
def slice (first last : Lexer) : String :=
  String.ofList (first.input.extract first.index (last.index + 1))

/-- A sign of one character, or that of two where `=` follows, with the lexer at its last character.
-/
def twoCharOr (lexer : Lexer) (first : Char) (single double : TokenKind) :
    TokenKind × String × Lexer :=
  if lexer.peekChar = some '=' then (double, String.ofList [first, '='], lexer.readChar)
  else (single, String.ofList [first], lexer)

/-- The kind and the literal of the token that starts with the current character, and the lexer at
the last character of it. -/
def lexeme (lexer : Lexer) (first : Char) : TokenKind × String × Lexer :=
  if first = '=' then lexer.twoCharOr first .assign .eq
  else if first = '!' then lexer.twoCharOr first .bang .notEq
  else if isLetter first then
    let last := lexer.readWhile isLetter
    (.ofWord (lexer.slice last), lexer.slice last, last)
  else if first.isDigit then
    let last := lexer.readWhile Char.isDigit
    (.int, lexer.slice last, last)
  else (.ofSign first, String.ofList [first], lexer)

/-- Makes one token, behind the blanks. At the end of the text that is the end of the input, and the
lexer stays. -/
def nextToken (lexer : Lexer) : Token × Lexer :=
  let start := lexer.skipBlanks
  match start.char with
  | none => (⟨.eof, "", start.place⟩, start)
  | some first =>
    let (kind, literal, last) := start.lexeme first
    (⟨kind, literal, start.place⟩, last.readChar)

/-- The tokens of so many calls of `nextToken`, one after the other. -/
def reads : Nat → Lexer → List Token
  | 0, _ => []
  | count + 1, lexer =>
    let (token, next) := lexer.nextToken
    token :: next.reads count

/-! ## What a lexer has passed -/

/-- A lexer has `passed` the first part of its text, and the other part is left; its place is the
one behind what is passed. -/
structure Between (lexer : Lexer) (passed rest : List Char) : Prop where
  input : lexer.input = passed ++ rest
  index : lexer.index = passed.length
  place : lexer.place = Position.start.after passed

namespace Between

variable {lexer : Lexer} {passed rest : List Char} {first : Char}

/-- A lexer stands at the first character that is left, if there is one. -/
theorem char_eq (between : lexer.Between passed rest) : lexer.char = rest.head? := by
  rw [char, between.input, between.index, List.getElem?_append_right (Nat.le_refl _), Nat.sub_self,
    List.head?_eq_getElem?]

/-- A lexer looks at the character behind the one that it stands at, if there is one. -/
theorem peekChar_eq (between : lexer.Between passed (first :: rest)) :
    lexer.peekChar = rest.head? := by
  rw [peekChar, between.input, between.index, List.getElem?_append_right (Nat.le_succ _),
    Nat.succ_sub (Nat.le_refl _), Nat.sub_self, List.getElem?_cons_succ, List.head?_eq_getElem?]

/-- A move passes one character, and counts its place. -/
theorem readChar (between : lexer.Between passed (first :: rest)) :
    lexer.readChar.Between (passed ++ [first]) rest where
  input := by
    rw [List.append_assoc]
    exact between.input
  index := by
    rw [List.length_append]
    exact congrArg (· + 1) between.index
  place := by
    rw [Position.after_append, ← between.place, Position.after_cons, Position.after_nil,
      Position.next, Lexer.readChar, between.char_eq, List.head?_cons]
    simp only [Option.some.injEq]

/-- Blanks are passed up to the first other character, by induction on them. -/
theorem skipBlanks {blanks : List Char} (blank : ∀ char ∈ blanks, isBlank char = true)
    (visible : ∀ char ∈ rest.head?, isBlank char = false)
    (between : lexer.Between passed (blanks ++ rest)) :
    lexer.skipBlanks.Between (passed ++ blanks) rest := by
  induction blanks generalizing lexer passed with
  | nil =>
    have stays : lexer.char.any isBlank = false := by
      rw [between.char_eq]
      cases rest with
      | nil => rfl
      | cons first rest => exact visible first rfl
    rw [Lexer.skipBlanks, stays, if_neg Bool.false_ne_true, List.append_nil]
    exact between
  | cons first blanks ih =>
    rw [List.forall_mem_cons] at blank
    have moves : lexer.char.any isBlank = true := by
      rw [between.char_eq]
      exact blank.1
    have further := ih blank.2 between.readChar
    rw [Lexer.skipBlanks, moves, if_pos rfl]
    rwa [List.append_assoc] at further

/-- A run is read to its end, from whatever character before it, by induction on the run. -/
theorem readWhile (isOne : Char → Bool) (between : lexer.Between passed (first :: rest)) :
    (lexer.readWhile isOne).readChar.Between (passed ++ first :: rest.takeWhile isOne)
      (rest.dropWhile isOne) := by
  induction rest generalizing lexer passed first with
  | nil =>
    have stays : lexer.peekChar.any isOne = false := by
      rw [between.peekChar_eq]
      rfl
    rw [Lexer.readWhile, stays, if_neg Bool.false_ne_true]
    exact between.readChar
  | cons second rest ih =>
    rw [Lexer.readWhile, between.peekChar_eq, List.head?_cons, Option.any_some]
    by_cases more : isOne second = true
    · have further := ih between.readChar
      rw [if_pos more, List.takeWhile_cons_of_pos more, List.dropWhile_cons_of_pos more]
      rwa [List.append_assoc] at further
    · rw [if_neg more, List.takeWhile_cons_of_neg more, List.dropWhile_cons_of_neg more]
      exact between.readChar

/-- The literal from one lexer to another one is what the other one has passed more, once it has
moved on. -/
theorem slice_eq {last : Lexer} {literal : List Char}
    (between : lexer.Between passed (literal ++ rest))
    (behind : last.readChar.Between (passed ++ literal) rest) :
    lexer.slice last = String.ofList literal := by
  have index : last.index + 1 = passed.length + literal.length := by
    rw [← List.length_append]
    exact behind.index
  rw [slice, index, between.input, between.index, List.extract_eq_take_drop]
  simp

/-- A sign is read with the `=` behind it, if there is one, and has the kind for that case. -/
theorem twoCharOr (between : lexer.Between passed (first :: rest)) (single double : TokenKind) :
    let tail := if rest.head? = some '=' then ['='] else []
    ∃ last, lexer.twoCharOr first single double =
        (if rest.head? = some '=' then double else single, String.ofList (first :: tail), last) ∧
      last.readChar.Between (passed ++ first :: tail) (rest.drop tail.length) := by
  rw [Lexer.twoCharOr, between.peekChar_eq]
  by_cases follows : rest.head? = some '='
  · obtain ⟨rest, rfl⟩ := List.head?_eq_some_iff.1 follows
    refine ⟨_, rfl, ?_⟩
    have further := between.readChar.readChar
    rwa [List.append_assoc] at further
  · simp only [if_neg follows]
    exact ⟨_, rfl, between.readChar⟩

/-- A run is read from its first character to its last, which gives the literal of a word or a
number. -/
theorem run (isOne : Char → Bool) (between : lexer.Between passed (first :: rest)) :
    let last := lexer.readWhile isOne
    let tail := rest.takeWhile isOne
    lexer.slice last = String.ofList (first :: tail) ∧
      last.readChar.Between (passed ++ first :: tail) (rest.drop tail.length) := by
  have behind := between.readWhile isOne
  rw [← drop_takeWhile] at behind
  refine ⟨Between.slice_eq ?_ behind, behind⟩
  rw [List.cons_append, drop_takeWhile, List.takeWhile_append_dropWhile]
  exact between

/-- The token that starts with a character is what belongs to the same lexeme, by `lexemeTail` and
`ofLexeme`. -/
theorem lexeme (between : lexer.Between passed (first :: rest)) :
    let tail := lexemeTail first rest
    ∃ last, lexer.lexeme first =
        (.ofLexeme (first :: tail), String.ofList (first :: tail), last) ∧
      last.readChar.Between (passed ++ first :: tail) (rest.drop tail.length) := by
  intro tail
  rw [Lexer.lexeme]
  by_cases equals : first = '='
  · subst equals
    obtain ⟨last, read, behind⟩ := between.twoCharOr .assign .eq
    have tail_eq : tail = if rest.head? = some '=' then ['='] else [] :=
      lexemeTail_sign (.inl rfl) rest
    rw [if_pos rfl, read, tail_eq]
    refine ⟨last, ?_, behind⟩
    split <;> rfl
  by_cases bang : first = '!'
  · subst bang
    obtain ⟨last, read, behind⟩ := between.twoCharOr .bang .notEq
    have tail_eq : tail = if rest.head? = some '=' then ['='] else [] :=
      lexemeTail_sign (.inr rfl) rest
    rw [if_neg equals, if_pos rfl, read, tail_eq]
    refine ⟨last, ?_, behind⟩
    split <;> rfl
  rw [if_neg equals, if_neg bang]
  by_cases letter : isLetter first = true
  · have tail_eq : tail = rest.takeWhile isLetter := if_pos letter
    obtain ⟨literal, behind⟩ := between.run isLetter
    rw [if_pos letter]
    dsimp only
    rw [literal, TokenKind.ofLexeme_letter letter, tail_eq]
    exact ⟨_, rfl, behind⟩
  by_cases digit : first.isDigit = true
  · have tail_eq : tail = rest.takeWhile Char.isDigit := (if_neg letter).trans (if_pos digit)
    obtain ⟨literal, behind⟩ := between.run Char.isDigit
    rw [if_neg letter, if_pos digit]
    dsimp only
    rw [literal, TokenKind.ofLexeme_digit digit, tail_eq]
    exact ⟨_, rfl, behind⟩
  · have tail_eq : tail = [] := by simp [tail, lexemeTail, letter, digit, equals, bang]
    have single : TokenKind.ofLexeme [first] = .ofSign first := by
      simp [TokenKind.ofLexeme, letter, digit]
    rw [if_neg letter, if_neg digit, tail_eq, single]
    exact ⟨_, rfl, between.readChar⟩

end Between

/-! ## Tokens in turn -/

/-- A lexer stands where a token stream starts: what is left of its text is scanned as the stream.
-/
def Scans (lexer : Lexer) (stream : TokenStream) : Prop :=
  ∃ passed rest, lexer.Between passed rest ∧
    stream = ⟨scanChars (.after .start passed) rest, .after .start (passed ++ rest)⟩

/-- A lexer makes the first token of the stream where it stands, and then it stands at the next one:
the step lemma for `nextToken`. -/
theorem Scans.nextToken {lexer : Lexer} {stream : TokenStream} (scans : lexer.Scans stream) :
    lexer.nextToken.1 = stream.head ∧ lexer.nextToken.2.Scans stream.tail := by
  obtain ⟨passed, chars, between, rfl⟩ := scans
  obtain ⟨blanks, rest, chars_eq, blank, visible⟩ := exists_blanks chars
  subst chars_eq
  have start := between.skipBlanks blank visible
  rw [scanChars_blanks blank, ← Position.after_append, ← List.append_assoc]
  cases rest with
  | nil =>
    -- The input has ended, and so it is once more.
    have last : lexer.nextToken = (⟨.eof, "", lexer.skipBlanks.place⟩, lexer.skipBlanks) := by
      rw [Lexer.nextToken]
      dsimp only
      rw [start.char_eq, List.head?_nil]
    rw [last, start.place, scanChars_nil, List.append_nil]
    exact ⟨rfl, _, _, start, by rw [List.append_nil, scanChars_nil]; rfl⟩
  | cons first rest =>
    obtain ⟨last, read, behind⟩ := start.lexeme
    have next : lexer.nextToken =
        (⟨.ofLexeme (first :: lexemeTail first rest),
          String.ofList (first :: lexemeTail first rest), lexer.skipBlanks.place⟩,
          last.readChar) := by
      rw [Lexer.nextToken]
      dsimp only
      rw [start.char_eq, List.head?_cons]
      dsimp only
      rw [read]
    rw [next, start.place, scanChars_lexeme (visible first rfl)]
    refine ⟨rfl, _, _, behind, ?_⟩
    have whole : lexemeTail first rest ++ rest.drop (lexemeTail first rest).length = rest :=
      List.prefix_iff_eq_append.1 (lexemeTail_isPrefix first rest)
    rw [List.append_assoc _ (first :: _), List.cons_append, whole,
      Position.after_append _ (passed ++ blanks) (first :: lexemeTail first rest)]
    rfl

/-- So many calls make the first so many tokens of the stream, by induction on their number. -/
theorem Scans.reads {lexer : Lexer} {stream : TokenStream} (scans : lexer.Scans stream)
    (count : Nat) : lexer.reads count = stream.reads count := by
  induction count generalizing lexer stream with
  | zero => rfl
  | succ count ih =>
    obtain ⟨first, others⟩ := scans.nextToken
    rw [Lexer.reads, TokenStream.reads, ← first, ← ih others]

/-- **Call by call a lexer makes the tokens of its source**, and then the end of the input for ever.
-/
theorem reads_ofSource (source : String) (count : Nat) :
    (ofSource source).reads count = (TokenStream.ofSource source).reads count :=
  Scans.reads ⟨[], source.toList, ⟨rfl, rfl, rfl⟩, rfl⟩ count

end Lexer

end Monkey
