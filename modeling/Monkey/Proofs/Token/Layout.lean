import Mathlib.Data.List.DropRight
import Monkey.Proofs.Token.Lexer

/-! # Layout

A source is its tokens, as they are written, with blanks before, between and behind them
(`Layout`). Scanning gives the tokens of such a layout, each with the kind that its literal spells
(`TokenKind.Spelled`) and with its place in the source, and no token is directly followed by a
character that would carry it on (`CarriesOn`): this is `TokenStream.exists_layout`. The other way
round every list of tokens is scanned from each layout of it whose gaps part the tokens that would
otherwise run together: this is `Layout.symbolsOf_text`. -/

namespace Monkey

/-! ## What is written as a token -/

namespace TokenKind

/-- The kinds of token that are signs, be they one character or two. -/
def signs : List TokenKind :=
  [assign, plus, minus, bang, asterisk, slash, lt, gt, eq, notEq, comma, semicolon, lparen, rparen,
    lbrace, rbrace]

/-- A literal spells a kind of token: one case for each sort of lexeme. -/
inductive Spelled : TokenKind → String → Prop where
  /-- A name spells itself, in the sense of `IsName`. -/
  | name {word : String} : IsName word → Spelled ident word
  /-- A reserved word spells its keyword, as `keywords` has it. -/
  | keyword {word : String} {kind : TokenKind} : (word, kind) ∈ keywords → Spelled kind word
  /-- Digits spell an integer literal, in or out of range. -/
  | integer {digits : String} : IsDigits digits → Spelled int digits
  /-- A sign is spelled as messages show it, by `TokenKind.display`. -/
  | sign {kind : TokenKind} : kind ∈ signs → Spelled kind kind.display
  /-- Any other character is illegal by itself: no blank, no letter, no digit and no sign. -/
  | other {char : Char} : isBlank char = false → isLetter char = false → char.isDigit = false →
      (∀ kind ∈ signs, kind.display ≠ String.ofList [char]) → Spelled illegal (String.ofList [char])

namespace Spelled

variable {kind : TokenKind} {literal : String}

/-- A token is written with a character at least, so no literal is empty. -/
theorem toList_ne_nil (spelled : Spelled kind literal) : literal.toList ≠ [] := by
  cases spelled with
  | name named => exact named.some_letter
  | integer digits => exact digits.some_digit
  | keyword mem =>
    have all : ∀ pair ∈ keywords, pair.1.toList ≠ [] := by decide
    exact all _ mem
  | sign mem =>
    have all : ∀ kind ∈ signs, kind.display.toList ≠ [] := by decide
    exact all _ mem
  | other => simp

/-- Nothing spells the end of the input, which is no piece of any text. -/
theorem ne_eof (spelled : Spelled kind literal) : kind ≠ .eof := by
  cases spelled with
  | name | integer | other => decide
  | keyword mem =>
    have all : ∀ pair ∈ keywords, pair.2 ≠ .eof := by decide
    exact all _ mem
  | sign mem =>
    have all : ∀ kind ∈ signs, kind ≠ .eof := by decide
    exact all _ mem

end Spelled

variable {first : Char} {rest : List Char}

/-- A character that is known as a sign is how messages show that sign: `ofSign` goes back by
`display`. -/
theorem display_ofSign (known : ofSign first ≠ illegal) :
    ofSign first ∈ signs ∧ (ofSign first).display = String.ofList [first] := by
  revert known
  rw [ofSign.eq_def]
  split
  case h_15 => exact fun known => absurd rfl known
  all_goals exact fun _ => ⟨by decide, rfl⟩

/-- A sign of one character is known by it: `display` goes back by `ofSign`. -/
theorem ofSign_of_display {kind : TokenKind} (mem : kind ∈ signs)
    (written : kind.display = String.ofList [first]) : ofSign first = kind := by
  have all : ∀ kind ∈ signs, kind.display.toList.tail = [] →
      ofSign (kind.display.toList.headD ' ') = kind := by decide
  have known := all kind mem
  rw [written, String.toList_ofList] at known
  exact known rfl

/-- A character that starts neither a word nor an integer literal is a sign, or it is illegal. -/
theorem spelled_ofSign (visible : isBlank first = false) (not_letter : isLetter first = false)
    (not_digit : first.isDigit = false) : Spelled (ofSign first) (String.ofList [first]) := by
  by_cases unknown : ofSign first = illegal
  · rw [unknown]
    refine .other visible not_letter not_digit fun kind mem written => ?_
    rw [← ofSign_of_display mem written, unknown] at mem
    exact absurd mem (by decide)
  · obtain ⟨mem, written⟩ := display_ofSign unknown
    rw [← written]
    exact .sign mem

/-- A lexeme spells its kind, the one that `ofLexeme` gives it. -/
theorem spelled_lexeme (visible : isBlank first = false) :
    Spelled (ofLexeme (first :: lexemeTail first rest))
      (String.ofList (first :: lexemeTail first rest)) := by
  have spelled := wellSpelled_lexeme first rest
  by_cases letter : isLetter first = true
  · -- a word, which is a name unless it is reserved
    rw [ofLexeme_letter letter] at spelled ⊢
    obtain ⟨named, -⟩ | mem := ofWord_cases (String.ofList (first :: lexemeTail first rest))
    · have isName := spelled.isName named
      rw [named]
      exact .name isName
    · exact .keyword mem
  · by_cases digit : first.isDigit = true
    · rw [ofLexeme_digit digit] at spelled ⊢
      exact .integer (spelled.isDigits rfl)
    · rw [Bool.not_eq_true] at letter digit
      -- a sign of one character or of two
      rw [lexemeTail, letter, digit, if_neg Bool.false_ne_true, if_neg Bool.false_ne_true]
      split
      · next double =>
        simp only [Bool.and_eq_true, Bool.or_eq_true, decide_eq_true_eq] at double
        obtain ⟨rfl | rfl, -⟩ := double
        · exact (.sign (by decide) : Spelled eq eq.display)
        · exact (.sign (by decide) : Spelled notEq notEq.display)
      · have single : ofLexeme [first] = ofSign first := by simp [ofLexeme, letter, digit]
        rw [single]
        exact spelled_ofSign visible letter digit

end TokenKind

/-! ## Where a lexeme ends -/

/-- A character that carries on the lexeme that it follows directly: behind it the lexeme would be
another one. -/
inductive CarriesOn : List Char → Char → Prop where
  /-- Words go on with letters. -/
  | letter {first char : Char} {rest : List Char} :
      isLetter first = true → isLetter char = true → CarriesOn (first :: rest) char
  /-- Integer literals go on with digits. -/
  | digit {first char : Char} {rest : List Char} :
      first.isDigit = true → char.isDigit = true → CarriesOn (first :: rest) char
  /-- The signs `=` and `!` go on with `=`. -/
  | equals {first : Char} : first = '=' ∨ first = '!' → CarriesOn [first] '='

/-- No lexeme goes on with a blank, so blanks part tokens. -/
theorem not_carriesOn_of_isBlank {literal : List Char} {char : Char} (blank : isBlank char = true) :
    ¬CarriesOn literal char := by
  rintro (⟨-, letter⟩ | ⟨-, digit⟩ | sign)
  · exact absurd blank (by rw [isBlank_eq_false (.inl letter)]; decide)
  · exact absurd blank (by rw [isBlank_eq_false (.inr digit)]; decide)
  · exact absurd blank (by decide)

/-- Behind a run of characters of a kind none of that kind follows: `takeWhile` has taken them all.
-/
theorem head?_drop_takeWhile {isOne : Char → Bool} {chars : List Char} {char : Char}
    (next : char ∈ (chars.drop (chars.takeWhile isOne).length).head?) : isOne char = false := by
  have ends := List.head?_dropWhile_not isOne chars
  rw [Option.mem_def, drop_takeWhile] at next
  rwa [next] at ends

/-- A lexeme is as long as it can be: no character behind its `lexemeTail` carries it on. -/
theorem not_carriesOn_lexeme {first char : Char} {rest : List Char}
    (next : char ∈ (rest.drop (lexemeTail first rest).length).head?) :
    ¬CarriesOn (first :: lexemeTail first rest) char := by
  intro carries
  generalize same : first :: lexemeTail first rest = literal at carries
  cases carries with
  | letter letter other =>
    cases same
    rw [lexemeTail, if_pos letter] at next
    rw [head?_drop_takeWhile next] at other
    cases other
  | digit digit other =>
    cases same
    rw [lexemeTail, if_neg (not_letter_of_digit digit), if_pos digit] at next
    rw [head?_drop_takeWhile next] at other
    cases other
  | equals sign =>
    -- The second character of the sign would belong to it.
    obtain ⟨rfl, none⟩ := List.cons.inj same
    rw [none] at next
    have follows : rest.head? = some '=' := next
    rw [lexemeTail_sign sign, if_pos follows] at none
    cases none

/-- All signs but `==` and `!=` are one character, which starts nothing else. -/
theorem TokenKind.single_of_mem_signs {kind : TokenKind} (mem : kind ∈ signs)
    (single : kind ≠ .eq ∧ kind ≠ .notEq) :
    ∃ char, kind.display = String.ofList [char] ∧ isBlank char = false ∧ isLetter char = false ∧
      char.isDigit = false := by
  have all : ∀ kind ∈ signs, kind ≠ .eq ∧ kind ≠ .notEq →
      let char := kind.display.toList.headD ' '
      kind.display = String.ofList [char] ∧ isBlank char = false ∧ isLetter char = false ∧
        char.isDigit = false := by decide
  exact ⟨_, all kind mem single⟩

/-- What spells a token is scanned as that token where nothing carries it on, and the text behind it
for itself. -/
theorem TokenKind.Spelled.symbolsOf_append {kind : TokenKind} {literal : String} {rest : List Char}
    (spelled : Spelled kind literal) (ends : ∀ char ∈ rest.head?, ¬CarriesOn literal.toList char) :
    symbolsOf (literal.toList ++ rest) = ⟨kind, literal⟩ :: symbolsOf rest := by
  obtain ⟨first, tail, starts⟩ := List.exists_cons_of_ne_nil spelled.toList_ne_nil
  -- What `ends` says of words, of digits and of signs that may have a second half.
  have no_letter (letters : literal.toList.all isLetter = true) (char : Char)
      (next : char ∈ rest.head?) : isLetter char = false := by
    rw [starts, List.all_cons, Bool.and_eq_true] at letters
    exact Bool.eq_false_iff.2 fun other => ends char next (starts ▸ .letter letters.1 other)
  have no_digit (digits : literal.toList.all Char.isDigit = true) (char : Char)
      (next : char ∈ rest.head?) : char.isDigit = false := by
    rw [starts, List.all_cons, Bool.and_eq_true] at digits
    exact Bool.eq_false_iff.2 fun other => ends char next (starts ▸ .digit digits.1 other)
  have no_second {char : Char} (written : literal = String.ofList [char])
      (half : char = '=' ∨ char = '!') : rest.head? ≠ some '=' := by
    intro next
    refine ends '=' next ?_
    rw [written, String.toList_ofList]
    exact .equals half
  cases spelled with
  | name named =>
    rw [symbolsOf_word named.some_letter named.letters (no_letter named.letters),
      ofWord_eq_ident_iff.2 named.not_keyword]
  | keyword mem =>
    have all : ∀ pair ∈ keywords, pair.1.toList.all isLetter = true := by decide
    exact symbolsOf_keyword mem (no_letter (all _ mem))
  | integer digits =>
    exact symbolsOf_digits digits.some_digit digits.digits (no_digit digits.digits)
  | sign mem =>
    by_cases double : kind = .eq ∨ kind = .notEq
    · obtain rfl | rfl := double <;> exact symbolsOf_lexeme rfl ('=' :: rest)
    · obtain ⟨char, written, visible, not_letter, not_digit⟩ :=
        single_of_mem_signs mem (not_or.1 double)
      rw [written, String.toList_ofList, ← ofSign_of_display mem written]
      exact symbolsOf_sign visible not_letter not_digit (no_second written)
  | @other char visible not_letter not_digit unknown =>
    have illegal : ofSign char = .illegal := by
      by_contra known
      obtain ⟨mem, written⟩ := display_ofSign known
      exact unknown _ mem written
    rw [String.toList_ofList, ← illegal]
    exact symbolsOf_sign visible not_letter not_digit (no_second rfl)

/-! ## Places -/

/-- The place behind some text: a line for every line feed, and a column for every character since
the last of them. -/
def Position.behind (text : List Char) : Position :=
  ⟨1 + text.count '\n', 1 + (text.rtakeWhile (· ≠ '\n')).length⟩

/-- Places are counted from the start of the text: `Position.after` goes through it character by
character. -/
theorem Position.after_start (text : List Char) : start.after text = behind text := by
  induction text using List.reverseRecOn with
  | nil => rfl
  | append_singleton text char ih =>
    rw [after_append, ih, after_cons, after_nil, next]
    split
    · next feed =>
      subst feed
      simp [behind, List.rtakeWhile_concat_neg, List.count_append, Nat.add_assoc]
    · next other =>
      simp [behind, List.rtakeWhile_concat_pos, List.count_append, other, Nat.add_assoc]

/-- Places behind more text are counted from those behind less, as the scanner counts them. -/
theorem Position.after_behind (passed more : List Char) :
    (behind passed).after more = behind (passed ++ more) := by
  rw [← after_start, ← after_start, after_append]

/-! ## Layouts -/

/-- A token with the blanks before it, its `gap`. -/
structure Piece where
  gap : List Char
  token : Token

/-- A piece as it stands in a source: its gap and then its literal. -/
def Piece.text (piece : Piece) : List Char := piece.gap ++ piece.token.literal.toList

/-- The tokens of a source with the blanks between them, and those behind the last of them. -/
structure Layout where
  pieces : List Piece
  /-- The blanks behind the last token, or all of them if there is no token. -/
  ending : List Char

namespace Layout

/-- The source of a layout: its pieces one after the other, and the blanks behind them. -/
def text (layout : Layout) : List Char := layout.pieces.flatMap Piece.text ++ layout.ending

/-- The tokens of a layout, in the order in which they are written. -/
def tokens (layout : Layout) : List Token := layout.pieces.map Piece.token

/-- All gaps hold nothing but blanks, and so does what is behind the last token. -/
structure Blank (layout : Layout) : Prop where
  gaps : ∀ piece ∈ layout.pieces, ∀ char ∈ piece.gap, isBlank char = true
  ending : ∀ char ∈ layout.ending, isBlank char = true

end Layout

/-- A piece between the text before it and the text behind it is as scanning makes it. -/
structure Piece.IsScanned (piece : Piece) (before after : List Char) : Prop where
  /-- The token has the kind that its literal spells. -/
  spelled : piece.token.kind.Spelled piece.token.literal
  /-- The token takes a character at least, so every piece is some progress. -/
  literal_ne : piece.token.literal ≠ ""
  /-- The token stands behind its gap, where its literal starts. -/
  position : piece.token.position = .behind (before ++ piece.gap)
  /-- The token goes as far as it can: the next character does not carry it on. -/
  ends : ∀ char ∈ after.head?, ¬CarriesOn piece.token.literal.toList char

/-- A lexeme behind blanks is a piece that scanning makes: the four fields of `Piece.IsScanned` at
once. -/
theorem isScanned_lexeme {first : Char} (visible : isBlank first = false)
    (passed blanks rest : List Char) :
    Piece.IsScanned
      ⟨blanks, .ofLexeme (first :: lexemeTail first rest),
        String.ofList (first :: lexemeTail first rest), .behind (passed ++ blanks)⟩
      passed (rest.drop (lexemeTail first rest).length) where
  spelled := TokenKind.spelled_lexeme visible
  literal_ne := by simp
  position := rfl
  ends := by
    rw [String.toList_ofList]
    exact fun _ => not_carriesOn_lexeme

/-- What is scanned behind some text is laid out there, by the recursion of `scanChars` along the
lexemes. -/
theorem exists_layout_scanChars (passed chars : List Char) :
    ∃ layout : Layout, layout.text = chars ∧
      layout.tokens = scanChars (.behind passed) chars ∧ layout.Blank ∧
      ∀ before piece after, layout.pieces = before ++ piece :: after →
        piece.IsScanned (passed ++ before.flatMap Piece.text)
          (after.flatMap Piece.text ++ layout.ending) := by
  obtain ⟨blanks, rest, chars_eq, gap, visible⟩ := exists_blanks chars
  rw [chars_eq, scanChars_blanks gap, Position.after_behind]
  cases rest with
  | nil =>
    -- No lexeme follows, so the blanks are the ending.
    refine ⟨⟨[], blanks⟩, (List.append_nil blanks).symm, ?_, ⟨nofun, gap⟩, ?_⟩
    · rw [scanChars_nil]
      rfl
    · intro before piece after none
      simp at none
  | cons first rest =>
    have visible := visible first rfl
    have lexeme := isScanned_lexeme visible passed blanks rest
    have whole := List.prefix_iff_eq_append.1 (lexemeTail_isPrefix first rest)
    rw [scanChars_lexeme visible, Position.after_behind]
    -- The others are laid out behind the lexeme.
    obtain ⟨layout, text, tokens, blank, scanned⟩ := exists_layout_scanChars
      (passed ++ blanks ++ first :: lexemeTail first rest)
      (rest.drop (lexemeTail first rest).length)
    generalize lexemeTail first rest = tail at *
    generalize rest.drop tail.length = left at *
    subst whole text
    let token : Token :=
      ⟨.ofLexeme (first :: tail), String.ofList (first :: tail), .behind (passed ++ blanks)⟩
    have piece_text : Piece.text ⟨blanks, token⟩ = blanks ++ first :: tail := by
      rw [Piece.text, String.toList_ofList]
    refine ⟨⟨⟨blanks, token⟩ :: layout.pieces, layout.ending⟩, ?_, ?_, ?_, ?_⟩
    · rw [Layout.text, List.flatMap_cons, List.append_assoc, ← Layout.text, piece_text,
        List.append_assoc, List.cons_append]
    · rw [← tokens]
      rfl
    · exact ⟨List.forall_mem_cons.2 ⟨gap, blank.gaps⟩, blank.ending⟩
    · intro before piece after split
      obtain ⟨rfl, same⟩ | ⟨before, rfl, others⟩ := List.cons_eq_append_iff.1 split
      · obtain ⟨rfl, rfl⟩ := List.cons.inj same
        rw [List.flatMap_nil, List.append_nil]
        exact lexeme
      · have piece := scanned before piece after others
        rwa [List.append_assoc passed, List.append_assoc passed, ← piece_text,
          ← List.flatMap_cons] at piece
termination_by chars.length
decreasing_by
  rw [chars_eq]
  simp only [List.length_append, List.length_cons, List.length_drop]
  omega

/-- A source is laid out as its tokens. Each of them has the kind that its literal spells and the
place where the literal starts, and goes as far as it can; only blanks stand between them. A lexer
makes these tokens call by call, and behind them the end of the input for ever, at its place. -/
theorem TokenStream.exists_layout (source : String) :
    let tokens := (ofSource source).tokens
    (∃ layout : Layout, layout.text = source.toList ∧ layout.tokens = tokens ∧ layout.Blank ∧
      ∀ before piece after, layout.pieces = before ++ piece :: after →
        piece.IsScanned (before.flatMap Piece.text) (after.flatMap Piece.text ++ layout.ending)) ∧
      (∀ token ∈ tokens, token.kind ≠ .eof) ∧
      ∀ extra, (Lexer.ofSource source).reads (tokens.length + extra) =
        tokens ++ List.replicate extra ⟨.eof, "", .behind source.toList⟩ := by
  intro tokens
  obtain ⟨layout, text, same, blank, scanned⟩ := exists_layout_scanChars [] source.toList
  refine ⟨⟨layout, text, same, blank, scanned⟩, ?_, fun extra => ?_⟩
  · intro token mem
    have mem : token ∈ layout.tokens := by rwa [same]
    obtain ⟨piece, among, rfl⟩ := List.mem_map.1 mem
    obtain ⟨before, after, split⟩ := List.append_of_mem among
    exact (scanned before piece after split).spelled.ne_eof
  · rw [Lexer.reads_ofSource, reads_eq, endToken, ← Position.after_start]
    rfl

/-! ## Sources with a layout -/

/-- A symbol that scanning can make, from whatever text. -/
def Symbol.IsScanned (symbol : Symbol) : Prop :=
  ∃ source, symbol ∈ (TokenStream.ofSource source).tokens.map Token.symbol

/-- Scanning makes the symbols whose literal spells their kind, in the sense of `TokenKind.Spelled`,
and no others. -/
theorem Symbol.isScanned_iff {symbol : Symbol} :
    symbol.IsScanned ↔ symbol.kind.Spelled symbol.literal := by
  constructor
  · rintro ⟨source, mem⟩
    exact forall_symbolsOf (fun symbol => symbol.kind.Spelled symbol.literal)
      (fun _ _ => TokenKind.spelled_lexeme) mem
  · intro spelled
    have alone : symbolsOf (symbol.literal.toList ++ []) = symbol :: symbolsOf [] :=
      spelled.symbolsOf_append nofun
    rw [List.append_nil, symbolsOf_nil] at alone
    refine ⟨symbol.literal, ?_⟩
    rw [map_symbol_ofSource, alone]
    exact List.mem_singleton_self symbol

namespace Layout

/-- Blanks part each two neighbours of which the second one would carry on the first. -/
def Parted (layout : Layout) : Prop :=
  layout.pieces.IsChain fun piece next =>
    (∃ char ∈ next.token.literal.toList.head?, CarriesOn piece.token.literal.toList char) →
      next.gap ≠ []

/-- Blanks spell nothing, so the symbols of a text are those behind them. -/
theorem symbolsOf_blanks {blanks : List Char} (blank : ∀ char ∈ blanks, isBlank char = true)
    (rest : List Char) : symbolsOf (blanks ++ rest) = symbolsOf rest := by
  rw [symbolsOf, scanChars_blanks blank, symbolsOf]
  exact map_symbol_scanChars _ _ rest

/-- The token of a piece is not carried on by what stands behind it: a blank, or a token that is
`Parted` from it. -/
theorem ends_of_parted {piece : Piece} {pieces : List Piece} {ending : List Char}
    (blank : Blank ⟨pieces, ending⟩)
    (spelled : ∀ token ∈ tokens ⟨pieces, ending⟩, token.symbol.IsScanned)
    (parted : Parted ⟨piece :: pieces, ending⟩) :
    ∀ char ∈ (text ⟨pieces, ending⟩).head?, ¬CarriesOn piece.token.literal.toList char := by
  intro char next
  cases pieces with
  | nil => exact not_carriesOn_of_isBlank (blank.ending char (List.mem_of_mem_head? next))
  | cons other pieces =>
    rw [text, List.flatMap_cons, Piece.text] at next
    cases gap : other.gap with
    | cons first gap' =>
      -- The first blank of the gap follows.
      rw [gap] at next
      obtain rfl : first = char := Option.some.inj next
      refine not_carriesOn_of_isBlank (blank.gaps other List.mem_cons_self first ?_)
      rw [gap]
      exact List.mem_cons_self
    | nil =>
      -- The next literal follows directly, so it does not carry on the token.
      have written := (Symbol.isScanned_iff.1 (spelled _ List.mem_cons_self)).toList_ne_nil
      obtain ⟨first, tail, literal⟩ := List.exists_cons_of_ne_nil written
      have literal : other.token.literal.toList = first :: tail := literal
      rw [gap, literal] at next
      obtain rfl : first = char := Option.some.inj next
      intro carries
      refine (List.isChain_cons_cons.1 parted).1 ⟨first, ?_, carries⟩ gap
      rw [literal]
      rfl

/-- **A layout is scanned as its tokens**, by induction along its pieces. -/
theorem symbolsOf_text {layout : Layout} (blank : layout.Blank)
    (spelled : ∀ token ∈ layout.tokens, token.symbol.IsScanned) (parted : layout.Parted) :
    symbolsOf layout.text = layout.tokens.map Token.symbol := by
  obtain ⟨pieces, ending⟩ := layout
  induction pieces with
  | nil =>
    have none := symbolsOf_blanks blank.ending []
    rwa [List.append_nil, symbolsOf_nil] at none
  | cons piece pieces ih =>
    have rest : Blank ⟨pieces, ending⟩ := ⟨(List.forall_mem_cons.1 blank.gaps).2, blank.ending⟩
    obtain ⟨first, others⟩ := List.forall_mem_cons.1 spelled
    have first : piece.token.kind.Spelled piece.token.literal := Symbol.isScanned_iff.1 first
    have ends := ends_of_parted rest others parted
    have whole : text ⟨piece :: pieces, ending⟩ =
        piece.gap ++ (piece.token.literal.toList ++ text ⟨pieces, ending⟩) := by
      simp only [text, Piece.text, List.flatMap_cons, List.append_assoc]
    rw [whole, symbolsOf_blanks (List.forall_mem_cons.1 blank.gaps).1,
      first.symbolsOf_append ends, ih rest others parted.of_cons]
    rfl

end Layout

end Monkey
