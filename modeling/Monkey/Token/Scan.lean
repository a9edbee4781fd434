import Monkey.Token.Basic

/-! # Scanning

A source text is cut into lexemes by `scanChars`, the longest first: runs of letters, runs of
digits, `==` and `!=`, and single characters otherwise (`lexemeTail`). Blanks part lexemes and
belong to none; the kind of a token is read off its spelling alone, by `TokenKind.ofLexeme`. -/

namespace Monkey

/-- Blanks are the space, the tab, the line feed and the carriage return; no lexeme starts with one.
-/
def isBlank (char : Char) : Bool :=
  char = ' ' || char = '\t' || char = '\n' || char = '\r'

/-- Names and keywords are written with ASCII letters and underscores; digits are no part of them.
-/
def isLetter (char : Char) : Bool :=
  char.isAlpha || char = '_'

namespace TokenKind

/-- The kind of a single sign; a character that is no sign is `illegal`. -/
def ofSign : Char → TokenKind
  | '=' => assign
  | '+' => plus
  | '-' => minus
  | '!' => bang
  | '*' => asterisk
  | '/' => slash
  | '<' => lt
  | '>' => gt
  | ',' => comma
  | ';' => semicolon
  | '(' => lparen
  | ')' => rparen
  | '{' => lbrace
  | '}' => rbrace
  | _ => illegal

/-- **The kind that a lexeme spells**: `==` and `!=` come first, words and numbers are told by their
first character, and all else is a single sign. -/
def ofLexeme : List Char → TokenKind
  | [] => eof
  | ['=', '='] => eq
  | ['!', '='] => notEq
  | first :: rest =>
    if isLetter first then ofWord (String.ofList (first :: rest))
    else if first.isDigit then int
    else ofSign first

end TokenKind

/-- The characters that belong to the same lexeme as the character `first` before them: a run of
letters or digits like it, or the `=` of `==` and `!=`. -/
def lexemeTail (first : Char) (rest : List Char) : List Char :=
  if isLetter first then rest.takeWhile isLetter
  else if first.isDigit then rest.takeWhile Char.isDigit
  else if (first = '=' || first = '!') && rest.head? = some '=' then ['=']
  else []

/-- **The tokens of a text** that starts at a given place, each with the place of its own first
character. -/
def scanChars (position : Position) : List Char → List Token
  | [] => []
  | first :: rest =>
    if isBlank first then scanChars (position.next first) rest
    else
      let lexeme := first :: lexemeTail first rest
      ⟨.ofLexeme lexeme, String.ofList lexeme, position⟩ ::
        scanChars (position.after lexeme) (rest.drop (lexemeTail first rest).length)
termination_by chars => chars.length
decreasing_by all_goals simp only [List.length_cons, List.length_drop]; omega

/-- A lexeme takes a first part of the text after its first character, so what `scanChars` goes on
with is shorter. -/
theorem lexemeTail_isPrefix (first : Char) (rest : List Char) : lexemeTail first rest <+: rest := by
  unfold lexemeTail
  split
  · exact List.takeWhile_prefix isLetter
  split
  · exact List.takeWhile_prefix Char.isDigit
  split
  · cases rest with
    | nil => simp_all
    | cons second rest =>
      obtain rfl : second = '=' := by simp_all
      exact ⟨rest, rfl⟩
  · exact List.nil_prefix

@[simp] theorem scanChars_nil (position : Position) : scanChars position [] = [] := by
  rw [scanChars]

/-- A blank moves the place and makes no token: one step of `scanChars`. -/
theorem scanChars_blank {first : Char} (blank : isBlank first = true) (position : Position)
    (rest : List Char) :
    scanChars position (first :: rest) = scanChars (position.next first) rest := by
  rw [scanChars, if_pos blank]

/-- Any other character starts a lexeme, and scanning goes on behind that: the other step of
`scanChars`. -/
theorem scanChars_lexeme {first : Char} (visible : isBlank first = false) (position : Position)
    (rest : List Char) :
    scanChars position (first :: rest) =
      ⟨.ofLexeme (first :: lexemeTail first rest), String.ofList (first :: lexemeTail first rest),
          position⟩ ::
        scanChars (position.after (first :: lexemeTail first rest))
          (rest.drop (lexemeTail first rest).length) := by
  rw [scanChars, if_neg (by simp [visible])]

namespace TokenStream

/-- The token stream of a source: its tokens by `scanChars`, and as its end the place after the last
character. -/
def ofSource (source : String) : TokenStream :=
  ⟨scanChars .start source.toList, Position.start.after source.toList⟩

end TokenStream

end Monkey
