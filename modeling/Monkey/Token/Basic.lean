/-! # Tokens

Token kinds with the text that messages show for them, `TokenKind.display`; positions in a source,
which count lines and columns; and token streams: a `TokenStream` is a finite list of tokens
followed by the end of the input for ever, which every read past its last token gives again. -/

namespace Monkey

/-- **What a token is**, whatever its spelling and its place. -/
inductive TokenKind where
  /-- A character that starts no token of another kind. -/
  | illegal
  /-- The end of the input, which has no spelling. -/
  | eof
  /-- A name, any word that is not reserved. -/
  | ident
  /-- An integer literal, a run of digits of any length. -/
  | int
  /-- The sign `=`. -/
  | assign
  /-- The sign `+`. -/
  | plus
  /-- The sign `-`. -/
  | minus
  /-- The sign `!`. -/
  | bang
  /-- The sign `*`. -/
  | asterisk
  /-- The sign `/`. -/
  | slash
  /-- The sign `<`. -/
  | lt
  /-- The sign `>`. -/
  | gt
  /-- The sign `==`. -/
  | eq
  /-- The sign `!=`. -/
  | notEq
  /-- The sign `,`. -/
  | comma
  /-- The sign `;`. -/
  | semicolon
  /-- The sign `(`. -/
  | lparen
  /-- The sign `)`. -/
  | rparen
  /-- The sign `{`. -/
  | lbrace
  /-- The sign `}`. -/
  | rbrace
  /-- The keyword `fn`. -/
  | fnKw
  /-- The keyword `let`. -/
  | letKw
  /-- The keyword `true`. -/
  | trueKw
  /-- The keyword `false`. -/
  | falseKw
  /-- The keyword `if`. -/
  | ifKw
  /-- The keyword `else`. -/
  | elseKw
  /-- The keyword `return`. -/
  | returnKw
  deriving DecidableEq, Repr

namespace TokenKind

/-- The text that messages show for a kind: signs as they are written, all else in capitals. -/
def display : TokenKind → String
  | illegal => "ILLEGAL"
  | eof => "EOF"
  | ident => "IDENT"
  | int => "INT"
  | assign => "="
  | plus => "+"
  | minus => "-"
  | bang => "!"
  | asterisk => "*"
  | slash => "/"
  | lt => "<"
  | gt => ">"
  | eq => "=="
  | notEq => "!="
  | comma => ","
  | semicolon => ";"
  | lparen => "("
  | rparen => ")"
  | lbrace => "\x7b"
  | rbrace => "\x7d"
  | fnKw => "FUNCTION"
  | letKw => "LET"
  | trueKw => "TRUE"
  | falseKw => "FALSE"
  | ifKw => "IF"
  | elseKw => "ELSE"
  | returnKw => "RETURN"

/-- The reserved words with the kinds of `TokenKind` that they have; every other word is a name. -/
def keywords : List (String × TokenKind) :=
  [("fn", fnKw), ("let", letKw), ("true", trueKw), ("false", falseKw), ("if", ifKw),
    ("else", elseKw), ("return", returnKw)]

/-- The kind of a word: its entry in `keywords`, or a name where it is not reserved. -/
def ofWord (word : String) : TokenKind :=
  (keywords.lookup word).getD ident

end TokenKind

/-- **A place in a source**; lines and columns count from one. -/
structure Position where
  line : Nat
  column : Nat
  deriving DecidableEq, Repr, Inhabited

namespace Position

/-- The place of the first character of a source, `1:1`. -/
def start : Position := ⟨1, 1⟩

/-- The place after one character: a line feed starts a line, all else is one column wide. -/
def next (position : Position) (char : Char) : Position :=
  if char = '\n' then ⟨position.line + 1, 1⟩ else ⟨position.line, position.column + 1⟩

/-- The place after a run of characters: `Position.next` for each of them in turn. -/
def after (position : Position) (chars : List Char) : Position :=
  chars.foldl next position

/-- The written form `line:column`, as messages have it. -/
def display (position : Position) : String :=
  toString position.line ++ ":" ++ toString position.column

@[simp] theorem after_nil (position : Position) : position.after [] = position := rfl

@[simp] theorem after_cons (position : Position) (char : Char) (chars : List Char) :
    position.after (char :: chars) = (position.next char).after chars := rfl

/-- A run is passed piece by piece: `Position.after` takes one piece from where it got with the
other. -/
theorem after_append (position : Position) (left right : List Char) :
    position.after (left ++ right) = (position.after left).after right :=
  List.foldl_append

end Position

/-- **A token**: its kind, the text it was written as, and where that text starts. -/
structure Token where
  kind : TokenKind
  literal : String
  position : Position
  deriving DecidableEq, Repr

/-- **A token stream**: a finite list of tokens, then the end of the input for ever. -/
structure TokenStream where
  tokens : List Token
  /-- Where the end of the input is reported, which is the place after the last character. -/
  endPosition : Position
  deriving DecidableEq, Repr

namespace TokenStream

/-- The token that every read past the last token gives: of kind `eof`, with an empty spelling. -/
def endToken (stream : TokenStream) : Token := ⟨.eof, "", stream.endPosition⟩

/-- The token that the next read gives: the first of the list, or `endToken`. -/
def head (stream : TokenStream) : Token := stream.tokens.headD stream.endToken

/-- What is left after one read; past the last token it is the same stream again. -/
def tail (stream : TokenStream) : TokenStream := { stream with tokens := stream.tokens.tail }

/-- The tokens that the first `count` reads give, `endToken` among them where the list is used up.
-/
def reads : Nat → TokenStream → List Token
  | 0, _ => []
  | count + 1, stream => stream.head :: reads count stream.tail

/-- Past the last token every read gives the end token: `reads` of more than there are is the list
and copies of `endToken`. -/
theorem reads_eq (stream : TokenStream) (extra : Nat) :
    stream.reads (stream.tokens.length + extra) =
      stream.tokens ++ List.replicate extra stream.endToken := by
  obtain ⟨tokens, endPosition⟩ := stream
  induction tokens with
  | nil =>
    rw [List.length_nil, Nat.zero_add]
    induction extra with
    | zero => rfl
    | succ extra ih => exact congrArg (endToken ⟨[], endPosition⟩ :: ·) ih
  | cons token tokens ih =>
    rw [List.length_cons, Nat.add_right_comm]
    exact congrArg (token :: ·) ih

end TokenStream

end Monkey
