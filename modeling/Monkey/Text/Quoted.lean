import Monkey.Text.DefaultIgnorable
import Monkey.Text.GraphemeExtend

/-! # Quoted text

A text in double quotes in which every character can be told from every other: `Quoted.escape`
puts a backslash before quotes and backslashes, and writes all that print would hide, as
`Quoted.isVisible` has it, by its code point. Messages of parse errors quote literals in this way. -/

namespace Monkey.Quoted

/-- Whether a character has no place of its own in print: it merges into the one before it. So do
all grapheme-extending characters but the two halfwidth voiced sound marks, U+FF9E and U+FF9F, which
are letters as wide as those they follow. -/
def combines (char : Char) : Bool :=
  isGraphemeExtend char && !(char == '\uff9e' || char == '\uff9f')

/-- Whether a character can be seen for what it is when it is written as itself: it is printable, is
not shown as nothing, and does not merge into the one before it. -/
def isVisible (char : Char) : Bool :=
  isPrintable char && !isDefaultIgnorable char && !combines char

/-- A character as it stands between quotes: as itself, behind a backslash, or as its code point in
base 16. Each is judged by itself, wherever it stands. -/
def escape (char : Char) : List Char :=
  match char with
  | '\x00' => ['\\', '0']
  | '\t' => ['\\', 't']
  | '\r' => ['\\', 'r']
  | '\n' => ['\\', 'n']
  | '"' => ['\\', '"']
  | '\\' => ['\\', '\\']
  | char =>
    if isVisible char then [char]
    else ['\\', 'u', '{'] ++ Nat.toDigits 16 char.toNat ++ ['}']

/-- The quoted form of a text: every character by `Quoted.escape`, between double quotes. -/
def write (text : String) : String :=
  "\"" ++ String.ofList (text.toList.flatMap escape) ++ "\""

end Monkey.Quoted
