import Monkey.Token.Basic

/-! # Cursors

A reader sees two tokens of a stream through a `Cursor`, the current one and the one after it, and
moves over the stream one token at a time, by `Cursor.advance`. On its way it counts the braces
that are open, in `Cursor.opened`; recovery from errors goes by this count. How many tokens are
left is the `Cursor.size`, by which readers end. -/

namespace Monkey

/-- **A place in a token stream**: what is left of the stream, and how many braces are open there.
-/
structure Cursor where
  /-- The stream from the current token on. -/
  stream : TokenStream
  /-- How many braces the tokens before the current one leave open. -/
  opened : Nat
  deriving DecidableEq, Repr

namespace Cursor

/-- The place before the first token of a stream, where no brace is open. -/
def start (stream : TokenStream) : Cursor := ⟨stream, 0⟩

/-- The token at the cursor, or the end token where no token is left. -/
def current (cursor : Cursor) : Token := cursor.stream.head

/-- The token after the current one, which readers look at before they move on to it. -/
def peek (cursor : Cursor) : Token := cursor.stream.tail.head

/-- The count of open braces after one more token; a stray closing brace counts for nothing. -/
def braces (opened : Nat) : TokenKind → Nat
  | .lbrace => opened + 1
  | .rbrace => opened - 1
  | _ => opened

/-- How many braces are open once the current token is counted too, which is the count of the next
place. -/
def openedThrough (cursor : Cursor) : Nat := braces cursor.opened cursor.current.kind

/-- Moves on to the next token, and counts the one that is left behind. -/
def advance (cursor : Cursor) : Cursor := ⟨cursor.stream.tail, cursor.openedThrough⟩

/-- Whether the current token ends the input. -/
def atEnd (cursor : Cursor) : Bool := cursor.current.kind = .eof

/-- How many tokens the stream still has, the current one included; the end of the input is none of
them. -/
def size (cursor : Cursor) : Nat := cursor.stream.tokens.length

@[simp] theorem current_advance (cursor : Cursor) : cursor.advance.current = cursor.peek := rfl

/-- A move by `advance` passes one token, if there is one. -/
@[simp] theorem size_advance (cursor : Cursor) : cursor.advance.size = cursor.size - 1 :=
  List.length_tail

/-- Past the last token the input has ended, as `endToken` is what is read there. -/
theorem atEnd_of_size_eq_zero {cursor : Cursor} (empty : cursor.size = 0) :
    cursor.atEnd = true := by
  simp only [size, List.length_eq_zero_iff] at empty
  simp [atEnd, current, TokenStream.head, empty, TokenStream.endToken]

/-- Before the end of the input a move makes the stream shorter, so that recovery and reading come
to an end. -/
theorem size_advance_lt {cursor : Cursor} (inside : ¬cursor.atEnd = true) :
    cursor.advance.size < cursor.size := by
  have := mt atEnd_of_size_eq_zero inside
  rw [size_advance]
  omega

end Cursor

end Monkey
