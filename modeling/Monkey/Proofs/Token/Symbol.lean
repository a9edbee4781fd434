import Monkey.Token.Cursor

/-! # Symbols

What a reader can tell of a token is its kind and its literal (`Symbol`); where the token stands
shows in error reports only. A cursor is seen here as the list of the symbols from the current
token on, `Cursor.symbols`, of which `current` and `peek` show the first two. -/

namespace Monkey

/-- What a token is and how it is written, wherever it stands. -/
structure Symbol where
  kind : TokenKind
  literal : String
  deriving DecidableEq, Repr

/-- The symbol of a token, with its place left out. -/
def Token.symbol (token : Token) : Symbol := ⟨token.kind, token.literal⟩

/-- The kind of the first of some symbols; where there is none, the input ends. -/
def nextKind : List Symbol → TokenKind
  | [] => .eof
  | symbol :: _ => symbol.kind

@[simp] theorem nextKind_cons (symbol : Symbol) (rest : List Symbol) :
    nextKind (symbol :: rest) = symbol.kind := rfl

/-- What follows some symbols does not change the first of them, if there is one. -/
theorem nextKind_append {symbols : List Symbol} (some_symbol : symbols ≠ [])
    (rest : List Symbol) : nextKind (symbols ++ rest) = nextKind symbols := by
  cases symbols with
  | nil => exact absurd rfl some_symbol
  | cons symbol symbols => rfl

namespace Cursor

/-- The symbols from the current token on, up to the end of the input. -/
def symbols (cursor : Cursor) : List Symbol := cursor.stream.tokens.map Token.symbol

@[simp] theorem symbols_start (stream : TokenStream) :
    (start stream).symbols = stream.tokens.map Token.symbol := rfl

@[simp] theorem length_symbols (cursor : Cursor) : cursor.symbols.length = cursor.size :=
  List.length_map _

/-- A move passes the first symbol, if there is one. -/
theorem symbols_advance (cursor : Cursor) : cursor.advance.symbols = cursor.symbols.tail :=
  List.map_tail

/-- A move leaves no more tokens than there were, and as many only at the end. -/
theorem size_advance_le (cursor : Cursor) : cursor.advance.size ≤ cursor.size := by
  rw [size_advance]
  exact Nat.sub_le ..

/-- The kind of the current token is that of the first symbol, by `nextKind`. -/
theorem current_kind (cursor : Cursor) : cursor.current.kind = nextKind cursor.symbols := by
  obtain ⟨⟨tokens, endPosition⟩, opened⟩ := cursor
  cases tokens <;> rfl

/-- The kind of the token after the current one is that of the symbol after the first. -/
theorem peek_kind (cursor : Cursor) : cursor.peek.kind = nextKind cursor.advance.symbols :=
  cursor.advance.current_kind

/-- A current token that is not the end of the input is the first symbol. -/
theorem symbols_eq_cons {cursor : Cursor} (inside : cursor.current.kind ≠ .eof) :
    cursor.symbols = cursor.current.symbol :: cursor.advance.symbols := by
  obtain ⟨⟨tokens, endPosition⟩, opened⟩ := cursor
  cases tokens with
  | nil => exact absurd rfl inside
  | cons token tokens => rfl

/-- The first symbol is the current token, without its place. -/
theorem current_symbol {cursor : Cursor} {symbol : Symbol} {rest : List Symbol}
    (symbols : cursor.symbols = symbol :: rest) : cursor.current.symbol = symbol := by
  obtain ⟨⟨tokens, endPosition⟩, opened⟩ := cursor
  cases tokens with
  | nil => cases symbols
  | cons token tokens => exact (List.cons.inj symbols).1

/-- What follows the first symbol is left after a move. -/
theorem advance_symbols {cursor : Cursor} {symbol : Symbol} {rest : List Symbol}
    (symbols : cursor.symbols = symbol :: rest) : cursor.advance.symbols = rest := by
  rw [symbols_advance, symbols, List.tail_cons]

end Cursor

end Monkey
