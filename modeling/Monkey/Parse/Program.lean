import Monkey.Parse.Expression
import Monkey.Token.Scan

/-! # Reading programs

A program is read statement by statement, `Grammar.parse`. A statement that cannot be read is left
out and its error recorded; reading goes on behind the token that ends the broken statement, which
`Cursor.recover` looks for. What comes out is a `ParseOutcome`: the statements that could be read,
the errors of the others, and both in the order of the source. -/

namespace Monkey

namespace Cursor

/-- **The token that ends a broken statement**, or the end of the input: a semicolon, or a closing
brace that no `else` and no operator follows, together with the semicolon right after it. It is
looked for from the place of the error on, and only where no more braces are open than `floor`, the
count behind the first token of the statement. -/
def recover (rules : Rules) (floor : Nat) (cursor : Cursor) : Cursor :=
  if cursor.atEnd then cursor
  else if cursor.openedThrough ≤ floor ∧ cursor.current.kind = .semicolon then cursor
  else if cursor.openedThrough ≤ floor ∧ cursor.current.kind = .rbrace ∧
      ¬(cursor.peek.kind = .elseKw ∨ rules.hasOperator cursor.peek.kind) then
    if cursor.peek.kind = .semicolon then cursor.advance else cursor
  else recover rules floor cursor.advance
termination_by cursor.size
decreasing_by exact size_advance_lt ‹_›

end Cursor

/-- A statement of a source: where it starts, and what it was read as, be it a tree or an error. -/
structure ParsedItem where
  start : Cursor
  result : Except ParseError Stmt

namespace ParsedItem

/-- The statement, if it could be read; the other items have an `error?`. -/
def statement? (item : ParsedItem) : Option Stmt := item.result.toOption

/-- The error, if the statement could not be read; the other items have a `statement?`. -/
def error? (item : ParsedItem) : Option ParseError :=
  match item.result with
  | .ok _ => none
  | .error error => some error

end ParsedItem

/-- **What a token stream was read as**, statement by statement. -/
structure ParseOutcome where
  /-- The statements of the source in order, the broken ones included. -/
  items : List ParsedItem
  /-- Where reading ended, which is at the end of the input if the bound was enough. -/
  cursor : Cursor

namespace ParseOutcome

/-- The statements that could be read, in order; broken ones leave no gap. -/
def statements (outcome : ParseOutcome) : List Stmt := outcome.items.filterMap (·.statement?)

/-- The errors of the statements that could not be read, in order, one for each. -/
def errors (outcome : ParseOutcome) : List ParseError := outcome.items.filterMap (·.error?)

/-- The program of the statements that could be read, whatever errors there were. -/
def program (outcome : ParseOutcome) : Program := ⟨outcome.statements⟩

/-- The whole program, if every statement of it could be read, and otherwise all `errors`. -/
def toExcept (outcome : ParseOutcome) : Except (List ParseError) Program :=
  if outcome.errors.isEmpty then .ok outcome.program else .error outcome.errors

end ParseOutcome

namespace Grammar

/-- Reads one statement, and moves on behind it or, if it is broken, behind what `Cursor.recover`
skips. -/
def parseItem (grammar : Grammar) (bound : Nat) (recorded : List ParseError) (start : Cursor) :
    ParsedItem × Cursor :=
  match Parse.statement (Parse.Context.expression ⟨grammar, recorded⟩ bound 0) start with
  | .ok statement last => (⟨start, .ok statement⟩, last.advance)
  | .error error place =>
    (⟨start, .error error⟩, (place.recover grammar.rules start.openedThrough).advance)

/-- Reads statements up to the end of the input. The bound is at least the number of tokens left;
the errors recorded so far are given with the latest first. -/
def parseFrom (grammar : Grammar) : Nat → List ParseError → Cursor → ParseOutcome
  | 0, _, cursor => ⟨[], cursor⟩
  | bound + 1, recorded, cursor =>
    if cursor.atEnd then ⟨[], cursor⟩
    else
      let (item, next) := grammar.parseItem (bound + 1) recorded cursor
      let rest := grammar.parseFrom bound (item.error?.toList ++ recorded) next
      { rest with items := item :: rest.items }

/-- **Reads a token stream as a program**, from its first token on and with nothing recorded. -/
def parse (grammar : Grammar) (stream : TokenStream) : ParseOutcome :=
  grammar.parseFrom stream.tokens.length [] (.start stream)

end Grammar

/-- Reads a source as a program by the standard grammar, or reports every error in it. -/
def Program.parse (source : String) : Except (List ParseError) Program :=
  (Grammar.standard.parse (.ofSource source)).toExcept

end Monkey
