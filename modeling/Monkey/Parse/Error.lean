import Monkey.Text.Quoted
import Monkey.Token.Basic

/-! # Parse errors

Why a statement cannot be read, and how that is reported: a `ParseError` has a
`ParseError.position` and a `ParseError.reason`, which make its `ParseError.message`, and all
errors of a source make one `ParseError.summary`. -/

namespace Monkey

/-- **The causes for which reading a statement fails**, with the token or the text they point at. -/
inductive ParseError where
  /-- A token of a certain kind had to come, and another one came; the reader has not moved on to
  it. -/
  | unexpectedToken (expected : TokenKind) (found : Token)
  /-- No expression starts with this token, and no rule of a grammar's own takes it. -/
  | noOperand (found : Token)
  /-- An expression would reach deeper than the limit, at the token of this place. -/
  | nestingTooDeep (limit : Nat) (position : Position)
  /-- The text of an integer literal denotes no signed 64-bit integer. -/
  | invalidInteger (literal : String) (position : Position)
  deriving DecidableEq, Repr

namespace ParseError

/-- Where an error is reported: the place of the token that it points at. -/
def position : ParseError → Position
  | unexpectedToken _ found => found.position
  | noOperand found => found.position
  | nestingTooDeep _ position => position
  | invalidInteger _ position => position

/-- What an error says, apart from its place: kinds by `TokenKind.display`, and literals quoted by
`Quoted.write`. -/
def reason : ParseError → String
  | unexpectedToken expected found =>
    "expected next token to be " ++ expected.display ++ ", got " ++ found.kind.display ++
      " (" ++ Quoted.write found.literal ++ ") instead"
  | noOperand found =>
    "no prefix parse function for " ++ found.kind.display ++
      " (" ++ Quoted.write found.literal ++ ") found"
  | nestingTooDeep limit _ =>
    "expression nested too deeply (limit is " ++ toString limit ++ ")"
  | invalidInteger literal _ =>
    "could not parse " ++ Quoted.write literal ++ " as integer"

/-- The report of an error: its place, then what it says. -/
def message (error : ParseError) : String :=
  error.position.display ++ ": " ++ error.reason

/-- The report of all errors of a source, one to a line behind their number, below a line that
counts them. -/
def summary (errors : List ParseError) : String :=
  "parser has " ++ toString errors.length ++ " error(s)" ++
    String.join (errors.map fun error => "\n\t" ++ error.message)

end ParseError

end Monkey
