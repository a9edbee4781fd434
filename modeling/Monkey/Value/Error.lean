import Monkey.Syntax.Basic

/-! # Run-time errors

The kinds of values, and why an evaluation fails: each cause is a constructor of `RuntimeError`
with the data its `RuntimeError.message` is made of. -/

namespace Monkey

/-- The kinds of values, as errors name them. -/
inductive Kind where
  /-- Integers, `INTEGER`. -/
  | integer
  /-- Truth values, `BOOLEAN`. -/
  | boolean
  /-- The absence of a value, `NULL`. -/
  | null
  /-- Values that are being returned, `RETURN_VALUE`. -/
  | returned
  /-- Errors, `ERROR`. -/
  | error
  /-- Functions, `FUNCTION`. -/
  | function
  deriving DecidableEq, Repr

/-- The name of a kind, as it stands in the messages of errors. -/
def Kind.name : Kind → String
  | integer => "INTEGER"
  | boolean => "BOOLEAN"
  | null => "NULL"
  | returned => "RETURN_VALUE"
  | error => "ERROR"
  | function => "FUNCTION"

/-- **The causes for which an evaluation fails**, with what their messages say. -/
inductive RuntimeError where
  /-- A name is bound in no scope in sight. -/
  | unboundName (name : String)
  /-- A unary operator does not take operands of this kind. -/
  | unaryOperand (op : UnaryOp) (operand : Kind)
  /-- A binary operator does not take two operands of this kind. -/
  | binaryOperands (op : BinaryOp) (operands : Kind)
  /-- A binary operator does not take operands of two different kinds. -/
  | mixedOperands (op : BinaryOp) (left right : Kind)
  /-- An integer is divided by zero. -/
  | divisionByZero (dividend : Int64)
  /-- A value that is called is no function. -/
  | notCallable (callee : Kind)
  /-- A function is called with the wrong number of arguments. -/
  | wrongArity (expected given : Nat)
  /-- A call would go deeper than the `maxCallDepth` of a `Config`. -/
  | callsTooDeep (limit : Nat)
  /-- An error that the host of an evaluation made itself. -/
  | raised (message : String)
  deriving DecidableEq, Repr

namespace RuntimeError

/-- What an error says: a fixed text for each cause, with its names, kinds and numbers in it. -/
def message : RuntimeError → String
  | unboundName name => "identifier not found: " ++ name
  | unaryOperand op operand => "unknown operator: " ++ op.sign ++ operand.name
  | binaryOperands op operands =>
    "unknown operator: " ++ operands.name ++ " " ++ op.sign ++ " " ++ operands.name
  | mixedOperands op left right =>
    "type mismatch: " ++ left.name ++ " " ++ op.sign ++ " " ++ right.name
  | divisionByZero dividend => "division by zero: " ++ Decimal.write dividend ++ " / 0"
  | notCallable callee => "not a function: " ++ callee.name
  | wrongArity expected given =>
    "wrong number of arguments: want=" ++ toString expected ++ ", got=" ++ toString given
  | callsTooDeep limit => "maximum call depth of " ++ toString limit ++ " exceeded"
  | raised message => message

/-- Whether operands of the wrong kind are the cause; these are the errors that a `TypeErrorPolicy`
may turn into `null`. -/
def isTypeError : RuntimeError → Bool
  | unaryOperand .. | binaryOperands .. | mixedOperands .. => true
  | _ => false

end RuntimeError

end Monkey
