import Monkey.Eval.Config

/-! # Operators

The values of unary and binary operations, `UnaryOp.apply` and `BinaryOp.apply`. Integers wrap
around at 64 bits, and division goes toward zero. Division by zero is an error under every
configuration; operands of the wrong kind are answered by `Config.typeError`. -/

namespace Monkey

/-- The value of a unary operation: `!` negates the truth of any value, and `-` takes integers
alone. -/
def UnaryOp.apply (config : Config) (op : UnaryOp) (operand : Value) : Value :=
  match op, operand with
  | .not, operand => .boolean !operand.isTruthy
  | .neg, .integer value => .integer (-value)
  | .neg, operand => config.typeError (.unaryOperand .neg operand.kind)

/-- The value of a binary operation on integers: sums, differences, products and quotients modulo 2
to the 64, and comparisons as truth values. Only division by zero is an error here. -/
def BinaryOp.applyIntegers (op : BinaryOp) (left right : Int64) : Value :=
  match op with
  | .eq => .boolean (left == right)
  | .ne => .boolean (left != right)
  | .lt => .boolean (left < right)
  | .gt => .boolean (left > right)
  | .add => .integer (left + right)
  | .sub => .integer (left - right)
  | .mul => .integer (left * right)
  | .div => if right = 0 then .error (.divisionByZero left) else .integer (left / right)

/-- The value of a binary operation. All values can be compared for equality, by `Value.beq`; the
other operators take integers alone, where `BinaryOp.applyIntegers` answers. -/
def BinaryOp.apply (config : Config) (op : BinaryOp) (left right : Value) : Value :=
  match left, right with
  | .integer left, .integer right => op.applyIntegers left right
  | left, right =>
    match op with
    | .eq => .boolean (left == right)
    | .ne => .boolean (left != right)
    | op =>
      if left.kind = right.kind then config.typeError (.binaryOperands op left.kind)
      else config.typeError (.mixedOperands op left.kind right.kind)

end Monkey
