import Monkey.Text.Decimal

/-! # Programs

The tree of a program: expressions and statements, `Expr` and `Stmt`, which contain each other
through the blocks of conditionals and functions. Groups have no node, as parentheses leave no
trace in a tree; an integer literal keeps the text it was written as beside its value. -/

namespace Monkey

/-- **Operators with one operand**, which stand before it. -/
inductive UnaryOp where
  /-- Negation of an integer, `-x`. -/
  | neg
  /-- Negation of a truth value, `!x`. -/
  | not
  deriving DecidableEq, Repr

/-- **Operators with two operands**, which stand between them. -/
inductive BinaryOp where
  /-- Equality, `==`. -/
  | eq
  /-- Inequality, `!=`. -/
  | ne
  /-- Strictly less, `<`. -/
  | lt
  /-- Strictly greater, `>`. -/
  | gt
  /-- Sum, `+`. -/
  | add
  /-- Difference, `-`. -/
  | sub
  /-- Quotient, `/`. -/
  | div
  /-- Product, `*`. -/
  | mul
  deriving DecidableEq, Repr

/-- How a unary operator is written, in sources and in canonical texts. -/
def UnaryOp.sign : UnaryOp → String
  | neg => "-"
  | not => "!"

/-- How a binary operator is written, in sources and in canonical texts. -/
def BinaryOp.sign : BinaryOp → String
  | eq => "=="
  | ne => "!="
  | lt => "<"
  | gt => ">"
  | add => "+"
  | sub => "-"
  | div => "/"
  | mul => "*"

mutual

/-- **Expressions**, whose blocks are lists of statements. -/
inductive Expr where
  /-- A name, looked up where it stands. -/
  | ident (name : String)
  /-- An integer together with the text it was written as. -/
  | int (value : Int64) (literal : String)
  /-- A truth value, `true` or `false`. -/
  | bool (value : Bool)
  /-- A unary operator and its operand, as in `-x`. -/
  | unary (op : UnaryOp) (operand : Expr)
  /-- A binary operator and its operands, as in `x + y`. -/
  | binary (op : BinaryOp) (left right : Expr)
  /-- A conditional; the block to run otherwise may be absent. -/
  | cond (condition : Expr) (consequence : List Stmt) (alternative : Option (List Stmt))
  /-- A function with its parameters and its body, `fn(x) { … }`. -/
  | fn (parameters : List String) (body : List Stmt)
  /-- A call of the value of an expression, with the arguments in parentheses behind it. -/
  | call (callee : Expr) (arguments : List Expr)

/-- **Statements**, of which programs and blocks are lists. -/
inductive Stmt where
  /-- A binding of a name to a value, `let x = …;`. -/
  | letStmt (name : String) (value : Expr)
  /-- A return; without a value it returns null. -/
  | returnStmt (value : Option Expr)
  /-- An expression run for its value, which is the value of the statement. -/
  | exprStmt (value : Expr)

end

instance : Inhabited Expr := ⟨.bool false⟩

instance : Inhabited Stmt := ⟨.returnStmt none⟩

/-- Statements between braces: the bodies of functions and the branches of conditionals. -/
abbrev Block := List Stmt

/-- **A program** is a list of statements. -/
structure Program where
  statements : List Stmt
  deriving Inhabited

/-- Whatever can be evaluated on its own, by `Node.eval`, and written as a text, by `Node.render`.
-/
inductive Node where
  /-- A whole program, which a return ends. -/
  | program (program : Program)
  /-- The statements of a block, evaluated where no braces are around them. -/
  | block (block : Block)
  /-- A single statement. -/
  | statement (statement : Stmt)
  /-- A single expression. -/
  | expression (expression : Expr)

/-- The literal of an integer in its shortest decimal form, as `Decimal.write` gives it. -/
def Expr.ofInt64 (value : Int64) : Expr := .int value (Decimal.write value)

end Monkey
