import Monkey.Syntax.Basic

/-! # Rendering

The canonical text of a tree, `Node.render`: every operator stands in parentheses of its own, and
an expression statement is closed by a semicolon unless it is the last of its list
(`Stmt.closed`), so that it cannot run on into the statement after it. Each form also has a label,
`Node.label`, the literal of the token that it is known by. -/

namespace Monkey

/-- The text of a statement that others follow; only an expression needs its end marked, since `let`
and `return` end with a semicolon anyway. -/
def Stmt.closed (statement : Stmt) (text : String) : String :=
  match statement with
  | .exprStmt _ => text ++ ";"
  | _ => text

/-- A block whose statements have these texts: they stand between braces, parted by single blanks.
-/
def Block.enclose : List String → String
  | [] => "\x7b \x7d"
  | texts => "\x7b " ++ " ".intercalate texts ++ " \x7d"

mutual

/-- **The canonical text of an expression**: operators in parentheses of their own, literals as they
were written. -/
def Expr.render : Expr → String
  | .ident name => name
  | .int _ literal => literal
  | .bool value => toString value
  | .unary op operand => "(" ++ op.sign ++ operand.render ++ ")"
  | .binary op left right => "(" ++ left.render ++ " " ++ op.sign ++ " " ++ right.render ++ ")"
  | .cond condition consequence none =>
    "if (" ++ condition.render ++ ") " ++ Block.enclose (Stmt.texts consequence)
  | .cond condition consequence (some alternative) =>
    "if (" ++ condition.render ++ ") " ++ Block.enclose (Stmt.texts consequence) ++
      " else " ++ Block.enclose (Stmt.texts alternative)
  | .fn parameters body =>
    "fn(" ++ ", ".intercalate parameters ++ ") " ++ Block.enclose (Stmt.texts body)
  | .call callee arguments =>
    callee.render ++ "(" ++ ", ".intercalate (Expr.texts arguments) ++ ")"

/-- The canonical texts of some expressions, as they stand between the commas of arguments. -/
def Expr.texts : List Expr → List String
  | [] => []
  | expression :: rest => expression.render :: Expr.texts rest

/-- **The canonical text of a statement** that is the last of its list. -/
def Stmt.render : Stmt → String
  | .letStmt name value => "let " ++ name ++ " = " ++ value.render ++ ";"
  | .returnStmt none => "return;"
  | .returnStmt (some value) => "return " ++ value.render ++ ";"
  | .exprStmt value => value.render

/-- The canonical texts of the statements of a list, each but the last closed by `Stmt.closed`. -/
def Stmt.texts : List Stmt → List String
  | [] => []
  | statement :: rest =>
    (if rest.isEmpty then statement.render else statement.closed statement.render) ::
      Stmt.texts rest

end

/-- The canonical text of a block: its `Stmt.texts` between braces. -/
def Block.render (block : Block) : String := Block.enclose (Stmt.texts block)

/-- The canonical text of a program: its `Stmt.texts`, parted by single blanks. -/
def Program.render (program : Program) : String := " ".intercalate (Stmt.texts program.statements)

/-- The canonical text of a node, whichever of the four forms it has. -/
def Node.render : Node → String
  | .program tree => tree.render
  | .block tree => Block.render tree
  | .statement tree => tree.render
  | .expression tree => tree.render

/-- The literal of the token that starts an expression or, between operands, defines it: for a sum
that is `+`, and for a call `(`. -/
def Expr.label : Expr → String
  | .ident name => name
  | .int _ literal => literal
  | .bool value => toString value
  | .unary op _ => op.sign
  | .binary op _ _ => op.sign
  | .cond .. => "if"
  | .fn .. => "fn"
  | .call .. => "("

/-- The literal of the token that starts a statement: its keyword, or the `Expr.label` of its
expression. -/
def Stmt.label : Stmt → String
  | .letStmt .. => "let"
  | .returnStmt _ => "return"
  | .exprStmt value => value.label

/-- The label of the first statement of a program; an empty program has none, and the empty text
stands for it. -/
def Program.label (program : Program) : String :=
  (program.statements.head?.map Stmt.label).getD ""

/-- The literal of the token that a node is known by; for a block it is the opening brace. -/
def Node.label : Node → String
  | .program tree => tree.label
  | .block _ => "\x7b"
  | .statement tree => tree.label
  | .expression tree => tree.label

@[simp] theorem Expr.texts_eq_map (expressions : List Expr) :
    Expr.texts expressions = expressions.map Expr.render := by
  induction expressions with
  | nil => rfl
  | cons expression rest ih => simp [Expr.texts, ih]

end Monkey
