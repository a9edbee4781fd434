import Monkey.Syntax.Basic

/-! # Equality of trees

Equality of expressions and statements is decidable: `Expr.beq` and `Stmt.beq` compare trees node
by node, literal texts of integers included, and `Expr.beq_iff` and `Stmt.beq_iff` say that they
decide equality. The two of them and their lists are compared by one recursion on the left tree. -/

namespace Monkey

mutual

/-- Whether two expressions are the same tree, node by node and literal by literal. -/
def Expr.beq : Expr → Expr → Bool
  | .ident left, .ident right => left == right
  | .int left leftText, .int right rightText => left == right && leftText == rightText
  | .bool left, .bool right => left == right
  | .unary leftOp left, .unary rightOp right => leftOp == rightOp && left.beq right
  | .binary leftOp left₁ left₂, .binary rightOp right₁ right₂ =>
    leftOp == rightOp && left₁.beq right₁ && left₂.beq right₂
  | .cond left leftThen none, .cond right rightThen none =>
    left.beq right && Stmt.beqList leftThen rightThen
  | .cond left leftThen (some leftElse), .cond right rightThen (some rightElse) =>
    left.beq right && Stmt.beqList leftThen rightThen && Stmt.beqList leftElse rightElse
  | .fn left leftBody, .fn right rightBody => left == right && Stmt.beqList leftBody rightBody
  | .call left leftArgs, .call right rightArgs => left.beq right && Expr.beqList leftArgs rightArgs
  | _, _ => false
termination_by structural left => left

/-- Whether two lists of expressions are the same, as `Expr.beq` compares their members. -/
def Expr.beqList : List Expr → List Expr → Bool
  | [], [] => true
  | left :: lefts, right :: rights => left.beq right && Expr.beqList lefts rights
  | _, _ => false
termination_by structural left => left

/-- Whether two statements are the same tree: the same form with the same names and expressions. -/
def Stmt.beq : Stmt → Stmt → Bool
  | .letStmt leftName left, .letStmt rightName right => leftName == rightName && left.beq right
  | .returnStmt none, .returnStmt none => true
  | .returnStmt (some left), .returnStmt (some right) => left.beq right
  | .exprStmt left, .exprStmt right => left.beq right
  | _, _ => false
termination_by structural left => left

/-- Whether two lists of statements are the same, as `Stmt.beq` compares their members. -/
def Stmt.beqList : List Stmt → List Stmt → Bool
  | [], [] => true
  | left :: lefts, right :: rights => left.beq right && Stmt.beqList lefts rights
  | _, _ => false
termination_by structural left => left

end

mutual

/-- Comparison by `Expr.beq` decides equality of expressions, whence their `DecidableEq`. -/
theorem Expr.beq_iff : (left right : Expr) → (left.beq right = true ↔ left = right)
  | .ident _, right => by cases right <;> simp [Expr.beq]
  | .int _ _, right => by cases right <;> simp [Expr.beq]
  | .bool _, right => by cases right <;> simp [Expr.beq]
  | .unary _ operand, right => by
    cases right <;> simp [Expr.beq, Expr.beq_iff operand]
  | .binary _ left₁ left₂, right => by
    cases right <;> simp [Expr.beq, Expr.beq_iff left₁, Expr.beq_iff left₂, and_assoc]
  | .cond condition consequence none, right => by
    rcases right with _ | _ | _ | _ | _ | ⟨_, _, _ | _⟩ | _ | _ <;>
      simp [Expr.beq, Expr.beq_iff condition, Stmt.beqList_iff consequence]
  | .cond condition consequence (some alternative), right => by
    rcases right with _ | _ | _ | _ | _ | ⟨_, _, _ | _⟩ | _ | _ <;>
      simp [Expr.beq, Expr.beq_iff condition, Stmt.beqList_iff consequence,
        Stmt.beqList_iff alternative, and_assoc]
  | .fn _ body, right => by
    cases right <;> simp [Expr.beq, Stmt.beqList_iff body]
  | .call callee arguments, right => by
    cases right <;> simp [Expr.beq, Expr.beq_iff callee, Expr.beqList_iff arguments]

/-- Comparison by `Expr.beqList` decides equality of lists of expressions. -/
theorem Expr.beqList_iff :
    (left right : List Expr) → (Expr.beqList left right = true ↔ left = right)
  | [], right => by cases right <;> simp [Expr.beqList]
  | head :: tail, right => by
    cases right <;> simp [Expr.beqList, Expr.beq_iff head, Expr.beqList_iff tail]

/-- Comparison by `Stmt.beq` decides equality of statements, whence their `DecidableEq`. -/
theorem Stmt.beq_iff : (left right : Stmt) → (left.beq right = true ↔ left = right)
  | .letStmt _ value, right => by cases right <;> simp [Stmt.beq, Expr.beq_iff value]
  | .returnStmt none, right => by
    rcases right with _ | (_ | _) | _ <;> simp [Stmt.beq]
  | .returnStmt (some value), right => by
    rcases right with _ | (_ | _) | _ <;> simp [Stmt.beq, Expr.beq_iff value]
  | .exprStmt value, right => by cases right <;> simp [Stmt.beq, Expr.beq_iff value]

/-- Comparison by `Stmt.beqList` decides equality of lists of statements. -/
theorem Stmt.beqList_iff :
    (left right : List Stmt) → (Stmt.beqList left right = true ↔ left = right)
  | [], right => by cases right <;> simp [Stmt.beqList]
  | head :: tail, right => by
    cases right <;> simp [Stmt.beqList, Stmt.beq_iff head, Stmt.beqList_iff tail]

end

instance : DecidableEq Expr := fun left right => decidable_of_iff _ (Expr.beq_iff left right)

instance : DecidableEq Stmt := fun left right => decidable_of_iff _ (Stmt.beq_iff left right)

deriving instance DecidableEq for Program

deriving instance DecidableEq for Node

end Monkey
