import Monkey.Syntax.Basic

/-! # Where returns stand

A return that is executed in a conditional comes out of it as its value, still wrapped, wherever
the conditional stands. As a statement of its own it ends the list of statements around it, as a
return should. At any other `Place` the wrapped value meets a construct that goes on with it.
Trees are return-safe for some places (`Expr.ReturnSafe`, `Program.ReturnSafe`) if no conditional
with a return in it (`Expr.isReturning`) stands there. -/

namespace Monkey

/-- Where an expression can stand when it is not a statement of its own. -/
inductive Place where
  /-- The value of a binding, which is bound to its name. -/
  | letValue
  /-- The value of a return, which is wrapped. -/
  | returnValue
  /-- The condition of a conditional, of which only the truth counts. -/
  | condition
  /-- An operand of a unary or a binary operator. -/
  | operand
  /-- What is called, which has to be a function. -/
  | callee
  /-- An argument of a call, which is bound to a parameter. -/
  | argument
  deriving DecidableEq, Repr

mutual

/-- Whether a return occurs in an expression, outside the functions in it: those unwrap what their
bodies come to. -/
def Expr.returns : Expr → Bool
  | .ident _ | .int _ _ | .bool _ | .fn _ _ => false
  | .unary _ operand => operand.returns
  | .binary _ left right => left.returns || right.returns
  | .cond condition consequence none => condition.returns || Stmt.returnsList consequence
  | .cond condition consequence (some alternative) =>
    condition.returns || Stmt.returnsList consequence || Stmt.returnsList alternative
  | .call callee arguments => callee.returns || Expr.returnsList arguments

/-- Whether a return occurs in some of the expressions. -/
def Expr.returnsList : List Expr → Bool
  | [] => false
  | first :: rest => first.returns || Expr.returnsList rest

/-- Whether a statement is a return, or one occurs in it outside the functions in it. -/
def Stmt.returns : Stmt → Bool
  | .letStmt _ value | .exprStmt value => value.returns
  | .returnStmt _ => true

/-- Whether a return occurs in some of the statements. -/
def Stmt.returnsList : List Stmt → Bool
  | [] => false
  | first :: rest => first.returns || Stmt.returnsList rest

end

/-- Whether an expression is a conditional that a return occurs in; no other expression can come to
a wrapped value by itself. -/
def Expr.isReturning : Expr → Bool
  | .cond condition consequence alternative =>
    (Expr.cond condition consequence alternative).returns
  | _ => false

/-- Without a return in it an expression is not a returning one, be it a conditional or not. -/
theorem Expr.isReturning_eq_false {tree : Expr} (silent : tree.returns = false) :
    tree.isReturning = false := by
  cases tree with
  | cond condition consequence alternative => exact silent
  | _ => rfl

section

variable (guarded : Place → Prop)

/-- Whether an expression may stand at a place: at a guarded one no expression that `isReturning`
may. -/
def Place.Admits (place : Place) (tree : Expr) : Prop :=
  guarded place → tree.isReturning = false

mutual

/-- An expression without returning conditionals at the guarded places, neither outside the
functions in it nor in their bodies. -/
def Expr.ReturnSafe : Expr → Prop
  | .ident _ | .int _ _ | .bool _ => True
  | .unary _ operand => Place.operand.Admits guarded operand ∧ operand.ReturnSafe
  | .binary _ left right =>
    (Place.operand.Admits guarded left ∧ left.ReturnSafe) ∧
      Place.operand.Admits guarded right ∧ right.ReturnSafe
  | .cond condition consequence none =>
    (Place.condition.Admits guarded condition ∧ condition.ReturnSafe) ∧
      Stmt.ReturnSafeList consequence
  | .cond condition consequence (some alternative) =>
    (Place.condition.Admits guarded condition ∧ condition.ReturnSafe) ∧
      Stmt.ReturnSafeList consequence ∧ Stmt.ReturnSafeList alternative
  | .fn _ body => Stmt.ReturnSafeList body
  | .call callee arguments =>
    (Place.callee.Admits guarded callee ∧ callee.ReturnSafe) ∧ Expr.ReturnSafeList arguments

/-- Arguments without returning conditionals at the guarded places, of which `argument` may be one.
-/
def Expr.ReturnSafeList : List Expr → Prop
  | [] => True
  | first :: rest =>
    (Place.argument.Admits guarded first ∧ first.ReturnSafe) ∧ Expr.ReturnSafeList rest

/-- A statement without returning conditionals at the guarded places; as a statement of its own any
expression may stand. -/
def Stmt.ReturnSafe : Stmt → Prop
  | .letStmt _ value => Place.letValue.Admits guarded value ∧ value.ReturnSafe
  | .returnStmt none => True
  | .returnStmt (some value) => Place.returnValue.Admits guarded value ∧ value.ReturnSafe
  | .exprStmt value => value.ReturnSafe

/-- Statements without returning conditionals at the guarded places, each of them by
`Stmt.ReturnSafe`. -/
def Stmt.ReturnSafeList : List Stmt → Prop
  | [] => True
  | first :: rest => first.ReturnSafe ∧ Stmt.ReturnSafeList rest

end

/-- A program without returning conditionals at the guarded places, in any of its statements. -/
def Program.ReturnSafe (program : Program) : Prop := Stmt.ReturnSafeList guarded program.statements

end

end Monkey
