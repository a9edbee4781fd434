import Monkey.Parse.Error
import Monkey.Syntax.Basic

/-! # Grammars

What readers of expressions go by. The **precedence table** `Precedence.table` says how tightly the
kinds of token bind what stands before them; `Precedence.ofKind` looks a kind up and answers `lowest`
for one without an entry, and nothing lies below `lowest` (`Precedence.not_lt_lowest`), so that such
a kind carries no expression on. What is done at a kind that does is a second lookup: `Rules` holds
the operand and operator rules that stand in for the built-in ones, and `Rules.action?` finds an
operator rule among these first and then among the built-in operators of `Operator.ofKind?`. A
`Grammar` is a set of rules with a limit on how deep expressions may nest. -/

namespace Monkey

/-- **How tightly an expression is bound**, from the loosest to the tightest. Expressions are read
above a precedence: only operators that bind tighter are taken into them. -/
inductive Precedence where
  /-- Anything binds tighter; what stands in the table does, and what does not is as low as this. -/
  | lowest
  /-- Equality and inequality, `==` and `!=`. -/
  | equality
  /-- Less and greater, `<` and `>`. -/
  | comparison
  /-- Sums and differences. -/
  | sum
  /-- Products and quotients. -/
  | product
  /-- Unary operators, `!` and `-` before their operand. -/
  | unary
  /-- Calls, whose opening parenthesis stands behind the callee. -/
  | call
  deriving DecidableEq, Repr

namespace Precedence

/-- The place of a precedence in their order: `lowest` is at 0 and `call` at 6, and `<` compares
these places. -/
def rank : Precedence → Nat
  | lowest => 0
  | equality => 1
  | comparison => 2
  | sum => 3
  | product => 4
  | unary => 5
  | call => 6

instance : LT Precedence := ⟨fun left right => left.rank < right.rank⟩

instance (left right : Precedence) : Decidable (left < right) :=
  inferInstanceAs (Decidable (left.rank < right.rank))

/-- **The precedence table**: the kinds of token that carry an expression on, and how tightly each
of them binds what stands before it. -/
def table : List (TokenKind × Precedence) :=
  [(.eq, .equality), (.notEq, .equality), (.lt, .comparison), (.gt, .comparison), (.plus, .sum),
    (.minus, .sum), (.slash, .product), (.asterisk, .product), (.lparen, .call)]

/-- How tightly a token of a kind binds what stands before it: as its entry in `Precedence.table`
says, and not at all, which is `lowest`, if it has none. -/
def ofKind (kind : TokenKind) : Precedence := (table.lookup kind).getD lowest

/-- Nothing lies below `lowest`, so no expression is read so loosely that it takes in what binds no
tighter. -/
theorem not_lt_lowest (floor : Precedence) : ¬floor < lowest := Nat.not_lt_zero _

/-- A kind without an entry in `Precedence.table` binds as loosely as anything. -/
theorem ofKind_of_notMem {kind : TokenKind} (absent : kind ∉ table.map Prod.fst) :
    ofKind kind = lowest := by
  have unknown : table.lookup kind = none := by
    refine List.lookup_eq_none_iff.2 fun entry mem => bne_iff_ne.2 ?_
    rintro rfl
    exact absent (List.mem_map_of_mem mem)
  rw [ofKind, unknown, Option.getD_none]

/-- What is looked up above some precedence stands in `Precedence.table`. -/
theorem mem_table_of_lt_ofKind {floor : Precedence} {kind : TokenKind}
    (tighter : floor < ofKind kind) : kind ∈ table.map Prod.fst :=
  Decidable.byContradiction fun absent =>
    not_lt_lowest floor (ofKind_of_notMem absent ▸ tighter)

end Precedence

/-- **What the language does behind a finished operand**: its built-in operators. -/
inductive Operator where
  /-- A binary operator, which takes one more operand. -/
  | binary (op : BinaryOp)
  /-- An opening parenthesis, which makes the operand a callee. -/
  | call
  deriving DecidableEq, Repr

namespace Operator

/-- The built-in operator that a kind of token stands for, if any. The kinds that have one are those
of `Precedence.table` (`Operator.isSome_ofKind?_iff`), but the two tables are looked up apart. -/
def ofKind? : TokenKind → Option Operator
  | .eq => some (binary .eq)
  | .notEq => some (binary .ne)
  | .lt => some (binary .lt)
  | .gt => some (binary .gt)
  | .plus => some (binary .add)
  | .minus => some (binary .sub)
  | .slash => some (binary .div)
  | .asterisk => some (binary .mul)
  | .lparen => some call
  | _ => none

/-- There is a built-in operator for exactly the kinds with an entry in `Precedence.table`. -/
theorem isSome_ofKind?_iff {kind : TokenKind} :
    (ofKind? kind).isSome = true ↔ kind ∈ Precedence.table.map Prod.fst := by
  cases kind <;> decide

/-- A kind that binds tighter than something has a built-in operator. -/
theorem exists_ofKind?_of_lt {floor : Precedence} {kind : TokenKind}
    (tighter : floor < .ofKind kind) : ∃ operator, ofKind? kind = some operator :=
  Option.isSome_iff_exists.1 (isSome_ofKind?_iff.2 (Precedence.mem_table_of_lt_ofKind tighter))

end Operator

/-- A rule for an operand: from the current token and the errors recorded so far, the latest first,
it makes the operand or fails. It consumes no further token. -/
abbrev OperandRule := Token → List ParseError → Except ParseError Expr

/-- A rule for an operator: from the operator, the errors recorded so far, the latest first, and the
finished left operand it makes an expression or fails. It consumes no further token. -/
abbrev OperatorRule := Token → List ParseError → Expr → Except ParseError Expr

/-- What is done at a token that carries an expression on. -/
inductive OperatorAction where
  /-- A rule of a grammar's own is run. -/
  | custom (rule : OperatorRule)
  /-- What the language does at an `Operator` of its own. -/
  | builtin (operator : Operator)

/-- **Rules that stand in for the built-in ones** at some kinds of token, for operands and for
operators. At the other kinds, where they answer `none`, the built-in rules stay. -/
structure Rules where
  /-- The rule by which an operand that starts with a token of a kind is read. -/
  operand : TokenKind → Option OperandRule
  /-- The rule by which an expression is carried on at a token of a kind. -/
  operator : TokenKind → Option OperatorRule

namespace Rules

/-- The built-in rules alone. -/
def builtin : Rules := ⟨fun _ => none, fun _ => none⟩

instance : Inhabited Rules := ⟨builtin⟩

/-- Sets the operand rule of one kind, in place of the one it had, built in or not. -/
def setOperand (rules : Rules) (kind : TokenKind) (rule : OperandRule) : Rules :=
  { rules with operand := fun other => if other = kind then some rule else rules.operand other }

/-- Sets the operator rule of one kind, in place of the one it had, built in or not. How tightly the
kind binds is not the rule's to say: that stays with `Precedence.table`. -/
def setOperator (rules : Rules) (kind : TokenKind) (rule : OperatorRule) : Rules :=
  { rules with operator := fun other => if other = kind then some rule else rules.operator other }

/-- What is done at an operator of a kind, if anything: the rule that was set for it, or else what
`Operator.ofKind?` says. -/
def action? (rules : Rules) (kind : TokenKind) : Option OperatorAction :=
  match rules.operator kind with
  | some rule => some (.custom rule)
  | none => (Operator.ofKind? kind).map .builtin

/-- Whether anything is done at an operator of a kind; this is all that error recovery asks. -/
def hasOperator (rules : Rules) (kind : TokenKind) : Bool := (rules.action? kind).isSome

/-- Without rules of a grammar's own the built-in operators are what there is. -/
@[simp] theorem action?_builtin (kind : TokenKind) :
    builtin.action? kind = (Operator.ofKind? kind).map .builtin := rfl

/-- At the other kinds a rule that was set is not found. -/
theorem action?_setOperator_of_ne (rules : Rules) {kind other : TokenKind} (rule : OperatorRule)
    (apart : other ≠ kind) : (rules.setOperator kind rule).action? other = rules.action? other := by
  simp only [action?, setOperator, if_neg apart]

end Rules

/-- **What a reader of programs goes by**: its rules, and how deep expressions may nest. -/
structure Grammar where
  /-- The rules of its expressions. -/
  rules : Rules := .builtin
  /-- How deep its expressions may nest, where there is a limit. -/
  nestingLimit : Option Nat := some 1024

namespace Grammar

/-- The grammar of the language: the built-in rules, and expressions up to 1024 levels deep. -/
def standard : Grammar := {}

instance : Inhabited Grammar := ⟨standard⟩

end Grammar

end Monkey
