import Monkey.Parse.Rules
import Monkey.Proofs.Syntax.Derivation

/-! # Levels and precedences

Readers of expressions are told a `Precedence` above which operators are taken; the grammar has a
`Level` instead. Both are counted by a rank here, so that the one can be held against the other:
the level of the expressions that are read above a precedence (`Precedence.level`), the tightest
precedence above which an expression of a level can be read (`Level.floor`), and how tightly a
token binds what stands before it (`TokenKind.tightness`). -/

namespace Monkey

/-- The place of a level in their order, from 1 for `equality` to 6 for `call`; the operators of a
level have the same rank. -/
def Level.rank : Level → Nat
  | equality => 1
  | comparison => 2
  | sum => 3
  | product => 4
  | unary => 5
  | call => 6

/-- The tightest precedence above which the expressions of a level are read as a whole: the one
below that of its binary operators, and `unary` where there are none. -/
def Level.floor : Level → Precedence
  | equality => .lowest
  | comparison => .equality
  | sum => .comparison
  | product => .sum
  | unary | call => .unary

/-- The level of the expressions that are read above a precedence: the next one above that of the
operators which have the precedence. -/
def Precedence.level : Precedence → Level
  | lowest => .equality
  | equality => .comparison
  | comparison => .sum
  | sum => .product
  | product | unary | call => .unary

theorem Level.floor_rank_le (level : Level) : level.floor.rank ≤ level.rank := by
  cases level <;> decide

theorem Level.rank_le (level : Level) : level.rank ≤ 6 := by
  cases level <;> decide

/-- A tighter level is read above the same precedences, and perhaps above tighter ones. -/
theorem Level.floor_le_tighter (level : Level) : level.floor.rank ≤ level.tighter.floor.rank := by
  cases level <;> decide

theorem Level.rank_le_tighter (level : Level) : level.rank ≤ level.tighter.rank := by
  cases level <;> decide

/-- Only calls bind tighter than everything else, so a level of their rank is theirs. -/
theorem Level.eq_call {level : Level} (tight : 6 ≤ level.rank) : level = .call := by
  revert tight
  cases level <;> decide

namespace BinaryOp

/-- How tightly a binary operator binds: as `Precedence.table` has it for the kind of token that the
operator is written with. -/
def precedence (op : BinaryOp) : Precedence := .ofKind op.kind

theorem rank_level (op : BinaryOp) : op.level.rank = op.precedence.rank := by
  cases op <;> rfl

theorem floor_level_lt (op : BinaryOp) : op.level.floor.rank < op.precedence.rank := by
  cases op <;> decide

/-- The right operand is read above the precedence of the operator, so it is an expression of the
tighter level. This makes operators group to the left. -/
theorem precedence_level (op : BinaryOp) : op.precedence.level = op.level.tighter := by
  cases op <;> rfl

theorem precedence_le_floor (op : BinaryOp) :
    op.precedence.rank ≤ op.level.tighter.floor.rank := by
  cases op <;> decide

theorem ofKind?_kind (op : BinaryOp) : Operator.ofKind? op.kind = some (.binary op) := by
  cases op <;> rfl

end BinaryOp

/-- What is read above a precedence that an operator exceeds may stand on the operator's left. -/
theorem Precedence.level_rank_le {floor other : Precedence} (less : floor.rank < other.rank)
    (not_call : other.rank ≤ 5) : floor.level.rank ≤ other.rank := by
  revert less not_call
  cases floor <;> cases other <;> decide

theorem Precedence.level_rank_le_five (floor : Precedence) : floor.level.rank ≤ 5 := by
  cases floor <;> decide

namespace TokenKind

/-- How tightly a token of a kind binds the expression before it, as the rank of its
`Precedence.ofKind`; zero if it does not carry it on. -/
def tightness (kind : TokenKind) : Nat := (Precedence.ofKind kind).rank

@[simp] theorem tightness_kind (op : BinaryOp) : op.kind.tightness = op.precedence.rank := rfl

/-- Nothing binds tighter than a call, by a look at `Precedence.table`. -/
theorem tightness_le_call (kind : TokenKind) : kind.tightness ≤ Level.call.rank := by
  cases kind <;> decide

/-- The kinds that carry an expression on are those that bind at all: the others have no entry in
`Precedence.table`. -/
theorem tightness_eq_zero_iff {kind : TokenKind} :
    kind.tightness = 0 ↔ kind.carriesOn = false := by
  cases kind <;> decide

/-- A kind that stands for a binary operator is the one it is written with, so `Operator.ofKind?`
and `BinaryOp.kind` are inverse. -/
theorem eq_kind_of_binary {kind : TokenKind} {op : BinaryOp}
    (stands : Operator.ofKind? kind = some (.binary op)) : kind = op.kind := by
  cases kind <;> cases stands <;> rfl

/-- A kind that stands for a call is an opening parenthesis; there is no other. -/
theorem eq_lparen_of_call {kind : TokenKind} (stands : Operator.ofKind? kind = some .call) :
    kind = .lparen := by
  cases kind <;> cases stands
  rfl

end TokenKind

namespace Derivation

/-- An expression of a level is one of every looser level, and just as deep, by as many steps as
there are levels between. -/
theorem loosen {inner outer : Level} {tree : Expr} {symbols : List Symbol}
    (derivation : Derivation (.expression inner tree) symbols) (le : outer.rank ≤ inner.rank) :
    ∃ whole : Derivation (.expression outer tree) symbols,
      whole.spine = derivation.spine ∧ whole.nesting = derivation.nesting := by
  -- One level at a time, from the inner level outwards.
  by_cases same : outer = inner
  · subst same
    exact ⟨derivation, rfl, rfl⟩
  · have less : outer.tighter.rank ≤ inner.rank ∧ outer.rank < outer.tighter.rank := by
      revert le same
      cases outer <;> cases inner <;> decide
    obtain ⟨whole, spine, nesting⟩ := loosen derivation less.1
    exact ⟨.tighter whole, spine, nesting⟩
termination_by 6 - outer.rank
decreasing_by
  have := outer.tighter.rank_le
  omega

end Derivation

end Monkey
