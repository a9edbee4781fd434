import Monkey.Parse.Program

/-! # Reading on fuel

The readers of `Parse` as plain loops and recursions: in the monad `LoopM` nothing but the tokens
they meet ends them, and how deep expressions nest is counted by all of them together, in
`Reading.depth`. Each level counts one more, and behind an expression, broken or not, the count is
what it was before it (`Fueled.restoring`). Fuel only stands in for time. A reader that runs out of
it has no result, whatever tokens are left, so one that goes on for ever has none with any fuel.

* `Fueled.expression`, `Fueled.item`, `Fueled.parse` — expressions, statements and programs.
* `Fueled.items_atEnd`, `Fueled.items_inside` — the rest of a program, at its end and before it. -/

namespace Monkey

open Parse

/-- **What a reader changes**: where it stands, and how deep. -/
structure Reading where
  /-- Where the next tokens come from. -/
  cursor : Cursor
  /-- How deep the current token stands. -/
  depth : Nat

/-- A reader that need not come to an end; where it does not there is no result. -/
abbrev LoopM := ExceptT ParseError (StateT Reading Option)

instance : MonadStateOf Cursor LoopM where
  get := return (← getThe Reading).cursor
  set cursor := modifyThe Reading ({ · with cursor })
  modifyGet step := modifyGetThe Reading fun reading =>
    let (value, cursor) := step reading.cursor
    (value, { reading with cursor })

/-- A loop that reads an expression where operators have to bind tighter than a precedence. -/
abbrev ExprLoop := Precedence → LoopM Expr

namespace Fueled

/-- There is no fuel left, and no result. -/
def exhausted {α : Type} : LoopM α := fun _ => none

/-- The depth is the one that is counted in `Reading.depth`, and a reader that has used its fuel up
has no result, at the end of the input too. -/
instance : Reads LoopM where
  descend limit _ token := do
    checkDepth limit (← getThe Reading).depth token
    modifyThe Reading fun reading => { reading with depth := reading.depth + 1 }
  spent _ := exhausted

/-- Reads as a loop does, and then counts the depth again that was counted before, also behind an
error. -/
def restoring {α : Type} (loop : LoopM α) : LoopM α := fun reading => do
  let (result, last) ← loop reading
  return (result, { last with depth := reading.depth })

/-- **Reads an expression**; behind it the depth is the one before it again. The readers of `Parse`
are told depth 0 all along, which `Reads.descend` does not look at here. -/
def expression (context : Context) : Nat → ExprLoop
  | 0, _ => exhausted
  | fuel + 1, floor =>
    restoring (context.expressionStep (fun _ => expression context fuel) (fuel + 1) 0 floor)

/-! ## Programs -/

section

variable (grammar : Grammar)

/-- Reads one statement, and moves on behind it or, if it is broken, behind what recovery skips. -/
def item (fuel : Nat) (recorded : List ParseError) (reading : Reading) :
    Option (ParsedItem × Reading) := do
  let start := reading.cursor
  match ← statement (expression ⟨grammar, recorded⟩ fuel) reading with
  | (.ok statement, last) =>
    return (⟨start, .ok statement⟩, { last with cursor := last.cursor.advance })
  | (.error error, last) =>
    let place := last.cursor.recover grammar.rules start.openedThrough
    return (⟨start, .error error⟩, { last with cursor := place.advance })

/-- Reads statements up to the end of the input. -/
def items : Nat → List ParseError → Reading → Option ParseOutcome
  | 0, _, _ => none
  | fuel + 1, recorded, reading => do
    if reading.cursor.atEnd then return ⟨[], reading.cursor⟩
    else
      let (first, next) ← item grammar (fuel + 1) recorded reading
      let rest ← items fuel (first.error?.toList ++ recorded) next
      return { rest with items := first :: rest.items }

/-- Reads a token stream as a program. -/
def parse (fuel : Nat) (stream : TokenStream) : Option ParseOutcome :=
  items grammar fuel [] ⟨.start stream, 0⟩

end

variable {grammar : Grammar} {fuel : Nat} {recorded : List ParseError} {reading : Reading}

/-- At the end of the input nothing is read. -/
theorem items_atEnd (ended : reading.cursor.atEnd = true) :
    items grammar (fuel + 1) recorded reading = some ⟨[], reading.cursor⟩ := by
  rw [items, if_pos ended]
  rfl

/-- Before the end an item is read, and the others behind it. -/
theorem items_inside (inside : ¬reading.cursor.atEnd = true) {first : ParsedItem} {next : Reading}
    {rest : ParseOutcome} (read : item grammar (fuel + 1) recorded reading = some (first, next))
    (others : items grammar fuel (first.error?.toList ++ recorded) next = some rest) :
    items grammar (fuel + 1) recorded reading =
      some { rest with items := first :: rest.items } := by
  rw [items, if_neg inside, read]
  simp only [Option.bind_eq_bind, Option.bind_some, others]
  rfl

end Fueled

end Monkey
