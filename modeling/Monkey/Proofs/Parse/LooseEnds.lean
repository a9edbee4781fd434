import Monkey.Proofs.Parse.Balance
import Monkey.Proofs.Parse.Bounds
import Monkey.Proofs.Parse.Recovery
import Monkey.Proofs.Syntax.StatementRest

/-! # Loose ends

Recovery from within a statement goes by closing braces: `Cursor.recover` takes the statement to
be over behind one that leaves no brace open, unless `else` or an operator follows. A closing
parenthesis or a comma may follow as well. There recovery stops too early, and what is left of the
statement makes one more error. `looseEnds` counts these places, and `parseFrom_recover` says that
they are all that comes of the rest of a statement (`StatementRest`), by induction along its
symbols. -/

namespace Monkey

/-- How many times recovery stops within a statement, before its end: at the closing braces that
leave no brace open and that a closing parenthesis or a comma follows. -/
def looseEnds : Nat → List Symbol → Nat
  | _, [] => 0
  | opened, symbol :: rest =>
    (if symbol.kind = .rbrace ∧ Cursor.braces opened symbol.kind = 0 ∧
        (nextKind rest = .rparen ∨ nextKind rest = .comma) then 1 else 0) +
      looseEnds (Cursor.braces opened symbol.kind) rest

namespace Parse

open ParseM Cursor

variable {limit : Option Nat} {recorded : List ParseError} {bound depth : Nat} {cursor : Cursor}

/-- No expression starts with a token that no statement starts with: the reader fails there without
moving. -/
theorem expression_of_not_startsStatement (never : cursor.current.kind.startsStatement = false)
    (floor : Precedence) :
    ∃ error, (Context.plain limit recorded).expression bound depth floor cursor =
      .error error cursor := by
  have operand (inner : ExprReader) (loop : Nat) :
      (Context.plain limit recorded).operand inner loop cursor =
        .error (.noOperand cursor.current) cursor := by
    rw [Context.operand_apply]
    generalize cursor.current.kind = kind at never
    cases kind <;> first | rfl | cases never
  have step (reader : Nat → ExprReader) (loop : Nat) : ∃ error,
      (Context.plain limit recorded).expressionStep reader loop depth floor cursor =
        .error error cursor := by
    rw [Context.expressionStep, current_bind]
    obtain allowed | ⟨error, refused⟩ :=
      (Context.plain limit recorded).descend_cases depth cursor.current
    · rw [bind_ok (allowed cursor), bind_error (operand _ _)]
      exact ⟨_, rfl⟩
    · rw [bind_error (refused cursor)]
      exact ⟨_, rfl⟩
  cases bound with
  | zero => exact step _ _
  | succ bound => exact step _ _

/-- A statement fails at once at a token that no statement starts with, without moving. -/
theorem statement_of_not_startsStatement (never : cursor.current.kind.startsStatement = false) :
    ∃ error, statement ((Context.plain limit recorded).expression bound depth) cursor =
      .error error cursor := by
  obtain ⟨error, run⟩ : ∃ error,
      (Context.plain limit recorded).expression bound depth .lowest cursor = .error error cursor :=
    expression_of_not_startsStatement never .lowest
  refine ⟨error, ?_⟩
  rw [statement, current_bind]
  generalize cursor.current.kind = kind at never
  split
  · cases never
  · cases never
  · exact bind_error run

end Parse

/-! ## Recovery along the rest of a statement -/

/-- A symbol that recovery does not stop at is no loose end, and adds nothing to `looseEnds`. -/
theorem looseEnds_cons {opened : Nat} {symbol : Symbol} {rest : List Symbol}
    (passed : ¬(symbol.kind = .rbrace ∧ Cursor.braces opened symbol.kind = 0 ∧
      (nextKind rest = .rparen ∨ nextKind rest = .comma))) :
    looseEnds opened (symbol :: rest) = looseEnds (Cursor.braces opened symbol.kind) rest := by
  rw [looseEnds, if_neg passed, Nat.zero_add]

/-- What may follow a block carries on the expression (`else` or an operator), closes the statement,
or encloses the block. -/
theorem TokenKind.followsBlock_cases {kind : TokenKind} (follows : kind.followsBlock = true) :
    (kind = .elseKw ∨ Rules.builtin.hasOperator kind = true) ∨ kind = .semicolon ∨
      kind = .rparen ∨ kind = .comma := by
  revert follows
  cases kind <;> decide

namespace Cursor

variable {cursor : Cursor}

/-- Recovery stops at a loose end: a closing brace outside all braces with a closing parenthesis or
a comma behind it. -/
theorem recover_looseEnd (closes : cursor.current.kind = .rbrace)
    (outside : cursor.openedThrough = 0)
    (loose : cursor.peek.kind = .rparen ∨ cursor.peek.kind = .comma) :
    cursor.recover .builtin 0 = cursor := by
  rw [recover_closing closes (Nat.le_of_eq outside), if_neg]
  · rcases loose with loose | loose <;> rw [loose] <;> decide
  · rcases loose with loose | loose <;> rw [loose] <;> decide

/-- Recovery gets on behind any other closing brace of a statement, or stops at the semicolon there.
Both are where it would get to from behind that brace. -/
theorem recover_closing_passes (closes : cursor.current.kind = .rbrace)
    (follows : cursor.peek.kind.followsBlock = true)
    (passed : ¬(cursor.openedThrough = 0 ∧
      (cursor.peek.kind = .rparen ∨ cursor.peek.kind = .comma))) :
    cursor.recover .builtin 0 = cursor.advance.recover .builtin 0 := by
  by_cases outside : cursor.openedThrough = 0
  · obtain goes | semicolon | loose := TokenKind.followsBlock_cases follows
    · exact recover_continued closes goes
    · have stands : cursor.advance.current.kind = .semicolon := semicolon
      have le : cursor.advance.openedThrough ≤ 0 := by
        rw [openedThrough_of_not_brace (by rw [current_advance, semicolon]; rfl)]
        exact Nat.le_of_eq outside
      have ends : ¬(cursor.peek.kind = .elseKw ∨
          Rules.builtin.hasOperator cursor.peek.kind = true) := by
        rw [semicolon]
        decide
      rw [recover_closing closes (Nat.le_of_eq outside) ends, if_pos semicolon,
        recover_semicolon stands le]
    · exact absurd ⟨outside, loose⟩ passed
  · exact recover_within (by rw [closes]; decide) (Nat.pos_of_ne_zero outside)

end Cursor

namespace Grammar

open ParseM Parse Cursor

variable {limit : Option Nat}

/-- Where a statement fails that starts outside all braces, its error is the first one, and reading
goes on where `recover` leads from there. -/
theorem parseFrom_failed {bound : Nat} {recorded : List ParseError} {cursor place : Cursor}
    {error : ParseError} (inside : cursor.current.kind ≠ .eof) (outside : cursor.openedThrough = 0)
    (enough : cursor.size ≤ bound + 1)
    (run : statement ((Context.plain limit recorded).expression (bound + 1) 0) cursor =
      .error error place) :
    let outcome := (limited limit).parseFrom (bound + 1) recorded cursor
    let next := (place.recover .builtin 0).advance
    let rest := (limited limit).parseFrom bound (error :: recorded) next
    next.size ≤ bound ∧ outcome.statements = rest.statements ∧
      outcome.errors = error :: rest.errors := by
  intro outcome next rest
  have read : (limited limit).parseItem (bound + 1) recorded cursor =
      (⟨cursor, .error error⟩, next) := by
    rw [parseItem, run, outside]
  obtain ⟨errors, statements⟩ := parseFrom_error (mt of_decide_eq_true inside) read
  exact ⟨size_parseItem_le enough read, statements, errors⟩

/-- Where a token stands outside all braces that carries on a statement but starts none, reading
fails at once, and goes on where recovery leads from there: the error that a loose end makes. -/
theorem parseFrom_separator (limit : Option Nat) {bound : Nat} {recorded : List ParseError}
    {cursor : Cursor}
    (separator : cursor.current.kind = .rparen ∨ cursor.current.kind = .comma)
    (outside : cursor.opened = 0) (enough : cursor.size ≤ bound) :
    ∃ error fewer, (cursor.recover .builtin 0).advance.size ≤ fewer ∧
      let outcome := (limited limit).parseFrom bound recorded cursor
      let rest :=
        (limited limit).parseFrom fewer (error :: recorded) (cursor.recover .builtin 0).advance
      outcome.statements = rest.statements ∧ outcome.errors = error :: rest.errors := by
  have never : cursor.current.kind.startsStatement = false := by
    rcases separator with found | found <;> rw [found] <;> rfl
  have inside : cursor.current.kind ≠ .eof := by
    rcases separator with found | found <;> rw [found] <;> decide
  have outside : cursor.openedThrough = 0 := by
    rw [openedThrough_of_not_brace, outside]
    rcases separator with found | found <;> rw [found] <;> rfl
  have some_token : cursor.size ≠ 0 := fun empty => inside (current_kind_of_size_eq_zero empty)
  obtain ⟨bound, rfl⟩ : ∃ fewer, bound = fewer + 1 := ⟨bound - 1, by omega⟩
  obtain ⟨error, run⟩ : ∃ error,
      statement ((Context.plain limit recorded).expression (bound + 1) 0) cursor =
        .error error cursor := statement_of_not_startsStatement never
  exact ⟨error, bound, parseFrom_failed inside outside enough run⟩

/-- **Recovery from within a statement**, and the reading of what it leaves of the statement, end
with the statement. No further statement is read on the way, and each of the `looseEnds` makes one
more error. -/
theorem parseFrom_recover (limit : Option Nat) (recorded : List ParseError) {opened : Nat}
    {symbols : List Symbol} (left : StatementRest opened symbols) {cursor : Cursor}
    (same : cursor.symbols = symbols) (count : cursor.opened = opened) {bound : Nat}
    (enough : (cursor.recover .builtin 0).advance.size ≤ bound) :
    let outcome := (limited limit).parseFrom bound recorded (cursor.recover .builtin 0).advance
    outcome.statements = [] ∧ outcome.errors.length = looseEnds opened symbols := by
  -- On what is left of the statement: recovery passes a symbol, stops at a loose end, or is at the
  -- semicolon.
  induction left generalizing cursor bound recorded with
  | semicolon literal =>
    have closes : cursor.current.kind = .semicolon := by rw [cursor.current_kind, same]; rfl
    have ended : cursor.advance.atEnd = true := by
      rw [atEnd, current_kind, symbols_advance, same]
      rfl
    have outside : cursor.openedThrough = 0 := by rw [openedThrough, closes, count]; rfl
    rw [recover_semicolon closes (Nat.le_of_eq outside), parseFrom_atEnd ended]
    exact ⟨rfl, rfl⟩
  | @within opened symbol rest inside above left ih =>
    have kind : cursor.current.kind = symbol.kind := congrArg Symbol.kind (current_symbol same)
    have through : cursor.openedThrough = braces opened symbol.kind := by
      rw [openedThrough, kind, count]
    have passes : cursor.recover .builtin 0 = cursor.advance.recover .builtin 0 :=
      recover_within (by rwa [kind]) (by rwa [through])
    rw [looseEnds_cons fun loose => Nat.ne_of_gt above loose.2.1]
    rw [passes] at enough ⊢
    exact ih recorded (advance_symbols same) through enough
  | @plain opened symbol rest plain left ih =>
    have kind : cursor.current.kind = symbol.kind := congrArg Symbol.kind (current_symbol same)
    have through : cursor.openedThrough = opened := by
      rw [openedThrough, kind, count, TokenKind.braces_of_isPlain plain]
    have never {other : TokenKind} (special : other.isPlain = false) :
        cursor.current.kind ≠ other := by
      rw [kind]
      exact TokenKind.ne_of_isPlain plain special
    have passes : cursor.recover .builtin 0 = cursor.advance.recover .builtin 0 :=
      recover_plain (never rfl) (never rfl) (never rfl)
    rw [looseEnds_cons fun loose => TokenKind.ne_of_isPlain plain rfl loose.1,
      TokenKind.braces_of_isPlain plain]
    rw [passes] at enough ⊢
    exact ih recorded (advance_symbols same) through enough
  | @closing opened literal rest follows left ih =>
    have kind : cursor.current.kind = .rbrace := congrArg Symbol.kind (current_symbol same)
    have through : cursor.openedThrough = opened - 1 := by
      rw [openedThrough, kind, count]
      rfl
    have behind : cursor.advance.symbols = rest := advance_symbols same
    have peek : cursor.peek.kind = nextKind rest := by rw [peek_kind, behind]
    by_cases loose : opened - 1 = 0 ∧ (nextKind rest = .rparen ∨ nextKind rest = .comma)
    · -- The statement goes on, but recovery stops, and the next one starts at the token behind.
      have stops : cursor.recover .builtin 0 = cursor :=
        recover_looseEnd kind (through.trans loose.1) (by rw [peek]; exact loose.2)
      rw [stops] at enough ⊢
      have separator : cursor.advance.current.kind = .rparen ∨
          cursor.advance.current.kind = .comma := by
        rw [current_advance, peek]
        exact loose.2
      obtain ⟨error, fewer, enough, statements, errors⟩ :=
        parseFrom_separator limit separator (through.trans loose.1) enough
      obtain ⟨none, number⟩ := ih (error :: recorded) behind through enough
      refine ⟨statements.trans none, ?_⟩
      rw [errors, List.length_cons, number, looseEnds, if_pos ⟨rfl, loose⟩, Nat.add_comm]
      rfl
    · -- Recovery gets on with what is left.
      have passes : cursor.recover .builtin 0 = cursor.advance.recover .builtin 0 :=
        recover_closing_passes kind (by rwa [peek]) (by rwa [through, peek])
      have passed : ¬(TokenKind.rbrace = .rbrace ∧ braces opened .rbrace = 0 ∧
          (nextKind rest = .rparen ∨ nextKind rest = .comma)) := fun ends => loose ends.2
      rw [looseEnds_cons passed]
      rw [passes] at enough ⊢
      exact ih recorded behind through enough

end Grammar

end Monkey
