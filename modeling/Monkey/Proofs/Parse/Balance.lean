import Monkey.Proofs.Parse.Progress
import Monkey.Proofs.Token.Braces

/-! # Readers keep the count of open braces

A reader that succeeds has passed as many closing braces as opening ones, and a reader never gets
past the closing brace of the block in which it started, whether it succeeds or fails. Both are
said by `Stays`: where the result of a reader is reached (`Cursor.Above`), and how many braces are
open there at success. There is one lemma for each reader, from `statement_keeps` to
`operators_keeps`, under the hypothesis `KeepsBraces` for the expressions in it;
`expression_keeps` ties them together by induction on the bound. -/

namespace Monkey

namespace ParseM

variable {α β : Type} {level : Nat} {cursor : Cursor} {mid post : Cursor → Prop}

/-- A result at a place above a level, that is, with no way to it on which fewer braces were open;
the last place of a success is as described by `post` besides. -/
def Stays (level : Nat) (cursor : Cursor) (post : Cursor → Prop) :
    EStateM.Result ParseError Cursor α → Prop
  | .ok _ last => cursor.Above level last ∧ post last
  | .error _ place => cursor.Above level place

namespace Stays

variable {reader : ParseM α} {next : α → ParseM β} {result : EStateM.Result ParseError Cursor α}

/-- A success where the reader stands, for readers that do not move. -/
theorem here {value : α} (holds : post cursor) :
    Stays level cursor post (.ok value cursor : EStateM.Result ParseError Cursor α) :=
  ⟨.here, holds⟩

/-- A failure where the reader stands: nothing has to be said of it but its place. -/
theorem failed {error : ParseError} :
    Stays level cursor post (.error error cursor : EStateM.Result ParseError Cursor α) :=
  Cursor.Above.here

/-- How a success ends: in a place that is as `post` describes. -/
theorem of_ok {value : α} {last : Cursor} (stays : Stays level cursor post result)
    (run : result = .ok value last) : post last := by
  subst run
  exact stays.2

/-- Where a failure stands: at a place above the level, so within the block in which the reader
started. -/
theorem of_error {error : ParseError} {place : Cursor} (stays : Stays level cursor post result)
    (run : result = .error error place) : cursor.Above level place := by
  subst run
  exact stays

/-- What is above a level is above a lower one, and less may be said of the last place. -/
theorem weaken {other : Nat} (stays : Stays other cursor mid result) (le : level ≤ other)
    (less : ∀ last, mid last → post last) : Stays level cursor post result := by
  cases result with
  | ok value last => exact ⟨stays.1.mono le, less last stays.2⟩
  | error error place => exact Cursor.Above.mono stays le

/-- A result that is reached from a place on the way, if that place is above the level too. -/
theorem after {place : Cursor} (way : cursor.Above level place)
    (stays : Stays level place post result) : Stays level cursor post result := by
  cases result with
  | ok value last => exact ⟨way.trans stays.1, stays.2⟩
  | error error last => exact way.trans stays

/-- A result that is reached from the next token on, where the current one does not lead below the
level. -/
theorem step (before : cursor.openedThrough = level)
    (stays : Stays level cursor.advance post result) : Stays level cursor post result :=
  stays.after (.further .here (Nat.le_of_eq before.symm))

/-- Readers in turn: the second starts where the first one ends, at a place that `mid` describes.
With it the readers are taken apart as they are written. -/
theorem bind (first : Stays level cursor mid (reader cursor))
    (second : ∀ value place, mid place → Stays level place post (next value place)) :
    Stays level cursor post ((reader >>= next) cursor) := by
  cases run : reader cursor with
  | ok value place =>
    rw [run] at first
    rw [bind_ok run]
    exact (second value place first.2).after first.1
  | error error place =>
    rw [run] at first
    rw [bind_error run]
    exact first

/-- A reader behind an expected token starts at it; if another token is there, `Parse.expect` fails
without moving. -/
theorem expect {kind : TokenKind} {next : Token → ParseM β}
    (before : cursor.openedThrough = level)
    (rest : cursor.peek.kind = kind →
      Stays level cursor.advance post (next cursor.peek cursor.advance)) :
    Stays level cursor post ((Parse.expect kind >>= next) cursor) := by
  by_cases found : cursor.peek.kind = kind
  · rw [bind_ok (expect_ok found)]
    exact (rest found).step before
  · have run : Parse.expect (m := ParseM) kind cursor =
        .error (.unexpectedToken kind cursor.peek) cursor := by
      rw [expect_apply, if_neg found]
    rw [bind_error run]
    exact failed

end Stays

end ParseM

namespace Cursor

/-- A place that ends a statement at a level: as many braces are open behind it, and its token opens
none. -/
structure EndsStatement (level : Nat) (last : Cursor) : Prop where
  level : last.openedThrough = level
  not_opening : last.current.kind ≠ .lbrace

/-- A place that ends an expression at a level: one that `EndsStatement`, and not with a semicolon,
for no expression ends with one. -/
structure EndsExpression (level : Nat) (last : Cursor) : Prop extends EndsStatement level last where
  not_semicolon : last.current.kind ≠ .semicolon

/-- A last token of some kind other than braces and semicolons ends an expression at the level at
which it stands. -/
theorem EndsExpression.of_kind {level : Nat} {last : Cursor} {kind : TokenKind}
    (found : last.current.kind = kind) (plain : kind.isBrace = false) (other : kind ≠ .semicolon)
    (opened : last.opened = level) : EndsExpression level last where
  level := by rw [openedThrough_of_not_brace (by rwa [found]), opened]
  not_opening := by rintro opens; rw [← found, opens] at plain; cases plain
  not_semicolon := by rwa [found]

/-- A closing brace ends an expression at the level outside, one less than the level at which it
stands. -/
theorem EndsExpression.of_rbrace {level : Nat} {last : Cursor}
    (closes : last.current.kind = .rbrace) (opened : last.opened = level + 1) :
    EndsExpression level last where
  level := by rw [openedThrough, closes, opened]; rfl
  not_opening := by rw [closes]; decide
  not_semicolon := by rw [closes]; decide

end Cursor

namespace Parse

open ParseM Cursor

/-- A reader of expressions that keeps the count of open braces: wherever it starts, it ends as
`EndsExpression` says at the level there. -/
def KeepsBraces (inner : ExprReader) : Prop :=
  ∀ (floor : Precedence) (cursor : Cursor),
    Stays cursor.opened cursor (EndsExpression cursor.opened) (inner floor cursor)

variable {inner : ExprReader} {bound level : Nat} {cursor : Cursor}

/-- An expression that starts where a number of braces are open ends where so many are:
`KeepsBraces` for a level that is known by another name. -/
theorem KeepsBraces.at (keeps : KeepsBraces inner) {floor : Precedence}
    (opened : cursor.opened = level) :
    Stays level cursor (EndsExpression level) (inner floor cursor) := by
  subst opened
  exact keeps floor cursor

/-- A semicolon behind an expression ends its statement, and so does the end of the expression if
there is no semicolon. -/
theorem endsStatement_behindSemicolon {place : Cursor} (ends : EndsExpression level place) :
    place.Above level (behindSemicolon place) ∧ EndsStatement level (behindSemicolon place) := by
  unfold behindSemicolon
  split
  · next semicolon =>
    refine ⟨.further .here (Nat.le_of_eq ends.level.symm), ?_, ?_⟩
    · rw [openedThrough_of_not_brace (by rw [current_advance, semicolon]; rfl)]
      exact ends.level
    · rw [current_advance, semicolon]
      decide
  · exact ⟨.here, ends.toEndsStatement⟩

/-- Behind a token that is no brace as many braces are open as before it. -/
theorem openedThrough_eq (place : Cursor) {kind : TokenKind} (found : place.current.kind = kind)
    (plain : kind.isBrace = false) (opened : place.opened = level) :
    place.openedThrough = level := by
  rw [openedThrough_of_not_brace (by rwa [found]), opened]

/-! ## Statements and blocks -/

/-- A `statement` keeps the count if its expressions do: it ends with an expression, a semicolon or
the keyword of a return without a value. -/
theorem statement_keeps (keeps : KeepsBraces inner) (opened : cursor.opened = level) :
    Stays level cursor (EndsStatement level) (statement inner cursor) := by
  -- Every statement with a value ends like this: with the value, and perhaps a semicolon.
  have valued {place : Cursor} (make : Expr → Stmt) (opened : place.opened = level) :
      Stays level place (EndsStatement level) ((do
        let value ← inner .lowest
        skipSemicolon
        return make value : ParseM Stmt) place) := by
    refine (keeps.at opened).bind fun value place ends => ?_
    rw [skipSemicolon_bind]
    obtain ⟨above, ends⟩ := endsStatement_behindSemicolon ends
    exact (Stays.here ends).after above
  rw [statement, current_bind]
  generalize word : cursor.current.kind = kind
  split
  · -- `let`
    have before := openedThrough_eq cursor word rfl opened
    refine .expect before fun named => ?_
    have before := openedThrough_eq cursor.advance named rfl before
    refine .expect before fun assigned => ?_
    have before := openedThrough_eq cursor.advance.advance assigned rfl before
    rw [advance_bind]
    exact (valued _ before).step before
  · -- `return`
    have before := openedThrough_eq cursor word rfl opened
    have ends : EndsStatement level cursor :=
      (EndsExpression.of_kind word rfl (by decide) opened).toEndsStatement
    rw [peek_bind]
    generalize next : cursor.peek.kind = kind
    split
    · have closed := openedThrough_eq cursor.advance next rfl before
      have not_opening : cursor.advance.current.kind ≠ .lbrace := by
        rw [current_advance, next]
        decide
      rw [advance_bind]
      exact (Stays.here ⟨closed, not_opening⟩).step before
    · exact .here ends
    · exact .here ends
    · rw [advance_bind]
      exact (valued _ before).step before
  · exact valued _ opened

/-- The `statements` of a block are read without passing its closing brace, by induction on the
bound; reading ends at that brace. -/
theorem statements_keeps (keeps : KeepsBraces inner) (opened : cursor.opened = level) :
    Stays level cursor (fun last => last.current.kind = .rbrace ∧ last.opened = level)
      (statements inner bound cursor) := by
  induction bound generalizing cursor with
  | zero => exact .failed
  | succ bound ih =>
    rw [statements, current_bind]
    generalize word : cursor.current.kind = kind
    split
    · exact .here ⟨word, opened⟩
    · exact .failed
    · refine (statement_keeps keeps opened).bind fun first place ends => ?_
      rw [advance_bind]
      refine .step ends.level (.bind (ih ends.level) fun rest last closes => ?_)
      exact .here closes

/-- A `block` keeps the count from its opening brace to its closing brace: one more is open within
it, so all of it is above the level outside. -/
theorem block_keeps (keeps : KeepsBraces inner) (before : cursor.openedThrough = level) :
    Stays level cursor (EndsExpression level) (block inner bound cursor) := by
  refine .expect before fun opens => ?_
  -- Within the block one brace more is open.
  have inside : cursor.advance.openedThrough = level + 1 := by
    rw [openedThrough, current_advance, opens, ← before]
    rfl
  have way : cursor.advance.Above level cursor.advance.advance :=
    .further .here (by rw [inside]; exact Nat.le_succ level)
  rw [advance_bind]
  refine ((statements_keeps keeps inside).weaken (Nat.le_succ level) ?_).after way
  rintro last ⟨closes, opened⟩
  exact .of_rbrace closes opened

/-! ## Parameters and arguments -/

/-- A list ends at its closing parenthesis, which is no brace; where it is missing, `Parse.expect`
fails on the spot. -/
theorem close_keeps {α : Type} {value : α} (before : cursor.openedThrough = level) :
    Stays level cursor (EndsExpression level)
      ((do let _ ← expect .rparen; return value : ParseM α) cursor) :=
  .expect before fun closes => .here (.of_kind closes rfl (by decide) before)

/-- The parameters after a comma (`moreParameters`) hold no braces, so they keep the count whatever
they are. -/
theorem moreParameters_keeps (before : cursor.openedThrough = level) :
    Stays level cursor (EndsExpression level) (moreParameters (m := ParseM) bound cursor) := by
  induction bound generalizing cursor with
  | zero => exact close_keeps before
  | succ bound ih =>
    rw [moreParameters, peek_bind]
    split
    · next comma =>
      rw [advance_bind]
      have before' := openedThrough_eq cursor.advance comma rfl before
      refine .step before (.expect before' fun named => ?_)
      have before := openedThrough_eq cursor.advance.advance named rfl before'
      exact (ih before).bind fun names last ends => .here ends
    · exact close_keeps before

/-- The `parameters` of a function with the parentheses around them hold no braces, and end with the
closing one. -/
theorem parameters_keeps (before : cursor.openedThrough = level) :
    Stays level cursor (EndsExpression level) (parameters (m := ParseM) bound cursor) := by
  refine .expect before fun opens => ?_
  have before := openedThrough_eq cursor.advance opens rfl before
  rw [peek_bind]
  split
  · next closes =>
    rw [advance_bind]
    exact .step before (.here (.of_kind closes rfl (by decide) before))
  · refine .expect before fun named => ?_
    have before := openedThrough_eq cursor.advance.advance named rfl before
    exact (moreParameters_keeps before).bind fun names last ends => .here ends

/-- The arguments after a comma (`moreArguments`) keep the count if their expressions do, by
induction on the bound. -/
theorem moreArguments_keeps (keeps : KeepsBraces inner) (before : cursor.openedThrough = level) :
    Stays level cursor (EndsExpression level) (moreArguments inner bound cursor) := by
  induction bound generalizing cursor with
  | zero => exact close_keeps before
  | succ bound ih =>
    rw [moreArguments, peek_bind]
    split
    · next comma =>
      have after := openedThrough_eq cursor.advance comma rfl before
      rw [advance_bind, advance_bind]
      refine .step before (.step after ((keeps.at after).bind fun argument place ends => ?_))
      exact (ih ends.level).bind fun rest last ends => .here ends
    · exact close_keeps before

/-- The `arguments` of a call with their closing parenthesis keep the count if their expressions
do. -/
theorem arguments_keeps (keeps : KeepsBraces inner) (before : cursor.openedThrough = level) :
    Stays level cursor (EndsExpression level) (arguments inner bound cursor) := by
  rw [arguments, peek_bind]
  split
  · next closes =>
    rw [advance_bind]
    exact .step before (.here (.of_kind closes rfl (by decide) before))
  · rw [advance_bind]
    refine .step before ((keeps.at before).bind fun argument place ends => ?_)
    exact (moreArguments_keeps keeps ends.level).bind fun rest last ends => .here ends

/-! ## Operands -/

/-- An expression in parentheses keeps the count and ends with the closing parenthesis. -/
theorem group_keeps (keeps : KeepsBraces inner) (before : cursor.openedThrough = level) :
    Stays level cursor (EndsExpression level) (group inner cursor) := by
  rw [group, advance_bind]
  exact .step before ((keeps.at before).bind fun tree place ends => close_keeps ends.level)

/-- A `unary` operation keeps the count: it ends where its operand does. -/
theorem unary_keeps {op : UnaryOp} (keeps : KeepsBraces inner)
    (before : cursor.openedThrough = level) :
    Stays level cursor (EndsExpression level) (unary inner op cursor) := by
  rw [unary, advance_bind]
  exact .step before ((keeps.at before).bind fun operand last ends => .here ends)

/-- A conditional keeps the count in its condition and in each of its blocks, with an `else` between
the blocks or without one. -/
theorem conditional_keeps (keeps : KeepsBraces inner) (before : cursor.openedThrough = level) :
    Stays level cursor (EndsExpression level) (conditional inner bound cursor) := by
  refine .expect before fun opens => ?_
  have before := openedThrough_eq cursor.advance opens rfl before
  rw [advance_bind]
  refine .step before ((keeps.at before).bind fun condition test ends => ?_)
  refine .expect ends.level fun closes => ?_
  have before := openedThrough_eq test.advance closes rfl ends.level
  refine (block_keeps keeps before).bind fun consequence body ends => ?_
  rw [peek_bind]
  split
  · next other =>
    have before := openedThrough_eq body.advance other rfl ends.level
    rw [advance_bind]
    exact .step ends.level ((block_keeps keeps before).bind fun alternative last ends => .here ends)
  · exact .here ends

/-- A `function` keeps the count in its parameters and in its body, with whose closing brace it
ends. -/
theorem function_keeps (keeps : KeepsBraces inner) (before : cursor.openedThrough = level) :
    Stays level cursor (EndsExpression level) (function inner bound cursor) :=
  (parameters_keeps before).bind fun _ _ ends =>
    (block_keeps keeps ends.level).bind fun _ _ ends => .here ends

/-- An integer literal is one token; whether or not it is in range, `integer` does not move. -/
theorem integer_keeps {token : Token} (ends : EndsExpression level cursor) :
    Stays level cursor (EndsExpression level) (integer (m := ParseM) token cursor) := by
  unfold integer
  cases Decimal.read? token.literal with
  | none => exact .failed
  | some value => exact .here ends

namespace Context

variable {limit : Option Nat} {recorded : List ParseError}

/-- To go one level deeper is no move, and it is allowed or not wherever a reader stands: by the
nesting limit alone. -/
theorem descend_cases (context : Context) (depth : Nat) (token : Token) :
    (∀ cursor, context.descend (m := ParseM) depth token cursor = .ok () cursor) ∨
      ∃ error, ∀ cursor,
        context.descend (m := ParseM) depth token cursor = .error error cursor := by
  rw [descend_eq_checkDepth]
  cases context.grammar.nestingLimit with
  | none => exact .inl fun _ => rfl
  | some limit =>
    by_cases deep : limit ≤ depth
    · exact .inr ⟨.nestingTooDeep limit token.position, fun _ => by
        simp only [checkDepth, if_pos deep, throw_apply]⟩
    · exact .inl fun _ => by simp only [checkDepth, if_neg deep, pure_apply]

/-- A reader one level deeper starts where it would without the level, for `descend` does not move.
-/
theorem descend_keeps {β : Type} {depth : Nat} {token : Token} {next : Unit → ParseM β}
    {post : Cursor → Prop} {context : Context} (rest : Stays level cursor post (next () cursor)) :
    Stays level cursor post ((context.descend depth token >>= next) cursor) := by
  obtain allowed | ⟨error, refused⟩ := context.descend_cases depth token
  · rwa [bind_ok (allowed cursor)]
  · rw [bind_error (refused cursor)]
    exact .failed

/-- An `operand` keeps the count if its expressions do: one case for each kind of token that starts
an operand. -/
theorem operand_keeps (keeps : KeepsBraces inner) (opened : cursor.opened = level) :
    Stays level cursor (EndsExpression level)
      ((plain limit recorded).operand inner bound cursor) := by
  rw [operand_apply]
  generalize kind : cursor.current.kind = found
  split
  · exact .here (.of_kind kind rfl (by decide) opened)
  · exact integer_keeps (.of_kind kind rfl (by decide) opened)
  · exact .here (.of_kind kind rfl (by decide) opened)
  · exact .here (.of_kind kind rfl (by decide) opened)
  · exact unary_keeps keeps (openedThrough_eq cursor kind rfl opened)
  · exact unary_keeps keeps (openedThrough_eq cursor kind rfl opened)
  · exact group_keeps keeps (openedThrough_eq cursor kind rfl opened)
  · exact conditional_keeps keeps (openedThrough_eq cursor kind rfl opened)
  · exact function_keeps keeps (openedThrough_eq cursor kind rfl opened)
  · exact .failed

/-- An `operation` keeps the count in its right operand or its arguments, behind a left operand that
is read. -/
theorem operation_keeps (keeps : KeepsBraces inner) {token : Token} {operator : Operator}
    {left : Expr} (before : cursor.openedThrough = level) :
    Stays level cursor (EndsExpression level)
      ((plain limit recorded).operation inner bound token left (.builtin operator) cursor) := by
  cases operator with
  | binary op =>
    rw [operation, advance_bind]
    exact .step before ((keeps.at before).bind fun right last ends => .here ends)
  | call => exact (arguments_keeps keeps before).bind fun trees last ends => .here ends

/-- The `operators` behind an operand keep the count if the expressions behind them do, by induction
on the bound. The loop starts where an expression has ended. -/
theorem operators_keeps {reader : Nat → ExprReader} (keeps : ∀ depth, KeepsBraces (reader depth))
    {floor : Precedence} {depth : Nat} {left : Expr} (ends : EndsExpression level cursor) :
    Stays level cursor (EndsExpression level)
      ((plain limit recorded).operators reader floor bound depth left cursor) := by
  induction bound generalizing cursor depth left with
  | zero => exact .here ends
  | succ bound ih =>
    by_cases tighter : floor < .ofKind cursor.peek.kind
    · obtain ⟨operator, stands⟩ := Operator.exists_ofKind?_of_lt tighter
      rw [operators_plain tighter stands]
      -- No operator is a brace.
      have plain : cursor.peek.kind.isBrace = false := by
        generalize cursor.peek.kind = kind at stands
        cases kind <;> first | rfl | cases stands
      have before := openedThrough_eq cursor.advance rfl plain ends.level
      refine .step ends.level (descend_keeps ?_)
      exact (operation_keeps (keeps _) before).bind fun whole place ends => ih ends
    · rw [operators_of_not_lt tighter]
      exact .here ends

/-- An expression keeps the count if the expressions in it do: the step lemma for `expressionStep`.
-/
theorem expressionStep_keeps {reader : Nat → ExprReader} {depth : Nat}
    (keeps : ∀ depth, KeepsBraces (reader depth)) :
    KeepsBraces ((plain limit recorded).expressionStep reader bound depth) := by
  intro floor cursor
  rw [expressionStep, current_bind]
  refine descend_keeps ((operand_keeps (keeps _) rfl).bind fun first place ends => ?_)
  exact operators_keeps keeps ends

/-- **Expressions keep the count of open braces**, by induction on the bound with which they are
read. -/
theorem expression_keeps {depth : Nat} :
    KeepsBraces ((plain limit recorded).expression bound depth) := by
  induction bound generalizing depth with
  | zero => exact expressionStep_keeps fun _ _ _ => .failed
  | succ bound ih => exact expressionStep_keeps fun _ => ih

end Context

end Parse

end Monkey
