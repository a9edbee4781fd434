import Monkey.Proofs.Parse.Balance

/-! # Streams that part behind a seam

Two streams with the same tokens up to a `Seam` and different ones behind it. As long as a reader
does not get beyond the seam it does the same on both, which `Twins` cursors and results that
`Agrees` say. The seam is an opening brace, and then a reader may get beyond it where it reads a
block; or it is a semicolon outside all braces, and no reader gets beyond that. There is one lemma
for each reader, under the hypothesis `PairedWithin` for the expressions in it;
`expression_agrees` ties them together by induction on the bound. -/

namespace Monkey

/-- Where two streams part: the last token that they share, and the cursors `left` and `right`
behind it. -/
structure Seam where
  token : Token
  left : Cursor
  right : Cursor
  /-- The shared token opens a block, or it is a semicolon behind which no brace is open. -/
  kind_token : token.kind = .lbrace ∨ (token.kind = .semicolon ∧ left.opened = 0)

namespace Seam

open ParseM Cursor

/-- Two cursors at the same tokens up to a seam, with the same count of open braces. -/
inductive Twins (seam : Seam) : Cursor → Cursor → Prop where
  /-- Both cursors are at the seam, so the next move leads beyond it. -/
  | here {cursor other : Cursor} : cursor.current = seam.token → other.current = seam.token →
      cursor.opened = other.opened → cursor.advance = seam.left → other.advance = seam.right →
      Twins seam cursor other
  /-- Both cursors are at the same token before the seam, and behind it there are twins again. -/
  | before {cursor other : Cursor} : cursor.current = other.current →
      cursor.current.kind ≠ .eof → cursor.opened = other.opened →
      Twins seam cursor.advance other.advance → Twins seam cursor other

variable {seam : Seam} {cursor other : Cursor}

/-- The shared token is not the end of the input: it is one of the two kinds of `kind_token`. -/
theorem token_ne_eof (seam : Seam) : seam.token.kind ≠ .eof := by
  obtain opens | ⟨closes, -⟩ := seam.kind_token
  · rw [opens]
    decide
  · rw [closes]
    decide

namespace Twins

/-- Twins are at the same token, before the seam and at it. -/
theorem current_eq (twins : seam.Twins cursor other) : cursor.current = other.current := by
  cases twins with
  | here same same' => rw [same, same']
  | before same => exact same

/-- Twins count the same braces as open before their token. -/
theorem opened_eq (twins : seam.Twins cursor other) : cursor.opened = other.opened := by
  cases twins with
  | here _ _ opened => exact opened
  | before _ _ opened => exact opened

/-- Twins count the same braces as open behind their token too. -/
theorem openedThrough_eq (twins : seam.Twins cursor other) :
    cursor.openedThrough = other.openedThrough := by
  rw [openedThrough, openedThrough, twins.opened_eq, twins.current_eq]

/-- The input of twins has not ended, for they are at a token that is no later than the seam. -/
theorem kind_ne_eof (twins : seam.Twins cursor other) : cursor.current.kind ≠ .eof := by
  cases twins with
  | here same =>
    rw [same]
    exact seam.token_ne_eof
  | before _ inside => exact inside

/-- Behind the seam there are fewer tokens left than before it, so a bound that was enough before it
is enough there. -/
theorem size_right_lt (twins : seam.Twins cursor other) : seam.right.size < other.size := by
  have inside {place : Cursor} (inside : place.current.kind ≠ .eof) :
      place.advance.size < place.size :=
    size_advance_lt (mt of_decide_eq_true inside)
  induction twins with
  | here _ same _ _ right =>
    rw [← right]
    exact inside (by rw [same]; exact seam.token_ne_eof)
  | before same some_token _ _ ih =>
    exact Nat.lt_trans ih (inside (by rwa [← same]))

/-- Twins at a token that cannot be the seam are twins at the next token too: no opening brace, and
no semicolon outside all braces. -/
theorem advance (twins : seam.Twins cursor other) (not_opening : cursor.current.kind ≠ .lbrace)
    (other_kind : cursor.current.kind ≠ .semicolon ∨ 0 < cursor.openedThrough) :
    seam.Twins cursor.advance other.advance := by
  cases twins with
  | here same _ _ left =>
    -- At the seam the token would be the opening brace or the semicolon.
    rw [same] at not_opening other_kind
    obtain opens | ⟨closes, zero⟩ := seam.kind_token
    · exact absurd opens not_opening
    · have none : cursor.openedThrough = 0 := by
        rw [← zero, ← left]
        rfl
      rcases other_kind with other_kind | inside
      · exact absurd closes other_kind
      · omega
  | before _ _ _ twins => exact twins

/-- Behind the token of twins there are twins again, unless it was the seam. -/
theorem advance_cases (twins : seam.Twins cursor other) :
    (cursor.advance = seam.left ∧ other.advance = seam.right) ∨
      seam.Twins cursor.advance other.advance := by
  cases twins with
  | here _ _ _ left right => exact .inl ⟨left, right⟩
  | before _ _ _ next => exact .inr next

/-- Streams that share some tokens and the seam behind them start with twins, by induction along the
tokens. -/
theorem of_shared {before rest rest' : List Token} {endPosition endPosition' : Position}
    {opened : Nat} (inside : ∀ token ∈ before, token.kind ≠ .eof)
    (left : seam.left = ⟨⟨rest, endPosition⟩, openBehind opened (before ++ [seam.token])⟩)
    (right : seam.right = ⟨⟨rest', endPosition'⟩, openBehind opened (before ++ [seam.token])⟩) :
    seam.Twins ⟨⟨before ++ seam.token :: rest, endPosition⟩, opened⟩
      ⟨⟨before ++ seam.token :: rest', endPosition'⟩, opened⟩ := by
  induction before generalizing opened with
  | nil => exact .here rfl rfl rfl left.symm right.symm
  | cons token before ih =>
    rw [List.forall_mem_cons] at inside
    exact .before rfl inside.1 rfl (ih inside.2 left right)

end Twins

/-- Twins with no more than `size` tokens left on the right, which is what readers count on. -/
structure Near (seam : Seam) (size : Nat) (cursor other : Cursor) : Prop where
  twins : seam.Twins cursor other
  small : other.size ≤ size

/-- Twins that are `Near` each other at the next token too, so a reader may look one token ahead. -/
structure Ahead (seam : Seam) (size : Nat) (cursor other : Cursor) : Prop where
  near : seam.Near (size + 1) cursor other
  next : seam.Near size cursor.advance other.advance

variable {size : Nat}

/-- Twins whose token cannot be the seam are twins at the next token too, with one token less. -/
theorem Near.ahead (near : seam.Near (size + 1) cursor other)
    (not_opening : cursor.current.kind ≠ .lbrace)
    (other_kind : cursor.current.kind ≠ .semicolon ∨ 0 < cursor.openedThrough) :
    seam.Ahead size cursor other where
  near := near
  next :=
    { twins := near.twins.advance not_opening other_kind
      small := by
        have := near.small
        rw [size_advance]
        omega }

/-- More tokens may be left than are counted on. -/
theorem Near.mono (near : seam.Near size cursor other) : seam.Near (size + 1) cursor other :=
  ⟨near.twins, Nat.le_succ_of_le near.small⟩

/-- A token of a known kind is not the seam if that kind is neither an opening brace nor a
semicolon. -/
theorem Near.ahead_of_kind (near : seam.Near (size + 1) cursor other) {kind : TokenKind}
    (found : cursor.current.kind = kind) (not_opening : kind ≠ .lbrace)
    (not_semicolon : kind ≠ .semicolon) : seam.Ahead size cursor other :=
  near.ahead (by rwa [found]) (.inl (by rwa [found]))

/-- The last token of an expression is not the seam, since it is neither an opening brace nor a
semicolon outside all braces. -/
theorem Near.ahead_of_ends (near : seam.Near (size + 1) cursor other) {level : Nat}
    (ends : EndsExpression level cursor) : seam.Ahead size cursor other :=
  near.ahead ends.not_opening (.inl ends.not_semicolon)

/-- Before the seam twins see the same token next when they `peek`. -/
theorem Ahead.peek_eq (ahead : seam.Ahead size cursor other) : cursor.peek = other.peek :=
  ahead.next.twins.current_eq

/-! ## Readers on both sides -/

variable {α β : Type} {lost : Cursor → Prop}

/-- Two readers get to the same result before or at the seam, or the right one fails at a place that
counts as `lost` beyond the seam. -/
inductive Agrees (seam : Seam) (lost : Cursor → Prop) (size : Nat) :
    EStateM.Result ParseError Cursor α → EStateM.Result ParseError Cursor α → Prop where
  /-- Both succeed with the same value, and their cursors are twins. -/
  | ok {value : α} {last last' : Cursor} :
      seam.Near size last last' → Agrees seam lost size (.ok value last) (.ok value last')
  /-- Both fail with the same error, and their cursors are twins. -/
  | error {error : ParseError} {place place' : Cursor} :
      seam.Twins place place' → Agrees seam lost size (.error error place) (.error error place')
  /-- The right one fails beyond the seam, and of the left one nothing is said. -/
  | lost {result : EStateM.Result ParseError Cursor α} {error : ParseError} {place : Cursor} :
      lost place → Agrees seam lost size result (.error error place)

namespace Agrees

variable {reader : ParseM α} {next : α → ParseM β}
  {result result' : EStateM.Result ParseError Cursor α}

/-- More tokens may be left than are counted on. -/
theorem mono (agrees : Agrees seam lost size result result') :
    Agrees seam lost (size + 1) result result' := by
  cases agrees with
  | ok near => exact .ok near.mono
  | error twins => exact .error twins
  | lost gone => exact .lost gone

/-- Readers in turn agree if the first ones do, and the second ones do behind a success of those. -/
theorem bind (first : Agrees seam lost size (reader cursor) (reader other))
    (second : ∀ value last last', reader cursor = .ok value last → seam.Near size last last' →
      Agrees seam lost size (next value last) (next value last')) :
    Agrees seam lost size ((reader >>= next) cursor) ((reader >>= next) other) := by
  generalize run : reader cursor = result at first
  generalize run' : reader other = result' at first
  cases first with
  | ok near =>
    rw [bind_ok run, bind_ok run']
    exact second _ _ _ run near
  | error twins =>
    rw [bind_error run, bind_error run']
    exact .error twins
  | lost gone =>
    rw [bind_error run']
    exact .lost gone

/-- Twins that see the same token next `expect` the same, and go on together if it is there. -/
theorem expect {kind : TokenKind} {next : Token → ParseM β}
    (ahead : seam.Ahead size cursor other)
    (rest : cursor.peek.kind = kind → seam.Near size cursor.advance other.advance →
      Agrees seam lost (size + 1) (next cursor.peek cursor.advance)
        (next cursor.peek other.advance)) :
    Agrees seam lost (size + 1) ((Parse.expect kind >>= next) cursor)
      ((Parse.expect kind >>= next) other) := by
  have same := ahead.peek_eq
  by_cases found : cursor.peek.kind = kind
  · rw [bind_ok (expect_ok found), bind_ok (expect_ok (same ▸ found)), ← same]
    exact rest found ahead.next
  · have refused {place : Cursor} (missing : ¬place.peek.kind = kind) :
        Parse.expect (m := ParseM) kind place =
          .error (.unexpectedToken kind place.peek) place := by
      rw [expect_apply, if_neg missing]
    rw [bind_error (refused found), bind_error (refused (same ▸ found)), same]
    exact .error ahead.near.twins

/-- Twins go one level deeper alike, as far as the limit allows: `descend` does not look at the
cursor. -/
theorem descend {limit : Option Nat} {recorded : List ParseError} {depth : Nat} {token : Token}
    {next : Unit → ParseM β} (near : seam.Near size cursor other)
    (rest : Within limit (depth + 1) →
      Agrees seam lost size (next () cursor) (next () other)) :
    Agrees seam lost size
      (((Parse.Context.plain limit recorded).descend depth token >>= next) cursor)
      (((Parse.Context.plain limit recorded).descend depth token >>= next) other) := by
  obtain allowed | ⟨error, refused⟩ :=
    (Parse.Context.plain limit recorded).descend_cases depth token
  · rw [bind_ok (allowed cursor), bind_ok (allowed other)]
    exact rest (Parse.Context.descend_eq_ok_iff.1 (allowed cursor)).1
  · rw [bind_error (refused cursor), bind_error (refused other)]
    exact .error near.twins

end Agrees

end Seam

namespace Parse

open ParseM Cursor Seam

variable {seam : Seam} {lost : Cursor → Prop} {size bound : Nat} {inner : ExprReader}
  {cursor other : Cursor}

/-- A reader of expressions that keeps the count of open braces (`KeepsBraces`) and agrees with
itself on twins. -/
structure Paired (seam : Seam) (lost : Cursor → Prop) (size : Nat) (inner : ExprReader) :
    Prop where
  keeps : KeepsBraces inner
  agrees : ∀ (floor : Precedence) {cursor other : Cursor}, seam.Near size cursor other →
    Agrees seam lost (size + 1) (inner floor cursor) (inner floor other)

/-- Such a reader for the expressions within an expression: in the statements behind a seam that
opens a block it gets `lost` on the right. -/
structure PairedWithin (seam : Seam) (lost : Cursor → Prop) (size : Nat) (inner : ExprReader) : Prop
    extends Paired seam lost size inner where
  beyond : seam.token.kind = .lbrace → seam.right.size ≤ size → ∀ bound : Nat,
    ∃ error place, statements inner bound seam.right = .error error place ∧ lost place

/-! ## Statements and blocks -/

/-- A value and the semicolon behind it are read alike, whatever statement is made of them. -/
theorem Paired.valued (paired : Paired seam lost size inner) (make : Expr → Stmt)
    (near : seam.Near size cursor other) :
    Agrees seam lost (size + 1)
      ((do
        let value ← inner .lowest
        skipSemicolon
        return make value : ParseM Stmt) cursor)
      ((do
        let value ← inner .lowest
        skipSemicolon
        return make value : ParseM Stmt) other) := by
  refine (paired.agrees .lowest near).bind fun value last last' run near => ?_
  have ahead := near.ahead_of_ends ((paired.keeps _ _).of_ok run)
  rw [skipSemicolon_bind, skipSemicolon_bind]
  refine .ok ?_
  rw [behindSemicolon, behindSemicolon, ← ahead.peek_eq]
  split
  · exact ahead.next.mono
  · exact near

/-- A `statement` is read alike if the expressions in it are, with the semicolon that closes it. -/
theorem statement_agrees (paired : Paired seam lost size inner)
    (near : seam.Near size cursor other) :
    Agrees seam lost (size + 1) (statement inner cursor) (statement inner other) := by
  rw [statement, current_bind, current_bind, ← near.twins.current_eq]
  generalize word : cursor.current.kind = kind
  split
  · -- `let`
    refine .expect (near.mono.ahead_of_kind word (by decide) (by decide)) fun named near => ?_
    refine .expect (near.mono.ahead_of_kind named (by decide) (by decide)) fun assigned near => ?_
    rw [advance_bind, advance_bind]
    have ahead := near.mono.ahead_of_kind assigned (by decide) (by decide)
    exact paired.valued _ ahead.next
  · -- `return`
    have ahead := near.mono.ahead_of_kind word (by decide) (by decide)
    rw [peek_bind, peek_bind, ← ahead.peek_eq]
    generalize cursor.peek.kind = behind
    split
    · rw [advance_bind, advance_bind]
      exact .ok ahead.next.mono
    · exact .ok near.mono
    · exact .ok near.mono
    · rw [advance_bind, advance_bind]
      exact paired.valued _ ahead.next
  · exact paired.valued _ near

/-- The `statements` of a block are read alike, by induction on the bound: within braces no
semicolon is a seam. -/
theorem statements_agrees (paired : Paired seam lost size inner)
    (near : seam.Near size cursor other) (inside : 0 < cursor.opened) :
    Agrees seam lost (size + 1) (statements inner bound cursor) (statements inner bound other) := by
  induction bound generalizing cursor other with
  | zero =>
    rw [statements, spent_eq, current_bind, current_bind, ← near.twins.current_eq]
    exact .error near.twins
  | succ bound ih =>
    rw [statements, current_bind, current_bind, ← near.twins.current_eq]
    generalize cursor.current.kind = word
    split
    · exact .ok near.mono
    · exact .error near.twins
    · refine (statement_agrees paired near).bind fun first last last' run near => ?_
      -- A block is open, so the semicolon of a statement in it is not the seam.
      have ends := (statement_keeps paired.keeps rfl).of_ok run
      have ahead := near.ahead ends.not_opening (.inr (by rwa [ends.level]))
      have within : 0 < last.advance.opened := by
        show 0 < last.openedThrough
        rwa [ends.level]
      rw [advance_bind, advance_bind]
      exact (ih ahead.next within).bind fun rest last last' _ near => .ok near

/-- A `block` is read alike, or its opening brace is the seam and the right reader gets lost in
it. -/
theorem block_agrees (paired : PairedWithin seam lost size inner)
    (ahead : seam.Ahead size cursor other) :
    Agrees seam lost (size + 1) (block inner bound cursor) (block inner bound other) := by
  refine .expect ahead fun opens near => ?_
  rw [advance_bind, advance_bind]
  have inside : 0 < cursor.advance.advance.opened := by
    show 0 < braces cursor.advance.opened cursor.peek.kind
    rw [opens]
    exact Nat.succ_pos _
  cases near.twins with
  | here same _ _ _ right =>
    -- The opening brace is the seam.
    have token : seam.token.kind = .lbrace := by rw [← same]; exact opens
    have small : seam.right.size ≤ size := by
      rw [← right]
      exact Nat.le_trans (size_advance_le _) near.small
    obtain ⟨error, place, run, gone⟩ := paired.beyond token small bound
    rw [right, run]
    exact .lost gone
  | before _ _ _ next =>
    refine statements_agrees paired.toPaired ⟨next, ?_⟩ inside
    exact Nat.le_trans (size_advance_le _) near.small

/-! ## Parameters and arguments -/

/-- The end of a list is read alike: a closing parenthesis is no seam. -/
theorem close_agrees {α : Type} {value : α} (ahead : seam.Ahead size cursor other) :
    Agrees seam lost (size + 1) ((do let _ ← expect .rparen; return value : ParseM α) cursor)
      ((do let _ ← expect .rparen; return value : ParseM α) other) :=
  .expect ahead fun _ near => .ok near.mono

/-- The parameters after a comma (`moreParameters`) are read alike, by induction on the bound. -/
theorem moreParameters_agrees (ahead : seam.Ahead size cursor other) :
    Agrees seam lost (size + 1) (moreParameters (m := ParseM) bound cursor)
      (moreParameters (m := ParseM) bound other) := by
  induction bound generalizing cursor other with
  | zero => exact close_agrees ahead
  | succ bound ih =>
    rw [moreParameters, peek_bind, peek_bind, ← ahead.peek_eq]
    by_cases comma : cursor.peek.kind = .comma
    · rw [if_pos comma, advance_bind, advance_bind]
      refine .expect (ahead.next.mono.ahead_of_kind comma (by decide) (by decide))
        fun named near => ?_
      have ahead := near.mono.ahead_of_kind named (by decide) (by decide)
      exact (ih ahead).bind fun names last last' _ near => .ok near
    · rw [if_neg comma]
      exact close_agrees ahead

/-- The `parameters` of a function are read alike, with the parentheses around them. -/
theorem parameters_agrees (ahead : seam.Ahead size cursor other) :
    Agrees seam lost (size + 1) (parameters (m := ParseM) bound cursor)
      (parameters (m := ParseM) bound other) := by
  refine .expect ahead fun opens near => ?_
  have ahead := near.mono.ahead_of_kind opens (by decide) (by decide)
  rw [peek_bind, peek_bind, ← ahead.peek_eq]
  by_cases closes : cursor.advance.peek.kind = .rparen
  · rw [if_pos closes, advance_bind, advance_bind]
    exact .ok ahead.next.mono
  · rw [if_neg closes]
    refine .expect ahead fun named near => ?_
    have ahead := near.mono.ahead_of_kind named (by decide) (by decide)
    exact (moreParameters_agrees ahead).bind fun names last last' _ near => .ok near

/-- The arguments after a comma (`moreArguments`) are read alike if the expressions in them are, by
induction on the bound. -/
theorem moreArguments_agrees (paired : PairedWithin seam lost size inner)
    (ahead : seam.Ahead size cursor other) :
    Agrees seam lost (size + 1) (moreArguments inner bound cursor)
      (moreArguments inner bound other) := by
  induction bound generalizing cursor other with
  | zero => exact close_agrees ahead
  | succ bound ih =>
    rw [moreArguments, peek_bind, peek_bind, ← ahead.peek_eq]
    by_cases comma : cursor.peek.kind = .comma
    · rw [if_pos comma, advance_bind, advance_bind, advance_bind, advance_bind]
      have ahead := ahead.next.mono.ahead_of_kind comma (by decide) (by decide)
      refine (paired.agrees _ ahead.next).bind fun argument last last' run near => ?_
      have ahead := near.ahead_of_ends ((paired.keeps _ _).of_ok run)
      exact (ih ahead).bind fun rest last last' _ near => .ok near
    · rw [if_neg comma]
      exact close_agrees ahead

/-- The `arguments` of a call are read alike if the expressions in them are, with the parenthesis
that closes them. -/
theorem arguments_agrees (paired : PairedWithin seam lost size inner)
    (ahead : seam.Ahead size cursor other) :
    Agrees seam lost (size + 1) (arguments inner bound cursor) (arguments inner bound other) := by
  rw [arguments, peek_bind, peek_bind, ← ahead.peek_eq]
  by_cases closes : cursor.peek.kind = .rparen
  · rw [if_pos closes, advance_bind, advance_bind]
    exact .ok ahead.next.mono
  · rw [if_neg closes, advance_bind, advance_bind]
    refine (paired.agrees _ ahead.next).bind fun argument last last' run near => ?_
    have ahead := near.ahead_of_ends ((paired.keeps _ _).of_ok run)
    exact (moreArguments_agrees paired ahead).bind fun rest last last' _ near => .ok near

/-! ## Operands -/

/-- An integer literal is read alike: `integer` looks at a token that both have. -/
theorem integer_agrees {token : Token} (near : seam.Near size cursor other) :
    Agrees seam lost size (integer (m := ParseM) token cursor)
      (integer (m := ParseM) token other) := by
  unfold integer
  cases Decimal.read? token.literal with
  | none => exact .error near.twins
  | some value => exact .ok near

/-- A `unary` operation is read alike if its operand is, from its sign on. -/
theorem unary_agrees {op : UnaryOp} (paired : PairedWithin seam lost size inner)
    (ahead : seam.Ahead size cursor other) :
    Agrees seam lost (size + 1) (unary inner op cursor) (unary inner op other) := by
  rw [unary, advance_bind, advance_bind]
  exact (paired.agrees _ ahead.next).bind fun operand last last' _ near => .ok near

/-- An expression in parentheses is read alike if it is without them. -/
theorem group_agrees (paired : PairedWithin seam lost size inner)
    (ahead : seam.Ahead size cursor other) :
    Agrees seam lost (size + 1) (group inner cursor) (group inner other) := by
  rw [group, advance_bind, advance_bind]
  refine (paired.agrees _ ahead.next).bind fun tree last last' run near => ?_
  exact close_agrees (near.ahead_of_ends ((paired.keeps _ _).of_ok run))

/-- A `conditional` is read alike if its condition is and its blocks are, or the right reader is
lost in one of them. -/
theorem conditional_agrees (paired : PairedWithin seam lost size inner)
    (ahead : seam.Ahead size cursor other) :
    Agrees seam lost (size + 1) (conditional inner bound cursor)
      (conditional inner bound other) := by
  refine .expect ahead fun opens near => ?_
  have ahead := near.mono.ahead_of_kind opens (by decide) (by decide)
  rw [advance_bind, advance_bind]
  refine (paired.agrees _ ahead.next).bind fun condition test test' run near => ?_
  refine .expect (near.ahead_of_ends ((paired.keeps _ _).of_ok run)) fun closes near => ?_
  have ahead := near.mono.ahead_of_kind closes (by decide) (by decide)
  refine (block_agrees paired ahead).bind fun consequence body body' run near => ?_
  have ahead := near.ahead_of_ends ((block_keeps paired.keeps rfl).of_ok run)
  rw [peek_bind, peek_bind, ← ahead.peek_eq]
  by_cases more : body.peek.kind = .elseKw
  · rw [if_pos more, advance_bind, advance_bind]
    have ahead := ahead.next.mono.ahead_of_kind more (by decide) (by decide)
    exact (block_agrees paired ahead).bind fun alternative last last' _ near => .ok near
  · rw [if_neg more]
    exact .ok near

/-- A `function` is read alike if its body is, or the right reader is lost in it. -/
theorem function_agrees (paired : PairedWithin seam lost size inner)
    (ahead : seam.Ahead size cursor other) :
    Agrees seam lost (size + 1) (function inner bound cursor) (function inner bound other) := by
  refine (parameters_agrees ahead).bind fun names place place' run near => ?_
  have ahead := near.ahead_of_ends ((parameters_keeps rfl).of_ok run)
  exact (block_agrees paired ahead).bind fun body last last' _ near => .ok near

namespace Context

variable {limit : Option Nat} {recorded : List ParseError}

/-- An `operand` is read alike if the expressions in it are: one case for each kind of token that
starts an operand. -/
theorem operand_agrees (paired : PairedWithin seam lost size inner)
    (near : seam.Near (size + 1) cursor other) :
    Agrees seam lost (size + 1) ((plain limit recorded).operand inner bound cursor)
      ((plain limit recorded).operand inner bound other) := by
  rw [operand_apply, operand_apply, ← near.twins.current_eq]
  generalize word : cursor.current.kind = kind
  split
  · exact .ok near
  · exact integer_agrees near
  · exact .ok near
  · exact .ok near
  · exact unary_agrees paired (near.ahead_of_kind word (by decide) (by decide))
  · exact unary_agrees paired (near.ahead_of_kind word (by decide) (by decide))
  · exact group_agrees paired (near.ahead_of_kind word (by decide) (by decide))
  · exact conditional_agrees paired (near.ahead_of_kind word (by decide) (by decide))
  · exact function_agrees paired (near.ahead_of_kind word (by decide) (by decide))
  · exact .error near.twins

/-- An `operation` is read alike if the expressions in it are, behind the same left operand. -/
theorem operation_agrees (paired : PairedWithin seam lost size inner) {token : Token}
    {operator : Operator} {left : Expr} (ahead : seam.Ahead size cursor other) :
    Agrees seam lost (size + 1)
      ((plain limit recorded).operation inner bound token left (.builtin operator) cursor)
      ((plain limit recorded).operation inner bound token left (.builtin operator) other) := by
  cases operator with
  | binary op =>
    rw [operation, advance_bind, advance_bind]
    exact (paired.agrees _ ahead.next).bind fun right last last' _ near => .ok near
  | call => exact (arguments_agrees paired ahead).bind fun trees last last' _ near => .ok near

/-- The `operators` behind an operand are read alike if the expressions behind them are, by
induction on the bound. -/
theorem operators_agrees {reader : Nat → ExprReader}
    (paired : ∀ depth, Within limit (depth + 1) → PairedWithin seam lost size (reader (depth + 1)))
    {floor : Precedence} {depth : Nat} {left : Expr} {level : Nat}
    (ends : EndsExpression level cursor)
    (near : seam.Near (size + 1) cursor other) :
    Agrees seam lost (size + 1)
      ((plain limit recorded).operators reader floor bound depth left cursor)
      ((plain limit recorded).operators reader floor bound depth left other) := by
  induction bound generalizing cursor other depth left level with
  | zero => exact .ok near
  | succ bound ih =>
    -- Behind an expression the seam is not passed yet, so both readings see one next token.
    have ahead := near.ahead_of_ends ends
    by_cases tighter : floor < .ofKind cursor.peek.kind
    · obtain ⟨operator, stands⟩ := Operator.exists_ofKind?_of_lt tighter
      rw [operators_plain tighter stands,
        operators_plain (ahead.peek_eq ▸ tighter) (ahead.peek_eq ▸ stands), ← ahead.peek_eq]
      refine .descend ahead.next.mono fun within => ?_
      have ahead : seam.Ahead size cursor.advance other.advance := by
        refine ahead.next.mono.ahead_of_kind rfl ?_ ?_ <;>
          rintro wrong <;> rw [current_advance] at wrong <;> rw [wrong] at stands <;> cases stands
      have paired := paired depth within
      refine (operation_agrees paired ahead).bind fun whole last last' run near => ?_
      exact ih ((operation_keeps paired.keeps rfl).of_ok run) near
    · rw [operators_of_not_lt tighter, operators_of_not_lt (ahead.peek_eq ▸ tighter)]
      exact .ok near

/-- Expressions are read alike if the expressions in them are: the step lemma for `expressionStep`.
-/
theorem expressionStep_agrees {reader : Nat → ExprReader}
    (paired : ∀ depth, Within limit (depth + 1) → PairedWithin seam lost size (reader (depth + 1)))
    {depth : Nat} {floor : Precedence} (near : seam.Near (size + 1) cursor other) :
    Agrees seam lost (size + 1)
      ((plain limit recorded).expressionStep reader bound depth floor cursor)
      ((plain limit recorded).expressionStep reader bound depth floor other) := by
  rw [expressionStep, current_bind, current_bind, ← near.twins.current_eq]
  refine .descend near fun within => ?_
  have keeps := (paired depth within).keeps
  refine (operand_agrees (paired depth within) near).bind fun first last last' run near => ?_
  exact operators_agrees paired ((operand_keeps keeps rfl).of_ok run) near

/-- **Expressions are read alike** if within them a reader gets lost beyond the seam, by induction
on the bound. -/
theorem expression_agrees (beyond : seam.token.kind = .lbrace → ∀ bound depth loop : Nat,
      Within limit (depth + 1) → seam.right.size ≤ bound → ∃ error place,
        statements ((plain limit recorded).expression bound (depth + 1)) loop seam.right =
          .error error place ∧ lost place)
    {depth : Nat} {floor : Precedence} (near : seam.Near bound cursor other) :
    Agrees seam lost bound ((plain limit recorded).expression bound depth floor cursor)
      ((plain limit recorded).expression bound depth floor other) := by
  induction bound generalizing cursor other depth floor with
  | zero => exact absurd near.twins.size_right_lt (by have := near.small; omega)
  | succ bound ih =>
    have inner (depth : Nat) (within : Within limit (depth + 1)) :
        PairedWithin seam lost bound ((plain limit recorded).expression bound (depth + 1)) :=
      { keeps := expression_keeps
        agrees := fun _ _ _ near => (ih near).mono
        beyond := fun opens small loop => beyond opens bound depth loop within small }
    exact expressionStep_agrees inner near

end Context

end Parse

end Monkey
