import Monkey.Proofs.Parse.Progress
import Monkey.Proofs.Parse.Totality
import Monkey.Proofs.Token.Order

/-! # Where errors are reported

A reader looks at two tokens, the current one and the one after it, and an error is always about
one of the two (`Cursor.Shows`). There is one lemma for each reader, under the hypothesis
`PointsOut` for the expressions in it, and `expression_points` ties them together by induction on
the bound. Behind a broken statement reading goes on further on, and tokens stand in the order in
which they are read. So errors are recorded in the order of their places
(`ParseError.StandAlong`), each with what it says about a token of the source:
`errors_in_source_order`. -/

namespace Monkey

namespace ParseError

/-- The text of a token, where an error reports one. Every `ParseError` but `nestingTooDeep` does.
-/
def literal? : ParseError → Option String
  | unexpectedToken _ found | noOperand found => some found.literal
  | nestingTooDeep .. => none
  | invalidInteger literal _ => some literal

/-- The kind of the token that was found, where an error reports one: `unexpectedToken` and
`noOperand` do. -/
def foundKind? : ParseError → Option TokenKind
  | unexpectedToken _ found | noOperand found => some found.kind
  | nestingTooDeep .. | invalidInteger .. => none

/-- All that an error reports about a token is as in this one: its place, and its text and its kind
where these are reported. -/
structure PointsAt (error : ParseError) (token : Token) : Prop where
  position_eq : error.position = token.position
  literal_eq : ∀ literal ∈ error.literal?, literal = token.literal
  kind_eq : ∀ kind ∈ error.foundKind?, kind = token.kind

namespace PointsAt

variable (token : Token)

/-- A token that was not expected: `unexpectedToken` reports all of it. -/
theorem unexpectedToken (expected : TokenKind) : (unexpectedToken expected token).PointsAt token :=
  ⟨rfl, fun _ mem => (Option.mem_some.1 mem).symm, fun _ mem => (Option.mem_some.1 mem).symm⟩

/-- A token that starts no expression: `noOperand` reports all of it. -/
theorem noOperand : (noOperand token).PointsAt token :=
  ⟨rfl, fun _ mem => (Option.mem_some.1 mem).symm, fun _ mem => (Option.mem_some.1 mem).symm⟩

/-- A token that stands too deep: `nestingTooDeep` reports its place. -/
theorem nestingTooDeep (limit : Nat) : (nestingTooDeep limit token.position).PointsAt token :=
  ⟨rfl, nofun, nofun⟩

/-- An integer literal that denotes no integer: `invalidInteger` reports its text and its place. -/
theorem invalidInteger : (invalidInteger token.literal token.position).PointsAt token :=
  ⟨rfl, fun _ mem => (Option.mem_some.1 mem).symm, nofun⟩

end PointsAt

end ParseError

/-- An error points at one of the two tokens that are seen from a place, `current` and `peek`. -/
def Cursor.Shows (place : Cursor) (error : ParseError) : Prop :=
  error.PointsAt place.current ∨ error.PointsAt place.peek

namespace ParseM

variable {α β : Type}

/-- A result that is no error, or an error that points at a token that is seen from the place of the
failure. -/
def Points : EStateM.Result ParseError Cursor α → Prop
  | .ok _ _ => True
  | .error error place => place.Shows error

namespace Points

variable {reader : ParseM α} {next : α → ParseM β} {cursor : Cursor}

/-- Readers in turn: an error of either of them points at what is seen where that reader fails. -/
theorem bind (first : Points (reader cursor)) (second : ∀ value place, Points (next value place)) :
    Points ((reader >>= next) cursor) := by
  cases run : reader cursor with
  | ok value place =>
    rw [bind_ok run]
    exact second value place
  | error error place =>
    rw [run] at first
    rw [bind_error run]
    exact first

/-- A token that is not the expected one is the next one, which is seen since `expect` does not move
then. -/
theorem expect (kind : TokenKind) (cursor : Cursor) :
    Points (Parse.expect (m := ParseM) kind cursor) := by
  rw [expect_apply]
  split
  · trivial
  · exact .inr (.unexpectedToken _ kind)

/-- A semicolon may be missing, so `skipSemicolon` reports no error at all. -/
theorem skipSemicolon (cursor : Cursor) : Points (Parse.skipSemicolon (m := ParseM) cursor) := by
  rw [skipSemicolon_apply]
  trivial

end Points

end ParseM

namespace Parse

open ParseM ParseError

/-- A reader of expressions whose errors point at what is seen, wherever it starts and however tight
the operators are that it is asked for. -/
def PointsOut (inner : ExprReader) : Prop := ∀ floor cursor, Points (inner floor cursor)

section

variable {inner : ExprReader} (points : PointsOut inner) (bound : Nat) (cursor : Cursor)

include points

/-- A statement points at what is seen if its expressions do; the errors of its own are those of
`expect`. -/
theorem statement_points : Points (statement inner cursor) := by
  have valued (make : Expr → Stmt) (place : Cursor) : Points ((do
      let value ← inner .lowest
      skipSemicolon
      return make value : ParseM Stmt) place) :=
    .bind (points _ _) fun _ place => .bind (.skipSemicolon place) fun _ _ => trivial
  rw [statement, current_bind]
  generalize cursor.current.kind = kind
  split
  · exact .bind (.expect ..) fun _ _ => .bind (.expect ..) fun _ _ =>
      .bind trivial fun _ place => valued _ place
  · rw [peek_bind]
    generalize cursor.peek.kind = kind
    split
    · exact .bind trivial fun _ _ => trivial
    · trivial
    · trivial
    · exact .bind trivial fun _ place => valued _ place
  · exact valued _ cursor

/-- Where `statements` go on without a closing brace, the error points at the current token, by
induction on the bound. -/
theorem statements_points : Points (statements inner bound cursor) := by
  induction bound generalizing cursor with
  | zero => exact .inl (.unexpectedToken _ .rbrace)
  | succ bound ih =>
    rw [statements, current_bind]
    generalize cursor.current.kind = kind
    split
    · trivial
    · exact .inl (.unexpectedToken _ .rbrace)
    · exact .bind (statement_points points cursor) fun _ _ => .bind trivial fun _ place =>
        .bind (ih place) fun _ _ => trivial

/-- A `block` points at what is seen if its expressions do, or at the token that should open it. -/
theorem block_points : Points (block inner bound cursor) :=
  .bind (.expect ..) fun _ _ => .bind trivial fun _ place => statements_points points bound place

/-- Arguments after a comma (`moreArguments`) point at what is seen if their expressions do, by
induction on the bound. -/
theorem moreArguments_points : Points (moreArguments inner bound cursor) := by
  induction bound generalizing cursor with
  | zero => exact .bind (.expect ..) fun _ _ => trivial
  | succ bound ih =>
    rw [moreArguments, peek_bind]
    split
    · exact .bind trivial fun _ _ => .bind trivial fun _ _ => .bind (points _ _) fun _ place =>
        .bind (ih place) fun _ _ => trivial
    · exact .bind (.expect ..) fun _ _ => trivial

/-- The `arguments` of a call point at what is seen if their expressions do, or at the token that
should close them. -/
theorem arguments_points : Points (arguments inner bound cursor) := by
  rw [arguments, peek_bind]
  split
  · trivial
  · exact .bind trivial fun _ _ => .bind (points _ _) fun _ place =>
      .bind (moreArguments_points points bound place) fun _ _ => trivial

/-- A `group` points at what is seen if its expression does, or at the token that should close
it. -/
theorem group_points : Points (group inner cursor) :=
  .bind trivial fun _ _ => .bind (points _ _) fun _ _ => .bind (.expect ..) fun _ _ => trivial

/-- A `unary` operation points at what is seen if its operand does; it has no errors of its own. -/
theorem unary_points (op : UnaryOp) : Points (unary inner op cursor) :=
  .bind trivial fun _ _ => .bind (points _ _) fun _ _ => trivial

/-- A `conditional` points at what is seen if its expressions do, or at a parenthesis that is
missing. -/
theorem conditional_points : Points (conditional inner bound cursor) := by
  refine .bind (.expect ..) fun _ _ => .bind trivial fun _ _ => .bind (points _ _) fun _ _ =>
    .bind (.expect ..) fun _ place => .bind (block_points points bound place) fun _ place => ?_
  rw [peek_bind]
  split
  · exact .bind trivial fun _ place => .bind (block_points points bound place) fun _ _ => trivial
  · trivial

end

/-- Parameters after a comma (`moreParameters`) point at what is seen: a name or a parenthesis is
missing there. -/
theorem moreParameters_points (bound : Nat) (cursor : Cursor) :
    Points (moreParameters (m := ParseM) bound cursor) := by
  induction bound generalizing cursor with
  | zero => exact .bind (.expect ..) fun _ _ => trivial
  | succ bound ih =>
    rw [moreParameters, peek_bind]
    split
    · exact .bind trivial fun _ _ => .bind (.expect ..) fun _ place =>
        .bind (ih place) fun _ _ => trivial
    · exact .bind (.expect ..) fun _ _ => trivial

/-- The `parameters` of a function point at what is seen: a parenthesis or a name is missing
there. -/
theorem parameters_points (bound : Nat) (cursor : Cursor) :
    Points (parameters (m := ParseM) bound cursor) := by
  refine .bind (.expect ..) fun _ place => ?_
  rw [peek_bind]
  split
  · trivial
  · exact .bind (.expect ..) fun _ place =>
      .bind (moreParameters_points bound place) fun _ _ => trivial

/-- A `function` points at what is seen if the expressions in its body do, or at what is wrong with
its parameters. -/
theorem function_points {inner : ExprReader} (points : PointsOut inner) (bound : Nat)
    (cursor : Cursor) : Points (function inner bound cursor) :=
  .bind (parameters_points bound cursor) fun _ place =>
    .bind (block_points points bound place) fun _ _ => trivial

/-- An integer literal that denotes no integer is the current token, since `integer` does not move.
-/
theorem integer_points (cursor : Cursor) :
    Points (integer (m := ParseM) cursor.current cursor) := by
  unfold integer
  cases Decimal.read? cursor.current.literal with
  | none => exact .inl (.invalidInteger _)
  | some value => trivial

namespace Context

variable {limit : Option Nat} {recorded : List ParseError}

/-- The token that stands too deep is the current one, since `descend` does not move. -/
theorem descend_points (context : Context) (depth : Nat) (cursor : Cursor) :
    Points (context.descend (m := ParseM) depth cursor.current cursor) := by
  rw [descend_eq_checkDepth]
  cases context.grammar.nestingLimit with
  | none => trivial
  | some limit =>
    by_cases deep : limit ≤ depth
    · simp only [checkDepth, if_pos deep]
      exact .inl (.nestingTooDeep _ limit)
    · simp only [checkDepth, if_neg deep]
      trivial

/-- An `operand` points at what is seen if the expressions in it do, or at a token that starts no
operand. -/
theorem operand_points {inner : ExprReader} (points : PointsOut inner) (bound : Nat)
    (cursor : Cursor) : Points ((plain limit recorded).operand inner bound cursor) := by
  rw [operand_apply]
  generalize cursor.current.kind = kind
  split
  · trivial
  · exact integer_points cursor
  · trivial
  · trivial
  · exact unary_points points cursor _
  · exact unary_points points cursor _
  · exact group_points points cursor
  · exact conditional_points points bound cursor
  · exact function_points points bound cursor
  · exact .inl (.noOperand _)

/-- An `operation` points at what is seen if the expressions in it do, be it a binary one or a
call. -/
theorem operation_points {inner : ExprReader} (points : PointsOut inner) (bound : Nat)
    (token : Token) (operator : Operator) (left : Expr) (cursor : Cursor) :
    Points
      ((plain limit recorded).operation inner bound token left (.builtin operator) cursor) := by
  cases operator with
  | binary op =>
    exact Points.bind trivial fun _ place => .bind (points _ place) fun _ _ => trivial
  | call => exact Points.bind (arguments_points points bound cursor) fun _ _ => trivial

/-- The `operators` behind an operand point at what is seen if the expressions behind them do, by
induction on the bound. -/
theorem operators_points {reader : Nat → ExprReader} (points : ∀ depth, PointsOut (reader depth))
    (floor : Precedence) (bound depth : Nat) (left : Expr) (cursor : Cursor) :
    Points ((plain limit recorded).operators reader floor bound depth left cursor) := by
  induction bound generalizing depth left cursor with
  | zero => trivial
  | succ bound ih =>
    by_cases tighter : floor < .ofKind cursor.peek.kind
    · -- The operator is the current token when its level is counted.
      obtain ⟨operator, stands⟩ := Operator.exists_ofKind?_of_lt tighter
      rw [operators_plain tighter stands]
      exact .bind (descend_points _ depth cursor.advance) fun _ place =>
        .bind (operation_points (points _) bound _ operator left place) fun _ _ => ih ..
    · rw [operators_of_not_lt tighter]
      trivial

/-- An expression points at what is seen if the expressions in it do: the step lemma for
`expressionStep`. -/
theorem expressionStep_points {reader : Nat → ExprReader} (bound depth : Nat)
    (points : ∀ depth, PointsOut (reader depth)) :
    PointsOut ((plain limit recorded).expressionStep reader bound depth) := by
  intro floor cursor
  rw [expressionStep, current_bind]
  exact .bind (descend_points _ depth cursor) fun _ place =>
    .bind (operand_points (points _) bound place) fun _ _ => operators_points points ..

/-- **Expressions point at what is seen**, by induction on the bound with which they are read. -/
theorem expression_points (bound depth : Nat) :
    PointsOut ((plain limit recorded).expression bound depth) := by
  induction bound generalizing depth with
  | zero => exact expressionStep_points 0 depth fun _ _ _ => .inl (.noOperand _)
  | succ bound ih => exact expressionStep_points _ depth ih

end Context

end Parse

/-- An error points at a token that is seen, and that does not stand behind the place where reading
goes on, since tokens stand `InOrder`. -/
theorem Cursor.Shows.exists_token {place next : Cursor} {error : ParseError}
    (shows : place.Shows error) (ordered : place.stream.InOrder)
    (behind : place.advance.Reaches next) :
    ∃ token ∈ place.stream.withEnd, error.PointsAt token ∧
      token.position ≤ next.current.position := by
  have way : place.Reaches place.advance := .advance
  obtain current | peek := shows
  · exact ⟨_, Reaches.here.current_mem, current, (way.trans behind).current_le ordered⟩
  · exact ⟨_, way.current_mem, peek, behind.current_le (way.inOrder ordered)⟩

/-- Errors that point at some of these tokens, each where those before it stand or behind. -/
structure ParseError.StandAlong (tokens : List Token) (errors : List ParseError) : Prop where
  points : ∀ error ∈ errors, ∃ token ∈ tokens, error.PointsAt token
  sorted : errors.Pairwise fun first second => first.position ≤ second.position

namespace ParseError.StandAlong

variable {tokens more : List Token} {errors : List ParseError}

/-- No errors at all stand along any tokens. -/
theorem nil (tokens : List Token) : StandAlong tokens [] :=
  ⟨List.forall_mem_nil _, .nil⟩

/-- More tokens may be pointed at than those that are known, without another order of the errors. -/
theorem mono (along : StandAlong tokens errors) (subset : tokens ⊆ more) :
    StandAlong more errors where
  points error mem := by
    obtain ⟨token, seen, points⟩ := along.points error mem
    exact ⟨token, subset seen, points⟩
  sorted := along.sorted

/-- An error before the others points at a token that stands behind none of theirs. -/
theorem cons (along : StandAlong tokens errors) (subset : tokens ⊆ more) {error : ParseError}
    {token : Token} (seen : token ∈ more) (points : error.PointsAt token)
    (before : ∀ other ∈ tokens, token.position ≤ other.position) :
    StandAlong more (error :: errors) where
  points := List.forall_mem_cons.2 ⟨⟨token, seen, points⟩, (along.mono subset).points⟩
  sorted := by
    refine .cons (fun other mem => ?_) along.sorted
    obtain ⟨found, seen, at_found⟩ := along.points other mem
    rw [points.position_eq, at_found.position_eq]
    exact before found seen

end ParseError.StandAlong

namespace Grammar

open Parse

variable {limit : Option Nat} {bound : Nat} {recorded : List ParseError} {cursor : Cursor}

/-- A broken statement fails at a place whose tokens its error is about, and reading goes on behind
that place: recovery moves forward. -/
theorem parseItem_shows {error : ParseError} {next : Cursor}
    (read : (limited limit).parseItem bound recorded cursor = (⟨cursor, .error error⟩, next)) :
    ∃ place, cursor.Reaches place ∧ place.Shows error ∧ place.advance.Reaches next := by
  have points : ParseM.Points
      (statement (Context.expression ⟨limited limit, recorded⟩ bound 0) cursor) :=
    statement_points (Context.expression_points bound 0) cursor
  have forward := statement_forward
    (Context.expression_forward ⟨limited limit, recorded⟩ bound 0) cursor
  rw [parseItem] at read
  split at read
  · cases read
  · next run =>
    rw [run] at points forward
    cases read
    exact ⟨_, forward, points, (Cursor.reaches_recover ..).advance_advance⟩

/-- The errors that are recorded from a place on stand along the tokens from there on, by induction
over the items that are read. -/
theorem parseFrom_errors (ordered : cursor.stream.InOrder) :
    ParseError.StandAlong cursor.stream.withEnd
      ((limited limit).parseFrom bound recorded cursor).errors := by
  induction bound generalizing recorded cursor with
  | zero => exact .nil _
  | succ bound ih =>
    by_cases ended : cursor.atEnd = true
    · rw [parseFrom_atEnd ended]
      exact .nil _
    · obtain ⟨tree, last, -, read⟩ | ⟨error, next, read⟩ :=
        parseItem_cases (limited limit) (bound + 1) recorded cursor
      · -- No error is recorded, and reading goes on further on.
        have way := (parseItem_passes ended read).1
        rw [(parseFrom_ok ended read).1]
        exact (ih (way.inOrder ordered)).mono way.withEnd_suffix.subset
      · -- The error stands before the place where reading goes on, and all others stand behind it.
        obtain ⟨place, way, shows, behind⟩ := parseItem_shows read
        obtain ⟨token, seen, points, before⟩ := shows.exists_token (way.inOrder ordered) behind
        have further := way.further.trans behind
        have rest := further.inOrder ordered
        rw [(parseFrom_error ended read).1]
        have here := way.withEnd_suffix.subset seen
        refine (ih rest).cons further.withEnd_suffix.subset here points fun other ahead => ?_
        exact Position.le_trans before (rest.head_le other ahead)

/-- **Errors are reported in the order of the source.** Whatever the source and the nesting limit,
no error stands before one that was recorded earlier, and each error points at a token of the source
or at its end: it stands where the token does, and if it reports a text or a kind, these are the
token's. -/
theorem errors_in_source_order (limit : Option Nat) (source : String) :
    (((limited limit).parse (.ofSource source)).errors.map (·.position)).Pairwise (· ≤ ·) ∧
      ∀ error ∈ ((limited limit).parse (.ofSource source)).errors,
        ∃ token ∈ (TokenStream.ofSource source).withEnd, error.PointsAt token := by
  have ordered : (Cursor.start (.ofSource source)).stream.InOrder :=
    TokenStream.inOrder_ofSource source
  have along : ParseError.StandAlong (TokenStream.ofSource source).withEnd
      ((limited limit).parse (.ofSource source)).errors := parseFrom_errors ordered
  exact ⟨List.pairwise_map.2 along.sorted, along.points⟩

end Grammar

end Monkey
