import Monkey.Proofs.Parse.LooseEnds
import Monkey.Proofs.Parse.Seam

/-! # A broken block within a statement

A statement that can be read is broken by putting other tokens into one of its blocks
(`BlockContext.fill`). Up to that block it is read as before, within it reading fails
(`exists_lost`), and recovery takes the rest of the block with it. From there on it is a matter of
the loose ends behind the block, `BlockContext.looseEnds`, how many more errors there are: that is
what `parse_broken_block` counts. -/

namespace Monkey

namespace Grammar

open ParseM Parse Cursor

variable {limit : Option Nat}

/-! ## Failure within the block -/

/-- The tokens of a statement that is a function with some tokens in its body, `fn() { … };`. -/
def functionOf (body : List Token) : List Token :=
  [⟨.fnKw, "fn", .start⟩, ⟨.lparen, "(", .start⟩, ⟨.rparen, ")", .start⟩,
    ⟨.lbrace, "\x7b", .start⟩] ++
    (body ++ [⟨.rbrace, "\x7d", .start⟩, ⟨.semicolon, ";", .start⟩])

/-- Tokens that derive statements make the body of a function: `functionOf` them is read without an
error, within the nesting limit. -/
theorem errors_functionOf {trees : List Stmt} {body : List Token}
    (derivation : Derivation (.statements trees) (body.map Token.symbol))
    (within : Within limit (derivation.nesting + 1)) (endPosition : Position) :
    ((limited limit).parse ⟨functionOf body, endPosition⟩).errors = [] := by
  let function : Derivation (.expression .call (.fn [] trees)) _ :=
    .function "fn" "(" ")" .none (.block "\x7b" "\x7d" derivation)
  obtain ⟨expression, -, nesting⟩ :=
    function.loosen (by decide : Level.equality.rank ≤ Level.call.rank)
  let statement : Derivation (.statements [.exprStmt (.fn [] trees)]) _ :=
    .closed ";" (.exprStmt expression) .noStatement
  have nests : statement.nesting = max expression.nesting 0 := rfl
  let start : Cursor := .start ⟨functionOf body, endPosition⟩
  show ((limited limit).parseFrom start.size [] start).errors = []
  refine ((parseFrom_accepts statement ?_ (Nat.le_refl _)).eq_of_fits ?_).1
  · rw [symbols_start, functionOf]
    simp [Token.symbol]
  · rw [nests, nesting, Nat.max_zero]
    exact within

end Grammar

namespace Parse

open ParseM Cursor

variable {limit : Option Nat} {recorded : List ParseError}

/-- Where a reader that gets lost in a block may be: somewhere in it, at the closing brace at the
latest, with as many braces open as the tokens that it has passed leave open (`openBehind`). -/
def LostIn (inner behind : List Token) (endPosition : Position) (level : Nat) (place : Cursor) :
    Prop :=
  ∃ passed left, inner = passed ++ left ∧
    place = ⟨⟨left ++ behind, endPosition⟩, openBehind level passed⟩

/-- Where the closing brace of a block is read, the whole block was: in a balanced block there is no
other closing brace at that level. -/
theorem LostIn.at_closing {inner behind : List Token} {closing : Token} {endPosition : Position}
    {level : Nat} {place : Cursor} (balanced : Balanced inner)
    (lost : LostIn inner (closing :: behind) endPosition (level + 1) place)
    (closes : place.current.kind = .rbrace) (opened : place.opened = level + 1) :
    place = ⟨⟨closing :: behind, endPosition⟩, level + 1⟩ := by
  obtain ⟨passed, left, rfl, rfl⟩ := lost
  cases left with
  | nil => exact congrArg (Cursor.mk _) opened
  | cons token left =>
    -- Another closing brace at this level would not be balanced.
    have split : passed ++ token :: left = (passed ++ [token]) ++ left := by
      rw [List.append_assoc]
      rfl
    have enough := balanced.le_openBehind (level + 1) split
    have count : openBehind (level + 1) passed = level + 1 := opened
    have kind : token.kind = .rbrace := closes
    rw [openBehind_append, openBehind_cons, count, kind] at enough
    exact absurd enough (Nat.not_succ_le_self level)

/-- The statements of a block are not read if no function can have them as its body: the reader of
`statements` fails, and is `LostIn` the block there. -/
theorem statements_broken {bound depth loop level : Nat} {inner behind : List Token}
    {closing : Token}
    {endPosition endPosition' : Position} (balanced : Balanced inner)
    (closes : closing.kind = .rbrace)
    (fails : ((Grammar.limited limit).parse ⟨Grammar.functionOf inner, endPosition'⟩).errors ≠ [])
    (within : Within limit (depth + 1)) (enough : (inner ++ closing :: behind).length ≤ bound) :
    ∃ error place,
      statements ((Context.plain limit recorded).expression bound (depth + 1)) loop
          ⟨⟨inner ++ closing :: behind, endPosition⟩, level + 1⟩ = .error error place ∧
        LostIn inner (closing :: behind) endPosition (level + 1) place := by
  let start : Cursor := ⟨⟨inner ++ closing :: behind, endPosition⟩, level + 1⟩
  have keeps : Stays (level + 1) start _
      (statements ((Context.plain limit recorded).expression bound (depth + 1)) loop start) :=
    statements_keeps Context.expression_keeps rfl
  cases run :
    statements ((Context.plain limit recorded).expression bound (depth + 1)) loop start with
  | error error place =>
    exact ⟨error, place, rfl, (keeps.of_error run).within_block balanced closes⟩
  | ok trees last =>
    -- Statements that are read up to the closing brace derive from the whole of the block.
    rw [run] at keeps
    obtain ⟨above, found, opened⟩ := keeps
    have lost : LostIn inner (closing :: behind) endPosition (level + 1) last :=
      above.within_block balanced closes
    obtain rfl := lost.at_closing balanced found opened
    obtain ⟨right, symbols, derivation, eq, nests⟩ :=
      statements_sound expression_sound within enough run
    have body : symbols = inner.map Token.symbol := by
      have both : inner.map Token.symbol ++ closing.symbol :: behind.map Token.symbol =
          symbols ++ ⟨.rbrace, right⟩ :: behind.map Token.symbol := by
        rw [← List.map_cons, ← List.map_append]
        exact eq
      exact (List.append_inj_left' both rfl).symm
    subst body
    refine absurd (Grammar.errors_functionOf derivation (nests.mono ?_) endPosition') fails
    omega

end Parse

namespace Grammar

open ParseM Parse Cursor Seam

variable {limit : Option Nat}

/-! ## One statement -/

/-- A stream that is read as one statement without an error is read by one run of `statement` up to
its end. -/
theorem exists_run_of_single {bound : Nat} {recorded : List ParseError} {cursor : Cursor}
    (inside : cursor.current.kind ≠ .eof) (enough : cursor.size ≤ bound + 1)
    (clean : ((limited limit).parseFrom (bound + 1) recorded cursor).errors = [])
    (single : ((limited limit).parseFrom (bound + 1) recorded cursor).statements.length = 1) :
    ∃ tree last, statement ((Context.plain limit recorded).expression (bound + 1) 0) cursor =
      .ok tree last ∧ last.advance.atEnd = true := by
  obtain ⟨tree, last, run, read⟩ | ⟨error, next, read⟩ :=
    (limited limit).parseItem_cases (bound + 1) recorded cursor
  · refine ⟨tree, last, run, ?_⟩
    obtain ⟨errors, statements⟩ := parseFrom_ok (mt of_decide_eq_true inside) read
    have fewer := size_parseItem_le enough read
    rw [errors] at clean
    rw [statements, List.length_cons] at single
    -- What is left is read as no statement and without an error.
    by_cases ended : last.advance.atEnd = true
    · exact ended
    · have some_token := mt atEnd_of_size_eq_zero ended
      obtain ⟨bound, rfl⟩ : ∃ fewer, bound = fewer + 1 := ⟨bound - 1, by omega⟩
      obtain ⟨_, _, _, read⟩ | ⟨_, _, read⟩ :=
        (limited limit).parseItem_cases (bound + 1) recorded last.advance
      · rw [(parseFrom_ok ended read).2, List.length_cons] at single
        omega
      · rw [(parseFrom_error ended read).1] at clean
        cases clean
  · rw [(parseFrom_error (mt of_decide_eq_true inside) read).1] at clean
    cases clean

/-- Tokens that end with a semicolon and are read as one statement without an error are a
`StatementRest`: what is left of a statement at its start. -/
theorem statementRest_of_single {before : List Token} {semicolon : Token} {endPosition : Position}
    (inside : ∀ token ∈ before ++ [semicolon], token.kind ≠ .eof)
    (closes : semicolon.kind = .semicolon)
    (clean : ((limited limit).parse ⟨before ++ [semicolon], endPosition⟩).errors = [])
    (single : ((limited limit).parse ⟨before ++ [semicolon], endPosition⟩).statements.length = 1) :
    StatementRest 0 ((before ++ [semicolon]).map Token.symbol) ∧
      (nextKind ((before ++ [semicolon]).map Token.symbol)).startsStatement = true := by
  obtain ⟨derivation, -⟩ := parse_sound (by exact inside) clean
  obtain ⟨tree, trees⟩ := List.length_eq_one_iff.1 single
  rw [trees] at derivation
  generalize same : (before ++ [semicolon]).map Token.symbol = symbols at derivation
  cases derivation with
  | closed literal first rest =>
    cases rest
    refine ⟨first.statementRest (.semicolon literal) (.inr ⟨rfl, rfl⟩), ?_⟩
    rw [nextKind_append first.ne_nil]
    exact first.startsStatement
  | unclosed first rest =>
    -- The last semicolon would belong to the statement, and one more could close it.
    cases rest
    have left := first.statementRest (.semicolon ";") (.inr ⟨rfl, rfl⟩)
    rw [List.append_nil] at same
    rw [← same, List.map_append, List.append_assoc] at left
    have two := left.behind (List.cons_ne_nil _ _)
    rw [List.map_singleton, Token.symbol, closes] at two
    exact absurd two (StatementRest.not_two_semicolons _ _)

end Grammar

/-! ## The broken block -/

/-- The tokens around the body of a block: what stands `before` it, its braces, and what comes
`after`. -/
structure BlockContext where
  before : List Token
  opening : Token
  closing : Token
  after : List Token
  opens : opening.kind = .lbrace
  closes : closing.kind = .rbrace

namespace BlockContext

open ParseM Parse Cursor Seam Grammar

variable (context : BlockContext) {limit : Option Nat} {body broken : List Token}

/-- The tokens with a body for the block between its braces; only the body is exchanged when the
block is broken. -/
def fill (body : List Token) : List Token :=
  context.before ++ context.opening :: (body ++ context.closing :: context.after)

/-- How many braces are open before the block, that is, in how many other blocks it stands. -/
def level : Nat := openBehind 0 context.before

/-- How many times recovery from within the block stops before the end of the statement, by
`Monkey.looseEnds` of what comes behind the block. -/
def looseEnds : Nat :=
  Monkey.looseEnds (context.level + 1) ((context.closing :: context.after).map Token.symbol)

/-- Behind its opening brace one brace more is open than before the block, at `level`. -/
theorem openBehind_opening :
    openBehind 0 (context.before ++ [context.opening]) = context.level + 1 := by
  rw [openBehind_append, openBehind_cons, context.opens]
  rfl

/-- Two bodies for the same block part behind its opening brace: the tokens up to there are the
same, which makes a `Seam`. -/
def seam (body broken : List Token) (endPosition endPosition' : Position) : Seam where
  token := context.opening
  left := ⟨⟨body ++ context.closing :: context.after, endPosition⟩, context.level + 1⟩
  right := ⟨⟨broken ++ context.closing :: context.after, endPosition'⟩, context.level + 1⟩
  kind_token := .inl context.opens

/-- What is left of the statement behind the body of its block: a balanced body leaves no trace in
`StatementRest` but the one open brace. -/
theorem statementRest (pairs : Balanced body)
    (left : StatementRest 0 ((context.fill body).map Token.symbol)) :
    StatementRest (context.level + 1) ((context.closing :: context.after).map Token.symbol) := by
  have split : context.fill body =
      (context.before ++ [context.opening]) ++ body ++ context.closing :: context.after := by
    simp [fill]
  rw [split, List.map_append] at left
  have behind := left.behind (List.cons_ne_nil _ _)
  rwa [openBehind_append, pairs.openBehind_eq, openBehind_opening] at behind

/-- The first token starts the statement whatever the body, and it is no brace, for no statement
starts with one. -/
theorem start_of_startsStatement
    (starts : (nextKind ((context.fill body).map Token.symbol)).startsStatement = true)
    (broken : List Token) (endPosition : Position) :
    (Cursor.start ⟨context.fill broken, endPosition⟩).current.kind ≠ .eof ∧
      (Cursor.start ⟨context.fill broken, endPosition⟩).openedThrough = 0 := by
  unfold fill at starts ⊢
  cases before : context.before with
  | nil =>
    -- No statement starts with an opening brace.
    have first : context.opening.kind.startsStatement = true := by rwa [before] at starts
    rw [context.opens] at first
    cases first
  | cons token before =>
    have first : token.kind.startsStatement = true := by rwa [before] at starts
    constructor
    · intro ends
      rw [show token.kind = .eof from ends] at first
      cases first
    · refine Nat.le_zero.1 (braces_le ?_)
      intro opens
      rw [show token.kind = .lbrace from opens] at first
      cases first

/-- Where a body is read with the statement around it, tokens that cannot be the body of a function
make the statement fail within the block: the run up to the `Seam` is the same, and behind it
`statements_broken` applies. -/
theorem exists_lost {bound : Nat} {recorded : List ParseError} {tree : Stmt} {last : Cursor}
    {endPosition : Position} (inside : ∀ token ∈ context.fill body, token.kind ≠ .eof)
    (pairs : Balanced broken)
    (fails : ((limited limit).parse ⟨functionOf broken, .start⟩).errors ≠ [])
    (run : statement ((Context.plain limit recorded).expression bound 0)
      (.start ⟨context.fill body, endPosition⟩) = .ok tree last)
    (ended : last.advance.atEnd = true) (endPosition' : Position)
    (enough : (context.fill broken).length ≤ bound) :
    ∃ error place, statement ((Context.plain limit recorded).expression bound 0)
        (.start ⟨context.fill broken, endPosition'⟩) = .error error place ∧
      LostIn broken (context.closing :: context.after) endPosition' (context.level + 1) place := by
  let seam := context.seam body broken endPosition endPosition'
  let lost := LostIn broken (context.closing :: context.after) endPosition' (context.level + 1)
  have twins : seam.Twins (.start ⟨context.fill body, endPosition⟩)
      (.start ⟨context.fill broken, endPosition'⟩) := by
    refine .of_shared (fun token mem => inside token (List.mem_append_left _ mem)) ?_ ?_ <;>
      exact congrArg (Cursor.mk _) context.openBehind_opening.symm
  have paired : Paired seam lost bound ((Context.plain limit recorded).expression bound 0) :=
    { keeps := Context.expression_keeps
      agrees := fun floor _ _ near =>
        (Context.expression_agrees (fun opens bound depth loop within small =>
          statements_broken pairs context.closes fails within small) near).mono }
  have same := statement_agrees paired ⟨twins, enough⟩
  rw [run] at same
  generalize run' : statement (m := ParseM) _
    (Cursor.start ⟨context.fill broken, endPosition'⟩) = result at same
  cases same with
  | lost gone => exact ⟨_, _, rfl, gone⟩
  | ok near =>
    -- The statement would end before its block is closed.
    have goes : last.advance.current.kind ≠ .eof := by
      obtain ⟨left, -⟩ | next := near.twins.advance_cases
      · rw [left]
        cases body with
        | nil =>
          show context.closing.kind ≠ .eof
          rw [context.closes]
          decide
        | cons token body => exact inside token (by simp [fill])
      · exact next.kind_ne_eof
    exact absurd (of_decide_eq_true ended) goes

end BlockContext

namespace Grammar

open ParseM Parse Cursor

/-- **A broken block**: the tokens of a statement that is read, up to the semicolon that closes it,
with other tokens in one of its blocks, such that no function can have those as its body. Nothing is
read of them, and besides the error within the block there is one for each of the `looseEnds` behind
it. -/
theorem parse_broken_block (context : BlockContext) {body broken : List Token}
    (inside : ∀ token ∈ context.fill body, token.kind ≠ .eof) (pairs : Balanced body)
    (ends : (context.fill body).getLast?.map Token.kind = some .semicolon) (endPosition : Position)
    (clean : (standard.parse ⟨context.fill body, endPosition⟩).errors = [])
    (single : (standard.parse ⟨context.fill body, endPosition⟩).statements.length = 1)
    (inside' : ∀ token ∈ broken, token.kind ≠ .eof) (pairs' : Balanced broken)
    (fails : (standard.parse ⟨functionOf broken, .start⟩).errors ≠ [])
    (endPosition' : Position) :
    let outcome := standard.parse ⟨context.fill broken, endPosition'⟩
    outcome.program = ⟨[]⟩ ∧ outcome.errors.length = 1 + context.looseEnds := by
  intro outcome
  obtain ⟨semicolon, last, closes⟩ := Option.map_eq_some_iff.1 ends
  obtain ⟨whole, same⟩ := List.getLast?_eq_some_iff.1 last
  have statement : StatementRest 0 ((context.fill body).map Token.symbol) ∧
      (nextKind ((context.fill body).map Token.symbol)).startsStatement = true := by
    rw [same] at inside clean single ⊢
    exact statementRest_of_single inside closes clean single
  obtain ⟨left, starts⟩ := statement
  let start : Cursor := .start ⟨context.fill body, endPosition⟩
  let start' : Cursor := .start ⟨context.fill broken, endPosition'⟩
  obtain ⟨bound, big, big'⟩ : ∃ bound, start.size ≤ bound + 1 ∧ start'.size ≤ bound + 1 :=
    ⟨start.size + start'.size, by omega, by omega⟩
  have items : (standard.parse ⟨context.fill body, endPosition⟩).items =
      (standard.parseFrom (bound + 1) [] start).items := items_parseFrom_congr (Nat.le_refl _) big
  have items' : outcome.items = (standard.parseFrom (bound + 1) [] start').items :=
    items_parseFrom_congr (Nat.le_refl _) big'
  obtain ⟨some_token, -⟩ := context.start_of_startsStatement starts body endPosition
  obtain ⟨some_token', outside⟩ := context.start_of_startsStatement starts broken endPosition'
  -- The run over the statement fails within the block once its body is broken.
  rw [ParseOutcome.errors, items] at clean
  rw [ParseOutcome.statements, items] at single
  obtain ⟨tree, last, run, ended⟩ := exists_run_of_single some_token big clean single
  obtain ⟨error, place, run', passed, behind, rfl, rfl⟩ :=
    context.exists_lost inside pairs' fails run ended endPosition' big'
  obtain ⟨fewer, statements, errors⟩ := parseFrom_failed some_token' outside big' run'
  -- Recovery takes the rest of the block with it, and goes on behind its body.
  have others : ∀ token ∈ behind, token.kind ≠ .eof := fun token mem =>
    inside' token (List.mem_append_right _ mem)
  rw [recover_balanced pairs' others (Nat.succ_pos _)] at fewer statements errors
  obtain ⟨none, number⟩ :=
    parseFrom_recover (some 1024) [error] (context.statementRest pairs left) rfl rfl fewer
  constructor
  · rw [ParseOutcome.program, ParseOutcome.statements, items']
    exact congrArg Program.mk (statements.trans none)
  · rw [ParseOutcome.errors, items']
    exact (congrArg List.length errors).trans ((congrArg (· + 1) number).trans (Nat.add_comm _ 1))

/-- A keyword in the body of `let f = fn() {};` makes one error, since the semicolon comes directly
behind the block. -/
theorem parse_broken_function :
    let token (kind : TokenKind) (literal : String) : Token := ⟨kind, literal, .start⟩
    let context : BlockContext :=
      { before := [token .letKw "let", token .ident "f", token .assign "=", token .fnKw "fn",
          token .lparen "(", token .rparen ")"]
        opening := token .lbrace "\x7b"
        closing := token .rbrace "\x7d"
        after := [token .semicolon ";"]
        opens := rfl
        closes := rfl }
    let broken := [token .letKw "let"]
    (∀ token ∈ context.fill [], token.kind ≠ .eof) ∧ Balanced [] ∧
      (context.fill []).getLast?.map Token.kind = some .semicolon ∧
      (standard.parse ⟨context.fill [], .start⟩).errors = [] ∧
      (standard.parse ⟨context.fill [], .start⟩).statements.length = 1 ∧
      (∀ token ∈ broken, token.kind ≠ .eof) ∧ Balanced broken ∧
      (standard.parse ⟨functionOf broken, .start⟩).errors ≠ [] ∧
      (standard.parse ⟨context.fill broken, .start⟩).program = ⟨[]⟩ ∧
      (standard.parse ⟨context.fill broken, .start⟩).errors.length = 1 := by
  intro token context broken
  have inside : ∀ token ∈ context.fill [], token.kind ≠ .eof := by decide
  have clean : (standard.parse ⟨context.fill [], .start⟩).errors = [] := by decide +kernel
  have single : (standard.parse ⟨context.fill [], .start⟩).statements.length = 1 := by
    decide +kernel
  have pairs : Balanced broken := .plain rfl .nil
  have fails : (standard.parse ⟨functionOf broken, .start⟩).errors ≠ [] := by decide +kernel
  obtain ⟨program, errors⟩ := parse_broken_block context inside .nil rfl .start clean single
    (by decide) pairs fails .start
  exact ⟨inside, .nil, rfl, clean, single, by decide, pairs, fails, program, errors⟩

/-- The keyword makes two errors where the function is an argument and another one follows, since
recovery takes the statement to be over before the comma. -/
theorem parse_broken_argument :
    let token (kind : TokenKind) (literal : String) : Token := ⟨kind, literal, .start⟩
    let context : BlockContext :=
      { before := [token .ident "f", token .lparen "(", token .fnKw "fn", token .lparen "(",
          token .rparen ")"]
        opening := token .lbrace "\x7b"
        closing := token .rbrace "\x7d"
        after := [token .comma ",", token .int "2", token .rparen ")", token .semicolon ";"]
        opens := rfl
        closes := rfl }
    let body := [token .int "1"]
    let broken := [token .letKw "let", token .assign "=", token .int "1"]
    (∀ token ∈ context.fill body, token.kind ≠ .eof) ∧ Balanced body ∧
      (context.fill body).getLast?.map Token.kind = some .semicolon ∧
      (standard.parse ⟨context.fill body, .start⟩).errors = [] ∧
      (standard.parse ⟨context.fill body, .start⟩).statements.length = 1 ∧
      (∀ token ∈ broken, token.kind ≠ .eof) ∧ Balanced broken ∧
      (standard.parse ⟨functionOf broken, .start⟩).errors ≠ [] ∧
      (standard.parse ⟨context.fill broken, .start⟩).errors =
        [.unexpectedToken .ident (token .assign "="), .noOperand (token .comma ",")] := by
  intro token context body broken
  exact ⟨by decide, .plain rfl .nil, rfl, by decide +kernel, by decide +kernel, by decide,
    .plain rfl (.plain rfl (.plain rfl .nil)), by decide +kernel, by decide +kernel⟩

end Grammar

end Monkey
