import Monkey.Proofs.Parse.Completeness
import Monkey.Proofs.Parse.Forward

/-! # Programs that are read

A program is read without an error just when its tokens have a `Derivation` that keeps within the
nesting limit: `parse_sound` is the one direction, `parse_accepts` the other, and
`parse_eq_iff_derivation` puts them together. Both go by induction over the items of a stream, for
which `parseFrom_ok` and `parseFrom_error` are the steps. Where there are errors, each statement
that was read still has a derivation from tokens of its own (`exists_derivation`). -/

namespace Monkey

open Parse ParseM

namespace Grammar

/-- The built-in rules with a nesting limit, or with none. -/
abbrev limited (limit : Option Nat) : Grammar := { nestingLimit := limit }

variable {grammar : Grammar} {bound : Nat} {recorded : List ParseError} {cursor : Cursor}

/-! ## Items in turn -/

/-- At the end of the input nothing is read, and the cursor stays. -/
theorem parseFrom_atEnd (ended : cursor.atEnd = true) :
    grammar.parseFrom bound recorded cursor = ⟨[], cursor⟩ := by
  cases bound with
  | zero => rfl
  | succ bound => rw [parseFrom, if_pos ended]

/-- Before the end an item is read with `parseItem`, and the others behind it, with its error among
the recorded ones. -/
theorem parseFrom_inside (inside : ¬cursor.atEnd = true) {item : ParsedItem} {next : Cursor}
    (read : grammar.parseItem (bound + 1) recorded cursor = (item, next)) :
    (grammar.parseFrom (bound + 1) recorded cursor).items =
      item :: (grammar.parseFrom bound (item.error?.toList ++ recorded) next).items := by
  rw [parseFrom, if_neg inside, read]

/-- An item is a statement that is read by one run of `statement`, or it is the error of a broken
one. -/
theorem parseItem_cases (grammar : Grammar) (bound : Nat) (recorded : List ParseError)
    (cursor : Cursor) :
    (∃ tree last, statement (Context.expression ⟨grammar, recorded⟩ bound 0) cursor = .ok tree last ∧
        grammar.parseItem bound recorded cursor = (⟨cursor, .ok tree⟩, last.advance)) ∨
      ∃ error next, grammar.parseItem bound recorded cursor = (⟨cursor, .error error⟩, next) := by
  rw [parseItem]
  cases run : statement (Context.expression ⟨grammar, recorded⟩ bound 0) cursor with
  | ok tree last => exact .inl ⟨tree, last, rfl, rfl⟩
  | error error place => exact .inr ⟨error, _, rfl⟩

/-- A statement that is read goes before the other `statements`, and no error does. -/
theorem parseFrom_ok (inside : ¬cursor.atEnd = true) {tree : Stmt} {next : Cursor}
    (read : grammar.parseItem (bound + 1) recorded cursor = (⟨cursor, .ok tree⟩, next)) :
    (grammar.parseFrom (bound + 1) recorded cursor).errors =
        (grammar.parseFrom bound recorded next).errors ∧
      (grammar.parseFrom (bound + 1) recorded cursor).statements =
        tree :: (grammar.parseFrom bound recorded next).statements := by
  simp only [ParseOutcome.errors, ParseOutcome.statements, parseFrom_inside inside read]
  exact ⟨rfl, rfl⟩

/-- The error of a broken statement goes before the other `errors`, and no statement does. -/
theorem parseFrom_error (inside : ¬cursor.atEnd = true) {error : ParseError} {next : Cursor}
    (read : grammar.parseItem (bound + 1) recorded cursor = (⟨cursor, .error error⟩, next)) :
    (grammar.parseFrom (bound + 1) recorded cursor).errors =
        error :: (grammar.parseFrom bound (error :: recorded) next).errors ∧
      (grammar.parseFrom (bound + 1) recorded cursor).statements =
        (grammar.parseFrom bound (error :: recorded) next).statements := by
  simp only [ParseOutcome.errors, ParseOutcome.statements, parseFrom_inside inside read]
  exact ⟨rfl, rfl⟩

/-- What a reader is left with behind an item is less than before it, so a bound that is one less is
enough. -/
theorem size_parseItem_le {item : ParsedItem} {next : Cursor} (enough : cursor.size ≤ bound + 1)
    (read : grammar.parseItem (bound + 1) recorded cursor = (item, next)) : next.size ≤ bound := by
  obtain ⟨place, reaches, rfl⟩ := reaches_parseItem read
  have := reaches.size_le
  rw [Cursor.size_advance]
  omega

/-- Every statement was read somewhere in the stream, with tokens enough left of the bound. -/
theorem exists_run (enough : cursor.size ≤ bound) {tree : Stmt}
    (mem : tree ∈ (grammar.parseFrom bound recorded cursor).statements) :
    ∃ start, cursor.Reaches start ∧ ∃ fewer seen last, start.size ≤ fewer ∧
      statement (Context.expression ⟨grammar, seen⟩ fewer 0) start = .ok tree last := by
  induction bound generalizing recorded cursor with
  | zero => cases mem
  | succ bound ih =>
    by_cases ended : cursor.atEnd = true
    · rw [parseFrom_atEnd ended] at mem
      cases mem
    · have further {item : ParsedItem} {next : Cursor}
          (read : grammar.parseItem (bound + 1) recorded cursor = (item, next)) :
          cursor.Reaches next := by
        obtain ⟨place, reaches, rfl⟩ := reaches_parseItem read
        exact reaches.further
      obtain ⟨first, last, run, read⟩ | ⟨error, next, read⟩ :=
        grammar.parseItem_cases (bound + 1) recorded cursor
      · -- The statement is the one that was read here, or one of the others.
        rw [(parseFrom_ok ended read).2, List.mem_cons] at mem
        obtain rfl | mem := mem
        · exact ⟨cursor, .here, bound + 1, recorded, last, enough, run⟩
        · obtain ⟨start, way, found⟩ := ih (size_parseItem_le enough read) mem
          exact ⟨start, (further read).trans way, found⟩
      · -- Nothing was read here, so it is one of the others.
        rw [(parseFrom_error ended read).2] at mem
        obtain ⟨start, way, found⟩ := ih (size_parseItem_le enough read) mem
        exact ⟨start, (further read).trans way, found⟩

/-! ## Soundness -/

variable {limit : Option Nat}

/-- Every statement that is read, also from a stream with errors, has a `Derivation` from symbols of
the stream, within the nesting limit. -/
theorem exists_derivation (stream : TokenStream) {tree : Stmt}
    (mem : tree ∈ ((limited limit).parse stream).statements) :
    ∃ (symbols : List Symbol) (derivation : Derivation (.statement tree) symbols),
      symbols ⊆ stream.tokens.map Token.symbol ∧ Within limit derivation.nesting := by
  obtain ⟨start, way, bound, seen, last, enough, run⟩ :=
    exists_run (Nat.le_refl (Cursor.start stream).size) mem
  obtain ⟨behind, ⟨symbols, derivation, eq, within⟩, -⟩ :=
    statement_sound expression_sound .zero enough run
  refine ⟨symbols, derivation, ?_, by rwa [Nat.zero_add] at within⟩
  intro symbol mem
  have inside : symbol ∈ start.symbols := by
    rw [eq]
    exact List.mem_append_left _ mem
  exact way.symbols_suffix.subset inside

/-- The statements of a stream that is read without an error have a derivation from its symbols up
to the end of the input, by induction over the items. -/
theorem parseFrom_sound (enough : cursor.size ≤ bound)
    (clean : ((limited limit).parseFrom bound recorded cursor).errors = []) :
    ∃ after, Built limit 0
        (.statements ((limited limit).parseFrom bound recorded cursor).statements)
        cursor.symbols after ∧ nextKind after = .eof := by
  -- At the end of the input the symbols that are left derive no statement.
  have nothing {cursor : Cursor} (ended : cursor.atEnd = true) :
      ∃ after, Built limit 0 (.statements []) cursor.symbols after ∧ nextKind after = .eof := by
    refine ⟨cursor.symbols, ⟨[], .noStatement, rfl, .zero⟩, ?_⟩
    rw [← Cursor.current_kind]
    exact of_decide_eq_true ended
  induction bound generalizing recorded cursor with
  | zero => exact nothing (Cursor.atEnd_of_size_eq_zero (Nat.le_zero.1 enough))
  | succ bound ih =>
    by_cases ended : cursor.atEnd = true
    · rw [parseFrom_atEnd ended]
      exact nothing ended
    · obtain ⟨first, last, run, read⟩ | ⟨error, next, read⟩ :=
        (limited limit).parseItem_cases (bound + 1) recorded cursor
      · -- a statement that was read, before others that were
        obtain ⟨errors, statements⟩ := parseFrom_ok ended read
        rw [errors] at clean
        obtain ⟨after, others, empty⟩ := ih (size_parseItem_le enough read) clean
        obtain ⟨behind, built, closed⟩ := statement_sound expression_sound .zero enough run
        rw [statements]
        exact ⟨after, built.cons closed others, empty⟩
      · -- a broken statement would have left its error
        rw [(parseFrom_error ended read).1] at clean
        cases clean

end Grammar

/-! ## Completeness -/

namespace ParseOutcome

/-- What was read is some statements and no error, if the expressions on the way fit, and otherwise
an error says that they nest too deep. -/
structure Accepts (outcome : ParseOutcome) (fits : Prop) (trees : List Stmt) : Prop where
  eq_of_fits : fits → outcome.errors = [] ∧ outcome.statements = trees
  tooDeep : ¬fits → ∃ error ∈ outcome.errors, error.isTooDeep = true

/-- What has to fit may be said in another way, by an equivalent condition. -/
theorem Accepts.congr {outcome : ParseOutcome} {fits also : Prop} {trees : List Stmt}
    (accepts : outcome.Accepts fits trees) (same : fits ↔ also) : outcome.Accepts also trees :=
  propext same ▸ accepts

end ParseOutcome

namespace Grammar

variable {limit : Option Nat} {recorded : List ParseError} {bound : Nat} {cursor : Cursor}

/-- A statement that fits goes before the others; one that nests too deep makes an error, whatever
the others come to. -/
theorem parseFrom_cons {tree : Stmt} {trees : List Stmt} {symbols behind after : List Symbol}
    {fits : Prop} (first : Derivation (.statement tree) symbols)
    (eq : cursor.symbols = symbols ++ behind) (enough : cursor.size ≤ bound + 1)
    (closed : Closed tree behind after) (other : nextKind behind ≠ .elseKw)
    (rest : ∀ {recorded : List ParseError} {next : Cursor}, next.symbols = after →
      ((limited limit).parseFrom bound recorded next).Accepts fits trees) :
    ((limited limit).parseFrom (bound + 1) recorded cursor).Accepts
      (Within limit first.nesting ∧ fits) (tree :: trees) := by
  -- No statement starts with the end of the input.
  have inside : ¬cursor.atEnd = true := by
    intro ended
    have starts := first.startsStatement
    have ends : nextKind cursor.symbols = .eof := by
      rw [← Cursor.current_kind]
      exact of_decide_eq_true ended
    cases symbols with
    | nil => cases starts
    | cons symbol symbols =>
      rw [eq, List.cons_append, nextKind_cons] at ends
      rw [nextKind_cons, ends] at starts
      cases starts
  obtain ⟨last, left, leads⟩ :=
    isRead limit recorded first (bound + 1) 0 eq enough closed other
  have run := leads .zero
  rw [Nat.zero_add] at run
  constructor
  · -- Everything fits: the statement is read, and so are the others.
    rintro ⟨here, there⟩
    have read : (limited limit).parseItem (bound + 1) recorded cursor =
        (⟨cursor, .ok tree⟩, last.advance) := by
      rw [parseItem, run.eq_of_fits here]
    obtain ⟨errors, statements⟩ := parseFrom_ok inside read
    obtain ⟨noErrors, others⟩ := (rest left).eq_of_fits there
    rw [errors, statements, noErrors, others]
    exact ⟨rfl, rfl⟩
  · intro misfit
    by_cases here : Within limit first.nesting
    · -- The statement fits, so it is the others that do not.
      have read : (limited limit).parseItem (bound + 1) recorded cursor =
          (⟨cursor, .ok tree⟩, last.advance) := by
        rw [parseItem, run.eq_of_fits here]
      rw [(parseFrom_ok inside read).1]
      exact (rest left).tooDeep fun there => misfit ⟨here, there⟩
    · -- The statement itself nests too deep, and its error is the first one.
      obtain ⟨error, place, failed, deep⟩ := run.tooDeep here
      have read : (limited limit).parseItem (bound + 1) recorded cursor =
          (⟨cursor, .error error⟩, (place.recover .builtin cursor.openedThrough).advance) := by
        rw [parseItem, failed]
      rw [(parseFrom_error inside read).1]
      exact ⟨error, List.mem_cons_self, deep⟩

/-- Statements are read from the symbols of their derivation up to the end of the input, by
induction on the `Derivation`. -/
theorem parseFrom_accepts {trees : List Stmt} {symbols : List Symbol}
    (derivation : Derivation (.statements trees) symbols) (eq : cursor.symbols = symbols)
    (enough : cursor.size ≤ bound) :
    ((limited limit).parseFrom bound recorded cursor).Accepts (Within limit derivation.nesting)
      trees := by
  -- Along the list of statements; each of them has a symbol at least, which pays for its round.
  generalize same : Phrase.statements trees = phrase at derivation
  induction derivation generalizing trees bound recorded cursor with
  | noStatement =>
    cases same
    have ended : cursor.atEnd = true := by
      rw [Cursor.atEnd, Cursor.current_kind, eq]
      rfl
    rw [parseFrom_atEnd ended]
    exact ⟨fun _ => ⟨rfl, rfl⟩, fun misfit => absurd .zero misfit⟩
  | @closed semicolon tree trees symbols others first rest _ ih =>
    cases same
    have length := size_eq eq
    rw [List.length_append, List.length_cons] at length
    obtain ⟨bound, rfl⟩ : ∃ fewer, bound = fewer + 1 := ⟨bound - 1, by omega⟩
    have other : nextKind (⟨.semicolon, semicolon⟩ :: others) ≠ .elseKw :=
      (by decide : TokenKind.semicolon ≠ .elseKw)
    refine (parseFrom_cons first eq enough (.inl ⟨_, rfl⟩) other fun left => ?_).congr
      Within.max_iff.symm
    refine ih left ?_ rfl
    rw [size_eq left]
    omega
  | @unclosed tree trees symbols others first rest not_closed stops ended _ ih =>
    cases same
    have length := size_eq eq
    have some_symbol := List.length_pos_iff.2 first.ne_nil
    rw [List.length_append] at length
    obtain ⟨bound, rfl⟩ : ∃ fewer, bound = fewer + 1 := ⟨bound - 1, by omega⟩
    have closed : Closed tree others others := .inr ⟨rfl, not_closed, stops, ended⟩
    have other := nextKind_ne_else rest [] (.inr rfl)
    rw [List.append_nil] at other
    refine (parseFrom_cons first eq enough closed other fun left => ?_).congr
      Within.max_iff.symm
    refine ih left ?_ rfl
    rw [size_eq left]
    omega
  | _ => cases same

/-- The statements of a derivation are read from the whole of a stream, or an error says that they
nest too deep. -/
theorem parse_accepts (stream : TokenStream) {trees : List Stmt}
    (derivation : Derivation (.statements trees) (stream.tokens.map Token.symbol)) :
    ((limited limit).parse stream).Accepts (Within limit derivation.nesting) trees :=
  parseFrom_accepts derivation rfl (Nat.le_refl _)

/-- The statements of a stream that is read without an error have a derivation from the whole of the
stream. -/
theorem parse_sound {stream : TokenStream} (inside : ∀ token ∈ stream.tokens, token.kind ≠ .eof)
    (clean : ((limited limit).parse stream).errors = []) :
    ∃ derivation : Derivation (.statements ((limited limit).parse stream).statements)
        (stream.tokens.map Token.symbol), Within limit derivation.nesting := by
  obtain ⟨after, ⟨symbols, derivation, eq, within⟩, ended⟩ :=
    parseFrom_sound (Nat.le_refl (Cursor.start stream).size) clean
  cases after with
  | nil =>
    rw [List.append_nil, Cursor.symbols_start] at eq
    rw [Nat.zero_add] at within
    exact eq ▸ ⟨derivation, within⟩
  | cons symbol after =>
    -- No token of the stream is the end of the input, so reading cannot have ended before one.
    have mem : symbol ∈ stream.tokens.map Token.symbol := by
      rw [← Cursor.symbols_start, eq]
      exact List.mem_append_right _ List.mem_cons_self
    obtain ⟨token, among, rfl⟩ := List.mem_map.1 mem
    exact absurd ended (inside token among)

/-- **What is read is what the tokens derive**: a stream whose expressions do not nest too deep is
read without an error as a program just when its tokens have a `Derivation` of the statements of
that program. -/
theorem parse_eq_iff_derivation (stream : TokenStream) (program : Program)
    (inside : ∀ token ∈ stream.tokens, token.kind ≠ .eof)
    (shallow : ∀ error ∈ (standard.parse stream).errors, error.isTooDeep = false) :
    ((standard.parse stream).errors = [] ∧ (standard.parse stream).program = program) ↔
      Nonempty (Derivation (.statements program.statements) (stream.tokens.map Token.symbol)) := by
  constructor
  · rintro ⟨clean, rfl⟩
    obtain ⟨derivation, -⟩ := parse_sound inside clean
    exact ⟨derivation⟩
  · rintro ⟨derivation⟩
    have accepts : (standard.parse stream).Accepts (Within (some 1024) derivation.nesting)
        program.statements := parse_accepts stream derivation
    -- Expressions that nest too deep would have left an error that says so.
    have fits : Within (some 1024) derivation.nesting := by
      by_cases fits : Within (some 1024) derivation.nesting
      · exact fits
      · obtain ⟨error, mem, deep⟩ := accepts.tooDeep fits
        rw [shallow error mem] at deep
        cases deep
    obtain ⟨clean, statements⟩ := accepts.eq_of_fits fits
    exact ⟨clean, congrArg Program.mk statements⟩

/-- The tokens `a + b * c` are read as the sum that they derive, with the product as its right side.
-/
theorem parse_sum_of_product :
    let token (kind : TokenKind) (literal : String) : Token := ⟨kind, literal, .start⟩
    let stream : TokenStream := ⟨[token .ident "a", token .plus "+", token .ident "b",
      token .asterisk "*", token .ident "c"], .start⟩
    (∀ token ∈ stream.tokens, token.kind ≠ .eof) ∧
      (∀ error ∈ (standard.parse stream).errors, error.isTooDeep = false) ∧
      (standard.parse stream).errors = [] ∧ (standard.parse stream).program =
        ⟨[.exprStmt (.binary .add (.ident "a") (.binary .mul (.ident "b") (.ident "c")))]⟩ := by
  intro token stream
  have inside : ∀ token ∈ stream.tokens, token.kind ≠ .eof := by decide
  have shallow : ∀ error ∈ (standard.parse stream).errors, error.isTooDeep = false := by
    decide
  refine ⟨inside, shallow, (parse_eq_iff_derivation stream _ inside shallow).2 ⟨?_⟩⟩
  have product : Derivation (.expression .product (.binary .mul (.ident "b") (.ident "c"))) _ :=
    .binary .mul "*" (.tighter (.tighter (.name "b"))) (.tighter (.name "c"))
  have sum : Derivation
      (.expression .sum (.binary .add (.ident "a") (.binary .mul (.ident "b") (.ident "c")))) _ :=
    .binary .add "+" (.tighter (.tighter (.tighter (.name "a")))) product
  exact .unclosed (.exprStmt (.tighter (.tighter sum))) .noStatement nofun rfl nofun

end Grammar

end Monkey
