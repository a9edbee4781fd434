import Monkey.Proofs.Parse.Recognition
import Monkey.Proofs.Syntax.CanonicalText

/-! # Canonical texts are read back

The canonical text of a tree that can be written (`Program.Writable`) is read as that very tree,
as long as the text keeps within the nesting limit (`parse_render`). How deep it nests shows in
the tree (`Program.nesting`), and no text nests deeper than it has symbols. From this come
`render_parse_inverse`, about all programs that can be written, and `reparse_iff`, about the texts
of those that were read. -/

namespace Monkey

open Parse

namespace Derivation

/-- An expression is a list of statements by itself, derived from the same symbols and nesting as
deep. -/
theorem exists_single {level : Level} {tree : Expr} {symbols : List Symbol}
    (derivation : Derivation (.expression level tree) symbols) :
    ∃ whole : Derivation (.statements [.exprStmt tree]) symbols,
      whole.nesting = derivation.nesting := by
  have loose : Level.equality.rank ≤ level.rank := by
    cases level <;> decide
  obtain ⟨inner, -, same⟩ := derivation.loosen loose
  have single : ∃ whole : Derivation (.statements [.exprStmt tree]) (symbols ++ []),
      whole.nesting = derivation.nesting := by
    have valued : Stmt.exprStmt tree = .returnStmt none → nextKind [] = .rbrace ∨ nextKind [] = .eof :=
      fun _ => .inr rfl
    refine ⟨.unclosed (.exprStmt inner) .noStatement (by decide) rfl valued, ?_⟩
    exact (Nat.max_zero _).trans same
  rwa [List.append_nil] at single

end Derivation

/-! ## Programs read from texts -/

/-- The statements that are read from a source are `Writable`, also when there are errors beside
them. -/
theorem writable_parse (source : String) :
    (Grammar.standard.parse (.ofSource source)).program.Writable := by
  refine Stmt.allWritable_iff.2 fun statement mem => ?_
  obtain ⟨symbols, derivation, among, -⟩ :=
    Grammar.exists_derivation (.ofSource source) mem
  refine derivation.writable fun symbol mem => ?_
  exact wellSpelled_of_mem (among mem)

namespace Program

/-- A source is read as a program when there are no errors, and otherwise the errors are reported.
-/
theorem parse_eq_ok_iff {source : String} {program : Program} :
    parse source = .ok program ↔ (Grammar.standard.parse (.ofSource source)).errors = [] ∧
      (Grammar.standard.parse (.ofSource source)).program = program := by
  rw [parse, ParseOutcome.toExcept]
  split
  · next clean =>
    rw [List.isEmpty_iff.1 clean, Except.ok.injEq, eq_self, true_and]
  · next errors =>
    constructor
    · nofun
    · rintro ⟨clean, -⟩
      rw [clean] at errors
      exact absurd rfl errors

/-- The report of a source whose expressions nest too deep: one of its errors is `nestingTooDeep`.
-/
def NestsTooDeep (source : String) : Prop :=
  ∃ errors, parse source = .error errors ∧ ∃ error ∈ errors, error.isTooDeep = true

/-- A source whose symbols derive statements is read as these, if they keep within the nesting
limit, and otherwise it nests too deep. -/
theorem parse_of_derivation {source : String} {trees : List Stmt}
    (derivation : Derivation (.statements trees) (symbolsOf source.toList)) :
    (derivation.nesting ≤ 1024 → parse source = .ok ⟨trees⟩) ∧
      (1024 < derivation.nesting → NestsTooDeep source) := by
  have accepts : (Grammar.standard.parse (.ofSource source)).Accepts
      (Within (some 1024) derivation.nesting) trees :=
    Grammar.parse_accepts (.ofSource source) derivation
  constructor
  · intro small
    obtain ⟨clean, statements⟩ := accepts.eq_of_fits (Within.some_iff.2 small)
    exact parse_eq_ok_iff.2 ⟨clean, congrArg Program.mk statements⟩
  · intro large
    have misfit := mt Within.some_iff.1 (Nat.not_le.2 large)
    obtain ⟨error, mem, deep⟩ := accepts.tooDeep misfit
    refine ⟨_, ?_, error, mem, deep⟩
    rw [parse, ParseOutcome.toExcept, if_neg]
    intro clean
    rw [List.isEmpty_iff.1 clean] at mem
    cases mem

/-- The canonical text of a program that can be written is read as the program, if its `nesting`
keeps within the limit, and otherwise it nests too deep. -/
theorem parse_render {program : Program} (written : program.Writable) :
    (program.nesting ≤ 1024 → parse program.render = .ok program) ∧
      (1024 < program.nesting → NestsTooDeep program.render) := by
  obtain ⟨derivation, depth⟩ : ∃ derivation : Derivation (.statements program.statements)
      (symbolsOf program.render.toList), derivation.nesting = program.nesting := by
    rw [symbolsOf_render written]
    exact Stmt.exists_derivation_list program.statements written
  rw [← depth]
  exact parse_of_derivation derivation

/-- What a source is read as can be written: the case of `writable_parse` without errors. -/
theorem writable_of_parse {source : String} {program : Program}
    (parsed : parse source = .ok program) : program.Writable := by
  obtain ⟨-, rfl⟩ := parse_eq_ok_iff.1 parsed
  exact writable_parse source

/-- **Rendering and reading are inverse** on the programs that can be written, which are those that
are read from sources: whatever is read can be written, and the canonical text of what can be
written is read as the very same program or nests too deep, which takes at least 1024 tokens. -/
theorem render_parse_inverse :
    (∀ source, (Grammar.standard.parse (.ofSource source)).program.Writable) ∧
      ∀ program : Program, program.Writable →
        (parse program.render = .ok program ∨ NestsTooDeep program.render) ∧
          ((TokenStream.ofSource program.render).tokens.length < 1024 →
            parse program.render = .ok program) := by
  refine ⟨writable_parse, fun program written => ?_⟩
  obtain ⟨read, tooDeep⟩ := parse_render written
  constructor
  · -- It is read or nests too deep, as its own levels decide.
    rcases Nat.lt_or_ge 1024 program.nesting with large | small
    · exact .inr (tooDeep large)
    · exact .inl (read small)
  · -- It nests no deeper than it has tokens.
    intro few
    obtain ⟨derivation, depth⟩ := Stmt.exists_derivation_list program.statements written
    have levels := derivation.nesting_le_length
    rw [depth, ← symbolsOf_render written, ← map_symbol_ofSource, List.length_map] at levels
    exact read (Nat.le_of_lt (Nat.lt_of_le_of_lt levels few))

/-- A call of a function with a literal that starts with zeros is read back from its text, zeros
included. -/
theorem render_parse_call :
    let program : Program := ⟨[.exprStmt (.call (.ident "f") [.int 7 "007"])]⟩
    program.Writable ∧ (TokenStream.ofSource program.render).tokens.length < 1024 ∧
      parse program.render = .ok program := by
  intro program
  have seven : IsLiteral 7 "007" := ⟨by decide, by decide⟩
  have written : program.Writable := ⟨⟨(by decide : IsName "f"), seven, trivial⟩, trivial⟩
  have few : (TokenStream.ofSource program.render).tokens.length < 1024 := by
    have length := congrArg List.length (symbolsOf_render written)
    rw [← map_symbol_ofSource, List.length_map] at length
    rw [length]
    decide
  exact ⟨written, few, (render_parse_inverse.2 program written).2 few⟩

/-- **What was read from a source is read back** with the same text from its canonical text just
when that text keeps within the nesting limit. It nests as deep as the tree says, `Program.nesting`,
whatever the source did, and otherwise it is reported as nesting too deep. -/
theorem reparse_iff {source : String} {program : Program} (parsed : parse source = .ok program) :
    ((∃ again, parse program.render = .ok again ∧ again.render = program.render) ↔
        program.nesting ≤ 1024) ∧
      (1024 < program.nesting → NestsTooDeep program.render) := by
  obtain ⟨read, tooDeep⟩ := parse_render (writable_of_parse parsed)
  refine ⟨⟨?_, fun small => ⟨program, read small, rfl⟩⟩, tooDeep⟩
  rintro ⟨again, reread, -⟩
  refine Nat.not_lt.1 fun large => ?_
  obtain ⟨errors, failed, -⟩ := tooDeep large
  rw [reread] at failed
  cases failed

/-- A name is read back from its canonical text. -/
theorem reparse_name :
    parse "a" = .ok ⟨[.exprStmt (.ident "a")]⟩ ∧
      ∃ again, parse (Program.render ⟨[.exprStmt (.ident "a")]⟩) = .ok again ∧
        again.render = Program.render ⟨[.exprStmt (.ident "a")]⟩ := by
  have written : Program.Writable ⟨[.exprStmt (.ident "a")]⟩ := ⟨(by decide : IsName "a"), trivial⟩
  have parsed : parse "a" = .ok ⟨[.exprStmt (.ident "a")]⟩ := (parse_render written).1 (by decide)
  exact ⟨parsed, (reparse_iff parsed).1.2 (by decide)⟩

/-! ### Chains of unary operators

A chain of unary operators takes one level each in a source, but two in the canonical text, where
each of them stands in parentheses. -/

/-- A name behind so many minus signs, each of which is a `neg` of what follows it. -/
def negated : Nat → Expr
  | 0 => .ident "a"
  | count + 1 => .unary .neg (negated count)

/-- The text of a name behind so many minus signs, without parentheses. -/
def negatedText (count : Nat) : String := String.ofList (List.replicate count '-' ++ ['a'])

/-- In parentheses every minus sign takes two levels, and the name takes one. -/
theorem nesting_negated (count : Nat) : (negated count).nesting = 2 * count + 1 := by
  induction count with
  | zero => rfl
  | succ count ih =>
    rw [negated, Expr.nesting, ih]
    omega

/-- Without parentheses every minus sign takes one level, and the name takes one. -/
theorem exists_derivation_negated (count : Nat) :
    ∃ derivation : Derivation (.expression .unary (negated count))
        (symbolsOf (negatedText count).toList), derivation.nesting = count + 1 := by
  induction count with
  | zero =>
    -- the name alone
    have name : IsName "a" := by decide
    have spelled : symbolsOf (negatedText 0).toList = [⟨.ident, "a"⟩] := name.spells.symbolsOf_eq
    rw [spelled]
    exact ⟨.tighter (.name "a"), rfl⟩
  | succ count ih =>
    -- one more minus sign before the others
    have minus : Cuts "-" [⟨.minus, "-"⟩] := cuts_sign rfl rfl rfl (by decide)
    have spelled : symbolsOf (negatedText (count + 1)).toList =
        ⟨.minus, "-"⟩ :: symbolsOf (negatedText count).toList := by
      simp only [negatedText, String.toList_ofList]
      exact minus _
    obtain ⟨inner, depth⟩ := ih
    rw [spelled]
    exact ⟨.unary .neg "-" inner, congrArg (· + 1) depth⟩

/-- A chain of minus signs is read up to the nesting limit, where it is written without parentheses.
-/
theorem parse_negated {count : Nat} (few : count < 1024) :
    parse (negatedText count) = .ok ⟨[.exprStmt (negated count)]⟩ := by
  obtain ⟨chain, depth⟩ := exists_derivation_negated count
  obtain ⟨whole, same⟩ := chain.exists_single
  exact (parse_of_derivation whole).1 (by omega)

/-- Of 512 minus signs the source is read, and the canonical text is not: it has 1025 levels. -/
theorem not_reparse_negated :
    ∃ program, parse (negatedText 512) = .ok program ∧
      ¬∃ again, parse program.render = .ok again ∧ again.render = program.render := by
  have parsed := parse_negated (by decide : 512 < 1024)
  refine ⟨_, parsed, ?_⟩
  rintro ⟨again, reread, -⟩
  have large : 1024 < Program.nesting ⟨[.exprStmt (negated 512)]⟩ := by
    have depth : Program.nesting ⟨[.exprStmt (negated 512)]⟩ = (negated 512).nesting :=
      Nat.max_zero _
    rw [depth, nesting_negated]
    decide
  obtain ⟨errors, failed, -⟩ := (parse_render (writable_of_parse parsed)).2 large
  rw [reread] at failed
  cases failed

end Program

end Monkey
