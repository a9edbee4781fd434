import Monkey.Proofs.Parse.Rendering
import Monkey.Proofs.Token.Layout

/-! # Sources put together

Two sources are read one after the other just as they are read together, where the first one ends
with a semicolon or spells nothing (`ClosedOff`). A semicolon is half of no longer lexeme, and it
always closes a statement, since no expression and no block ends with one; so neither a lexeme
(`symbolsOf_append`) nor a statement (`Derivation.exists_append`) goes across the seam, and what
is left is `parse_concat`. -/

namespace Monkey

/-! ## Symbols that are closed off -/

/-- Symbols of which the last one, if there is one, is a semicolon. Such a source can be followed by
any other. -/
def ClosedOff (symbols : List Symbol) : Prop :=
  ∀ symbol ∈ symbols.getLast?, symbol.kind = .semicolon

namespace ClosedOff

variable {symbol : Symbol} {left right : List Symbol}

/-- What stands behind other symbols ends as they all do, so it is `ClosedOff` if they are. -/
theorem of_append (closed : ClosedOff (left ++ right)) : ClosedOff right := by
  intro symbol last
  refine closed symbol ?_
  rw [Option.mem_def] at last ⊢
  rw [List.getLast?_append, last, Option.some_or]

/-- What stands behind one symbol ends as all of them do: the case of one symbol before them. -/
theorem of_cons (closed : ClosedOff (symbol :: right)) : ClosedOff right :=
  (show ClosedOff ([symbol] ++ right) from closed).of_append

end ClosedOff

/-! ## Lexemes -/

/-- A lexeme that is a semicolon starts with one: `ofLexeme` gives `semicolon` to no other text. -/
theorem TokenKind.eq_of_ofLexeme_eq_semicolon {first : Char} {rest : List Char}
    (visible : isBlank first = false)
    (closes : ofLexeme (first :: lexemeTail first rest) = .semicolon) : first = ';' := by
  have spelled : Spelled _ (String.ofList (first :: lexemeTail first rest)) :=
    spelled_lexeme visible
  generalize same : String.ofList (first :: lexemeTail first rest) = literal at spelled
  rw [closes] at spelled
  have written : first :: lexemeTail first rest = literal.toList := by
    rw [← same, String.toList_ofList]
  cases spelled with
  | keyword mem =>
    have all : ∀ pair ∈ keywords, pair.2 ≠ .semicolon := by decide
    exact absurd rfl (all _ mem)
  | sign => exact (List.cons.inj written).1

/-- A lexeme that ends before its text does is not carried on by more text behind that: `lexemeTail`
stops at the same character. -/
theorem lexemeTail_append {first : Char} {rest : List Char} (ends : lexemeTail first rest ≠ rest)
    (more : List Char) : lexemeTail first (rest ++ more) = lexemeTail first rest := by
  have run (isOne : Char → Bool) (ends : rest.takeWhile isOne ≠ rest) :
      (rest ++ more).takeWhile isOne = rest.takeWhile isOne := by
    rw [List.takeWhile_append, if_neg]
    intro length
    exact ends ((List.takeWhile_prefix isOne).eq_of_length length)
  unfold lexemeTail at ends ⊢
  by_cases letter : isLetter first = true
  · rw [if_pos letter] at ends
    rw [if_pos letter, if_pos letter, run _ ends]
  · by_cases digit : first.isDigit = true
    · rw [if_neg letter, if_pos digit] at ends
      rw [if_neg letter, if_pos digit, if_neg letter, if_pos digit, run _ ends]
    · rw [if_neg letter, if_neg digit] at ends ⊢
      rw [if_neg letter, if_neg digit]
      cases rest with
      | nil => simp at ends
      | cons second rest => rfl

/-- No symbol of a text is the end of the input: `symbolsOf` lists the tokens before it. -/
theorem kind_ne_eof_of_mem {symbol : Symbol} {chars : List Char} (mem : symbol ∈ symbolsOf chars) :
    symbol.kind ≠ .eof :=
  forall_symbolsOf (·.kind ≠ .eof)
    (fun _ _ visible => (TokenKind.spelled_lexeme visible).ne_eof) mem

/-- A text that is `ClosedOff` spells its symbols whatever follows, by induction along the lexemes:
only the last one touches the other text, and it is a semicolon. -/
theorem symbolsOf_append {chars : List Char} (closed : ClosedOff (symbolsOf chars))
    (more : List Char) : symbolsOf (chars ++ more) = symbolsOf chars ++ symbolsOf more := by
  match chars with
  | [] => rw [symbolsOf_nil, List.nil_append, List.nil_append]
  | first :: rest =>
    cases visible : isBlank first with
    | true =>
      rw [symbolsOf_blank visible] at closed ⊢
      rw [List.cons_append, symbolsOf_blank visible]
      exact symbolsOf_append closed more
    | false =>
      rw [symbolsOf_lexeme visible] at closed ⊢
      by_cases ends : lexemeTail first rest = rest
      · -- The lexeme is the last one, so it is the semicolon, and nothing can carry it on.
        have last : symbolsOf (rest.drop (lexemeTail first rest).length) = [] := by
          rw [ends, List.drop_length, symbolsOf_nil]
        rw [last] at closed ⊢
        obtain rfl := TokenKind.eq_of_ofLexeme_eq_semicolon visible (closed _ rfl)
        have none : rest = [] := ends.symm
        rw [none]
        exact cuts_semicolon more
      · rw [List.cons_append, symbolsOf_lexeme visible, lexemeTail_append ends,
          List.drop_append_of_le_length (lexemeTail_isPrefix first rest).length_le,
          symbolsOf_append closed.of_cons more, List.cons_append]
termination_by chars.length
decreasing_by all_goals simp only [List.length_cons, List.length_drop]; omega

/-! ## Statements -/

/-- Symbols of which the last one, if there is one, is no semicolon. -/
def LeftOpen (symbols : List Symbol) : Prop :=
  ∀ symbol ∈ symbols.getLast?, symbol.kind ≠ .semicolon

namespace LeftOpen

variable {symbol : Symbol} {symbols : List Symbol}

/-- Whatever stands before the last symbols makes no difference to how they end, as long as the last
one is `LeftOpen`. -/
theorem append_cons (before : List Symbol) (other : symbol.kind ≠ .semicolon)
    (rest : LeftOpen symbols) : LeftOpen (before ++ symbol :: symbols) := by
  intro last mem
  rw [List.getLast?_append, List.getLast?_cons, Option.some_or, Option.mem_some_iff] at mem
  subst mem
  cases found : symbols.getLast? with
  | none => exact other
  | some last => exact rest last found

/-- Nor does a symbol before them that is no semicolon itself. -/
theorem cons (other : symbol.kind ≠ .semicolon) (rest : LeftOpen symbols) :
    LeftOpen (symbol :: symbols) :=
  append_cons [] other rest

/-- Where there is no symbol, none is a semicolon. -/
theorem nil : LeftOpen [] := nofun

end LeftOpen

/-- Lists of arguments and statements are closed by what stands around them; all other phrases are
whole. -/
def Phrase.isWhole : Phrase → Bool
  | .arguments _ | .statements _ => false
  | _ => true

namespace Derivation

/-- No expression, no statement and no block ends with a semicolon, by induction on the
`Derivation`: the semicolons stand in the gaps between statements. -/
theorem leftOpen {phrase : Phrase} {symbols : List Symbol} (derivation : Derivation phrase symbols)
    (whole : phrase.isWhole = true) : LeftOpen symbols := by
  induction derivation with
  | name | integer | trueWord | falseWord | returnNone => exact .cons nofun .nil
  | group => exact .append_cons (_ :: _) nofun .nil
  | condThen _ _ _ _ _ _ body => exact .append_cons (_ :: _ :: _) nofun (body rfl)
  | condElse _ _ _ _ _ _ _ _ _ body =>
    exact .cons nofun (.cons nofun (.append_cons _ nofun (.append_cons _ nofun (body rfl))))
  | function _ _ _ _ _ body => exact .append_cons (_ :: _ :: _) nofun (body rfl)
  | call => exact .append_cons _ nofun (.append_cons _ nofun .nil)
  | unary op _ _ operand => exact .cons (by cases op <;> nofun) (operand rfl)
  | binary op _ _ _ _ right => exact .append_cons _ (by cases op <;> nofun) (right rfl)
  | tighter _ inner | exprStmt _ inner => exact inner rfl
  | letStmt _ _ _ _ value => exact .cons nofun (.cons nofun (.cons nofun (value rfl)))
  | returnSome _ _ value => exact .cons nofun (value rfl)
  | block => exact .append_cons (_ :: _) nofun .nil
  | _ => cases whole

/-- Statements that are `ClosedOff` go before any others, and all of them together nest as deep as
the deeper ones. -/
theorem exists_append {trees more : List Stmt} {symbols rest : List Symbol}
    (first : Derivation (.statements trees) symbols) (closed : ClosedOff symbols)
    (second : Derivation (.statements more) rest) :
    ∃ whole : Derivation (.statements (trees ++ more)) (symbols ++ rest),
      whole.nesting = max first.nesting second.nesting := by
  -- Along the first statements, none of which is left open before the others.
  generalize same : Phrase.statements trees = phrase at first
  induction first generalizing trees with
  | noStatement =>
    cases same
    exact ⟨second, (Nat.zero_max _).symm⟩
  | closed semicolon statement _ _ ih =>
    cases same
    obtain ⟨whole, depth⟩ := ih closed.of_append.of_cons rfl
    rw [List.append_assoc, List.cons_append]
    refine ⟨.closed semicolon statement whole, ?_⟩
    rw [nesting, depth, nesting, Nat.max_assoc]
  | @unclosed tree _ symbols others statement _ not_closed stops ended _ ih =>
    cases same
    obtain ⟨whole, depth⟩ := ih closed.of_append rfl
    have some_symbol : others ≠ [] := by
      rintro rfl
      rw [List.append_nil] at closed
      have last := List.getLast?_eq_some_getLast statement.ne_nil
      exact statement.leftOpen rfl _ last (closed _ last)
    have next := nextKind_append some_symbol rest
    rw [List.append_assoc]
    refine ⟨.unclosed statement whole ?_ ?_ ?_, ?_⟩
    · rwa [next]
    · rwa [next]
    · rwa [next]
    · rw [nesting, depth, nesting, Nat.max_assoc]
  | _ => cases same

end Derivation

/-! ## Sources -/

namespace Program

/-- A program that is read from a source has a `Derivation` from the symbols of the source, within
the nesting limit of 1024. -/
theorem exists_derivation_of_parse {source : String} {program : Program}
    (parsed : parse source = .ok program) :
    ∃ derivation : Derivation (.statements program.statements) (symbolsOf source.toList),
      derivation.nesting ≤ 1024 := by
  obtain ⟨clean, rfl⟩ := parse_eq_ok_iff.1 parsed
  have inside : ∀ token ∈ (TokenStream.ofSource source).tokens, token.kind ≠ .eof :=
    fun token mem => kind_ne_eof_of_mem (List.mem_map_of_mem mem)
  have sound : ∃ derivation : Derivation (.statements _) _, Within (some 1024) derivation.nesting :=
    Grammar.parse_sound inside clean
  obtain ⟨derivation, within⟩ := sound
  exact ⟨derivation, Within.some_iff.1 within⟩

/-- **Sources put together**: a source whose last token is a semicolon, if it has a token, is read
before another one as it is read alone, and the statements of both stand in one program. -/
theorem parse_concat {first second : String} {left right : Program}
    (readFirst : parse first = .ok left) (readSecond : parse second = .ok right)
    (closed : ∀ token ∈ (TokenStream.ofSource first).tokens.getLast?, token.kind = .semicolon) :
    parse (first ++ second) = .ok ⟨left.statements ++ right.statements⟩ := by
  obtain ⟨before, beforeDepth⟩ := exists_derivation_of_parse readFirst
  obtain ⟨after, afterDepth⟩ := exists_derivation_of_parse readSecond
  have closed : ClosedOff (symbolsOf first.toList) := by
    rintro symbol last
    rw [← map_symbol_ofSource, List.getLast?_map] at last
    obtain ⟨token, mem, rfl⟩ := Option.map_eq_some_iff.1 last
    exact closed token mem
  have joined := before.exists_append closed after
  rw [← symbolsOf_append closed, ← String.toList_append] at joined
  obtain ⟨whole, depth⟩ := joined
  refine (parse_of_derivation whole).1 ?_
  rw [depth]
  exact Nat.max_le.2 ⟨beforeDepth, afterDepth⟩

end Program

end Monkey
