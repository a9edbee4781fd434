import Monkey.Proofs.Parse.Bounds
import Monkey.Proofs.Token.Layout

/-! # Places make no difference

Two sources with the same symbols are read as the same program (`Grammar.parse_placed`). Their
errors are the same too, but for the places that they report (`ParseError.unplaced`). So the
layout of a source is of no meaning: `Layout.scan_and_parse` says it of the scanner and the parser
together. What is compared is a `Correspondence` of readings, `placed`. -/

namespace Monkey

/-- A token without its place: its kind and its literal, as if it stood at the start. -/
def Token.unplaced (token : Token) : Token := { token with position := .start }

/-- An error without its place, and without the place of the token that it reports. -/
def ParseError.unplaced : ParseError → ParseError
  | unexpectedToken expected found => unexpectedToken expected found.unplaced
  | noOperand found => noOperand found.unplaced
  | nestingTooDeep limit _ => nestingTooDeep limit .start
  | invalidInteger literal _ => invalidInteger literal .start

/-- Tokens with the same symbol differ in their places only, so they are the same when `unplaced`.
-/
theorem Token.unplaced_eq {token other : Token} (same : token.symbol = other.symbol) :
    token.unplaced = other.unplaced := by
  obtain ⟨kind, literal⟩ := Symbol.mk.inj same
  rw [unplaced, unplaced, kind, literal]

/-- The current symbol is the first one of those left, or that of the end of the input. -/
theorem Cursor.current_symbol_eq (cursor : Cursor) :
    cursor.current.symbol = cursor.symbols.headD ⟨.eof, ""⟩ := by
  obtain ⟨⟨tokens, endPosition⟩, opened⟩ := cursor
  cases tokens <;> rfl

namespace Correspondence

/-- Readings of the same symbols, wherever they stand: cursors agree in their symbols and in the
count of open braces, and errors in all but their places. -/
def placed : Correspondence where
  At cursor other := cursor.symbols = other.symbols ∧ cursor.opened = other.opened
  Like token other := token.symbol = other.symbol
  Fails error other := error.unplaced = other.unplaced
  Excused _ := False
  like_current together := by rw [Cursor.current_symbol_eq, together.1, Cursor.current_symbol_eq]
  opened_eq together := together.2
  at_advance {cursor other} together := by
    refine ⟨by rw [Cursor.symbols_advance, Cursor.symbols_advance, together.1], ?_⟩
    show cursor.openedThrough = other.openedThrough
    rw [Cursor.openedThrough, Cursor.openedThrough, Cursor.current_kind, Cursor.current_kind,
      together.1, together.2]
  kind_eq same := (Symbol.mk.inj same).1
  literal_eq same := (Symbol.mk.inj same).2
  unexpectedToken kind same := congrArg (ParseError.unexpectedToken kind) (Token.unplaced_eq same)
  noOperand same := congrArg ParseError.noOperand (Token.unplaced_eq same)
  invalidInteger same := congrArg (ParseError.invalidInteger · .start) (Symbol.mk.inj same).2

/-- The built-in rules look at no place, so grammars with the same limit read alike. -/
theorem grammars_placed (limit : Option Nat) (most : Nat) :
    placed.Grammars most (fun _ _ => True) (.limited limit) (.limited limit) :=
  grammars_limited fun size _ _ _ _ _ => checkDepth_related size _ fun _ => rfl

end Correspondence

open Correspondence

/-- Streams of the same symbols are read alike: the same statements, and the same errors but for
their places. -/
theorem Grammar.parse_placed (limit : Option Nat) {stream stream' : TokenStream}
    (same : stream.tokens.map Token.symbol = stream'.tokens.map Token.symbol) :
    let outcome := (limited limit).parse stream
    let outcome' := (limited limit).parse stream'
    outcome.program = outcome'.program ∧
      outcome.errors.map ParseError.unplaced = outcome'.errors.map ParseError.unplaced := by
  intro outcome outcome'
  have length := congrArg List.length same
  rw [List.length_map, List.length_map] at length
  obtain ⟨_, _, never⟩ | outcomes := parse_related (grammars_placed limit stream.tokens.length)
    trivial ⟨same, rfl⟩ (Nat.le_refl _) (Nat.le_of_eq length)
  · exact never.elim
  · obtain ⟨statements, errors⟩ := outcomes.statements_errors
    have errors : List.Forall₂ Eq (outcome.errors.map ParseError.unplaced)
        (outcome'.errors.map ParseError.unplaced) :=
      List.forall₂_map_left_iff.2 (List.forall₂_map_right_iff.2 errors)
    rw [List.forall₂_eq_eq_eq] at errors
    exact ⟨congrArg Program.mk statements, errors⟩

/-- **The layout of a source is of no meaning**: where blanks part the tokens that would otherwise
run together, scanning gives the tokens that were laid out and then the end of the input for ever,
and sources with the same tokens are read as the same program with the same errors but for their
places. -/
theorem Layout.scan_and_parse :
    (∀ layout : Layout, layout.Blank → (∀ token ∈ layout.tokens, token.symbol.IsScanned) →
      layout.Parted → ∀ extra,
        ((Lexer.ofSource (String.ofList layout.text)).reads
          (layout.tokens.length + extra)).map Token.symbol =
            layout.tokens.map Token.symbol ++ List.replicate extra ⟨.eof, ""⟩) ∧
      ∀ source source' : String,
        (TokenStream.ofSource source).tokens.map Token.symbol =
            (TokenStream.ofSource source').tokens.map Token.symbol →
          let outcome := Grammar.standard.parse (.ofSource source)
          let outcome' := Grammar.standard.parse (.ofSource source')
          outcome.program = outcome'.program ∧
            outcome.errors.map ParseError.unplaced = outcome'.errors.map ParseError.unplaced := by
  refine ⟨fun layout blank spelled parted extra => ?_, fun _ _ => Grammar.parse_placed (some 1024)⟩
  have symbols : (TokenStream.ofSource (String.ofList layout.text)).tokens.map Token.symbol =
      layout.tokens.map Token.symbol := by
    rw [map_symbol_ofSource, String.toList_ofList, Layout.symbolsOf_text blank spelled parted]
  have length := congrArg List.length symbols
  rw [List.length_map, List.length_map] at length
  rw [Lexer.reads_ofSource, ← length, TokenStream.reads_eq, List.map_append, symbols,
    List.map_replicate]
  rfl

/-- With a blank between them `!` and `==` are two tokens, and on two lines they are read as they
are on one. -/
theorem Layout.scan_bang_equal :
    ((Lexer.ofSource "! ==").reads 3).map Token.symbol = [⟨.bang, "!"⟩, ⟨.eq, "=="⟩, ⟨.eof, ""⟩] ∧
      (Grammar.standard.parse (.ofSource "! ==")).errors.map ParseError.unplaced =
        (Grammar.standard.parse (.ofSource "!\n==")).errors.map ParseError.unplaced := by
  let layout : Layout := ⟨[⟨[], .bang, "!", .start⟩, ⟨[' '], .eq, "==", .start⟩], []⟩
  have blank : layout.Blank :=
    ⟨List.forall_mem_cons.2
      ⟨nofun, List.forall_mem_singleton.2 (List.forall_mem_singleton.2 rfl)⟩, nofun⟩
  have spelled : ∀ token ∈ layout.tokens, token.symbol.IsScanned := by
    have both : ∀ token ∈ layout.tokens,
        token.kind ∈ TokenKind.signs ∧ token.literal = token.kind.display := by decide
    rintro ⟨kind, literal, position⟩ mem
    obtain ⟨sign, written⟩ := both _ mem
    obtain rfl : literal = kind.display := written
    exact Symbol.isScanned_iff.2 (.sign sign)
  have parted : layout.Parted :=
    List.isChain_cons_cons.2 ⟨fun _ => List.cons_ne_nil _ _, List.IsChain.singleton _⟩
  exact ⟨Layout.scan_and_parse.1 layout blank spelled parted 1,
    (Layout.scan_and_parse.2 "! ==" "!\n==" (by decide +kernel)).2⟩

end Monkey
