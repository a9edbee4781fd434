import Monkey.Proofs.Syntax.Derivation
import Monkey.Proofs.Token.Braces

/-! # What is left of a statement

The symbols of a statement from some place within it up to the semicolon that closes it
(`StatementRest`). As far as they stand outside all braces they hold no other semicolon, and a
closing brace is followed by a symbol that goes on with the statement (`TokenKind.followsBlock`).
`Derivation.statementRest` says by induction on derivations that what is derived is such a rest. -/

namespace Monkey

/-- The kinds of token that may follow a block within a statement, or close the statement. -/
def TokenKind.followsBlock : TokenKind → Bool
  | .elseKw | .semicolon | .rparen | .comma => true
  | kind => kind.carriesOn

/-- The kinds of token that neither are braces nor close a statement or end the input. -/
def TokenKind.isPlain : TokenKind → Bool
  | .lbrace | .rbrace | .semicolon | .eof => false
  | _ => true

/-- No plain kind is one that is not, so a plain token is neither a brace nor a semicolon. -/
theorem TokenKind.ne_of_isPlain {kind other : TokenKind} (plain : kind.isPlain = true)
    (never : other.isPlain = false) : kind ≠ other := by
  rintro rfl
  rw [never] at plain
  cases plain

/-- Plain kinds are not counted by `Cursor.braces`, so the number of open braces stays. -/
theorem TokenKind.braces_of_isPlain {kind : TokenKind} (plain : kind.isPlain = true)
    (opened : Nat) :
    Cursor.braces opened kind = opened := by
  cases kind <;> first | rfl | cases plain

/-- What is left of a statement from a place at which a number of braces are open. -/
inductive StatementRest : Nat → List Symbol → Prop where
  /-- The semicolon that closes the statement, outside all braces. -/
  | semicolon (literal : String) : StatementRest 0 [⟨.semicolon, literal⟩]
  /-- Any symbol behind which a brace is open, a semicolon included. -/
  | within {opened : Nat} {symbol : Symbol} {rest : List Symbol} :
      symbol.kind ≠ .eof → 0 < Cursor.braces opened symbol.kind →
      StatementRest (Cursor.braces opened symbol.kind) rest → StatementRest opened (symbol :: rest)
  /-- Any plain symbol, which goes on with the statement. -/
  | plain {opened : Nat} (symbol : Symbol) {rest : List Symbol} :
      symbol.kind.isPlain = true → StatementRest opened rest → StatementRest opened (symbol :: rest)
  /-- A closing brace behind which the statement goes on or ends. -/
  | closing {opened : Nat} (literal : String) {rest : List Symbol} :
      (nextKind rest).followsBlock = true → StatementRest (opened - 1) rest →
      StatementRest opened (⟨.rbrace, literal⟩ :: rest)

namespace StatementRest

variable {opened : Nat} {rest : List Symbol}

/-- What is left behind more symbols of the statement, with the braces that these leave open. -/
theorem behind {before : List Token} (left : StatementRest opened (before.map Token.symbol ++ rest))
    (some_symbol : rest ≠ []) : StatementRest (openBehind opened before) rest := by
  induction before generalizing opened with
  | nil => exact left
  | cons token before ih =>
    rw [openBehind_cons]
    refine ih ?_
    generalize same : (token :: before).map Token.symbol ++ rest = symbols at left
    cases left with
    | semicolon literal =>
      -- Nothing is left behind the semicolon.
      have none := (List.cons.inj same).2
      exact absurd (List.append_eq_nil_iff.1 none).2 some_symbol
    | within _ _ left =>
      obtain ⟨rfl, rfl⟩ := List.cons.inj same
      exact left
    | plain _ plain left =>
      obtain ⟨rfl, rfl⟩ := List.cons.inj same
      rwa [show Cursor.braces opened token.kind = opened from
        TokenKind.braces_of_isPlain plain opened]
    | closing literal _ left =>
      obtain ⟨head, rfl⟩ := List.cons.inj same
      rw [show token.kind = .rbrace from congrArg Symbol.kind head]
      exact left

/-- A statement is closed by one semicolon: a second one belongs to no statement. -/
theorem not_two_semicolons (first second : String) :
    ¬StatementRest opened [⟨.semicolon, first⟩, ⟨.semicolon, second⟩] := by
  intro left
  cases left with
  | plain _ plain => cases plain
  | within _ inside left =>
    -- The second one closes no statement where a brace is open.
    cases left with
    | semicolon => exact absurd inside (Nat.lt_irrefl 0)
    | within _ _ left => cases left
    | plain _ plain => cases plain

end StatementRest

/-- Whether a phrase is part of one statement: all phrases but lists of statements are. -/
def Phrase.isSingle : Phrase → Bool
  | .statements _ => false
  | _ => true

/-- Names and commas may stand before what is left of a statement, for they are plain. -/
theorem NameList.statementRest {names : List String} {symbols rest : List Symbol} {opened : Nat}
    (list : NameList names symbols) (left : StatementRest opened rest) :
    StatementRest opened (symbols ++ rest) := by
  induction list with
  | none => exact left
  | last name => exact .plain _ rfl left
  | more name comma _ ih => exact .plain _ rfl (.plain _ rfl ih)

/-- The symbols of a phrase may stand before what is left of a statement. Outside all braces the
phrase is part of that statement, and it is followed as a block is. -/
theorem Derivation.statementRest {phrase : Phrase} {symbols : List Symbol}
    (derivation : Derivation phrase symbols) {opened : Nat} {rest : List Symbol}
    (left : StatementRest opened rest)
    (goes : 0 < opened ∨ (phrase.isSingle = true ∧ (nextKind rest).followsBlock = true)) :
    StatementRest opened (symbols ++ rest) := by
  -- By induction on the derivation. What follows an inner phrase is a symbol of the rule, or what
  -- follows the whole.
  induction derivation generalizing opened rest with
  | name | integer | trueWord | falseWord | returnNone => exact .plain _ rfl left
  | noArgument | noStatement => exact left
  | group opening closing _ ih =>
    have inner := ih (.plain ⟨.rparen, closing⟩ rfl left) (.inr ⟨rfl, rfl⟩)
    simpa using StatementRest.plain ⟨.lparen, opening⟩ rfl inner
  | condThen word opening closing _ _ testIh bodyIh =>
    have test := testIh (.plain ⟨.rparen, closing⟩ rfl (bodyIh left goes)) (.inr ⟨rfl, rfl⟩)
    have whole := StatementRest.plain ⟨.ifKw, word⟩ rfl (.plain ⟨.lparen, opening⟩ rfl test)
    simpa using whole
  | condElse word opening closing other _ _ _ testIh bodyIh otherIh =>
    have body := bodyIh (.plain ⟨.elseKw, other⟩ rfl (otherIh left goes)) (.inr ⟨rfl, rfl⟩)
    have test := testIh (.plain ⟨.rparen, closing⟩ rfl body) (.inr ⟨rfl, rfl⟩)
    have whole := StatementRest.plain ⟨.ifKw, word⟩ rfl (.plain ⟨.lparen, opening⟩ rfl test)
    simpa using whole
  | function word opening closing names _ bodyIh =>
    have parameters := names.statementRest (.plain ⟨.rparen, closing⟩ rfl (bodyIh left goes))
    have whole := StatementRest.plain ⟨.fnKw, word⟩ rfl (.plain ⟨.lparen, opening⟩ rfl parameters)
    simpa using whole
  | call opening closing _ _ calleeIh argumentsIh =>
    have inner := argumentsIh (.plain ⟨.rparen, closing⟩ rfl left) (.inr ⟨rfl, rfl⟩)
    have whole := calleeIh (.plain ⟨.lparen, opening⟩ rfl inner) (.inr ⟨rfl, rfl⟩)
    simpa using whole
  | unary op sign _ ih => exact .plain ⟨op.kind, sign⟩ (by cases op <;> rfl) (ih left goes)
  | binary op sign _ _ leftIh rightIh =>
    have right := StatementRest.plain ⟨op.kind, sign⟩ (by cases op <;> rfl) (rightIh left goes)
    rw [List.append_assoc]
    exact leftIh right (.inr ⟨rfl, by cases op <;> rfl⟩)
  | tighter _ ih | lastArgument _ ih | exprStmt _ ih => exact ih left goes
  | moreArguments comma _ _ firstIh moreIh =>
    rw [List.append_assoc]
    exact firstIh (.plain ⟨.comma, comma⟩ rfl (moreIh left goes)) (.inr ⟨rfl, rfl⟩)
  | letStmt _ _ _ _ ih => exact .plain _ rfl (.plain _ rfl (.plain _ rfl (ih left goes)))
  | returnSome _ _ ih => exact .plain _ rfl (ih left goes)
  | closed semicolon _ _ firstIh restIh =>
    -- Statements in turn stand within a block.
    obtain inside | ⟨single, -⟩ := goes
    · rw [List.append_assoc]
      exact firstIh (.within nofun inside (restIh left (.inl inside))) (.inl inside)
    · cases single
  | unclosed _ _ _ _ _ firstIh restIh =>
    obtain inside | ⟨single, -⟩ := goes
    · rw [List.append_assoc]
      exact firstIh (restIh left (.inl inside)) (.inl inside)
    · cases single
  | block opening closing _ ih =>
    have behind : StatementRest (opened + 1) (⟨.rbrace, closing⟩ :: rest) := by
      obtain inside | ⟨-, follows⟩ := goes
      · exact .within nofun inside left
      · exact .closing closing follows left
    have inner := ih behind (.inl (Nat.succ_pos opened))
    have whole : StatementRest opened (⟨.lbrace, opening⟩ :: _) :=
      .within nofun (Nat.succ_pos opened) inner
    simpa using whole

end Monkey
