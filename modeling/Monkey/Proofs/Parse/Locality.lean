import Monkey.Proofs.Parse.Bounds
import Monkey.Proofs.Parse.Recovery
import Monkey.Proofs.Parse.Seam
import Monkey.Syntax.Equality

/-! # Parsing is local across a semicolon

A semicolon outside all braces is a `Seam` that no reader and no recovery gets beyond. So what
stands before it is read as if it were the whole stream, however broken it is, and what stands
behind it is read as if nothing stood before. `Twins.recover` and `Twins.parseItem` say it of one
statement, `results_parseFrom_twins` of all of them by induction, and `parse_append` of whole
streams. -/

namespace Monkey

/-- What the statements of a source came to, in order: each of them was read, or it left an error.
`statements` and `errors` are the two halves of this list. -/
def ParseOutcome.results (outcome : ParseOutcome) : List (Option Stmt × Option ParseError) :=
  outcome.items.map fun item => (item.statement?, item.error?)

/-- What was read is what two other outcomes tell one after the other, if its `results` are theirs.
-/
theorem ParseOutcome.append_of_results {whole first second : ParseOutcome}
    (same : whole.results = first.results ++ second.results) :
    whole.statements = first.statements ++ second.statements ∧
      whole.errors = first.errors ++ second.errors := by
  have statements (outcome : ParseOutcome) :
      outcome.statements = outcome.results.filterMap (·.1) := by
    rw [results, List.filterMap_map]
    rfl
  have errors (outcome : ParseOutcome) : outcome.errors = outcome.results.filterMap (·.2) := by
    rw [results, List.filterMap_map]
    rfl
  simp only [statements, errors, same, List.filterMap_append, and_self]

namespace Seam

open ParseM Cursor Parse

variable {seam : Seam} {cursor other : Cursor}

/-- Recovery stops at the `Seam` at the latest, so from twins before it recovery gets to twins
again. -/
theorem Twins.recover (closes : seam.token.kind = .semicolon) (rules : Rules) (floor : Nat)
    (twins : seam.Twins cursor other) :
    seam.Twins (cursor.recover rules floor) (other.recover rules floor) := by
  induction twins with
  | @here cursor other same same' opened left right =>
    have none : seam.left.opened = 0 := by
      obtain opens | ⟨-, none⟩ := seam.kind_token
      · rw [closes] at opens
        cases opens
      · exact none
    -- No brace is open behind the seam, and it is a semicolon.
    have twins : seam.Twins cursor other := .here same same' opened left right
    have count : cursor.openedThrough = 0 := by
      rw [← none, ← left]
      rfl
    have count' : other.openedThrough = 0 := by rw [← twins.openedThrough_eq, count]
    rw [recover_semicolon (by rw [same, closes]) (by omega),
      recover_semicolon (by rw [same', closes]) (by omega)]
    exact twins
  | @before cursor other same inside opened next ih =>
    have twins : seam.Twins cursor other := .before same inside opened next
    have ahead : cursor.peek = other.peek := next.current_eq
    have inside' : ¬cursor.atEnd = true := mt of_decide_eq_true inside
    have inside'' : ¬other.atEnd = true := by rwa [Cursor.atEnd, ← same]
    rw [recover.eq_def rules floor cursor, recover.eq_def rules floor other, if_neg inside',
      if_neg inside'', ← twins.openedThrough_eq, ← same, ← ahead]
    split
    · exact twins
    · split
      · split
        · exact next
        · exact twins
      · exact ih

/-- A statement that starts before the seam is read alike, and so is what recovery leaves: the step
lemma for one item. -/
theorem Twins.parseItem (limit : Option Nat) (recorded : List ParseError) {bound : Nat}
    (closes : seam.token.kind = .semicolon) (twins : seam.Twins cursor other)
    (enough : other.size ≤ bound) :
    ∃ result last last', seam.Twins last last' ∧
      (Grammar.limited limit).parseItem bound recorded cursor = (⟨cursor, result⟩, last.advance) ∧
      (Grammar.limited limit).parseItem bound recorded other =
        (⟨other, result⟩, last'.advance) := by
  have paired : Paired seam (fun _ => False) bound
      ((Context.plain limit recorded).expression bound 0) :=
    { keeps := Context.expression_keeps
      agrees := fun floor _ _ near =>
        (Context.expression_agrees (fun opens => by rw [closes] at opens; cases opens) near).mono }
  have same := statement_agrees paired ⟨twins, enough⟩
  simp only [Grammar.parseItem]
  generalize run : statement (m := ParseM) _ cursor = read at same
  generalize run' : statement (m := ParseM) _ other = read' at same
  cases same with
  | ok near => exact ⟨_, _, _, near.twins, rfl, rfl⟩
  | error places =>
    refine ⟨_, _, _, places.recover closes .builtin cursor.openedThrough, rfl, ?_⟩
    rw [twins.openedThrough_eq]
  | lost gone => exact gone.elim

end Seam

namespace Grammar

open Seam

variable {limit : Option Nat}

/-- From twins before a semicolon on, what is read on the right is what is read on the left, and
behind that what is read from beyond the seam, by induction over the items. -/
theorem results_parseFrom_twins {seam : Seam} (closes : seam.token.kind = .semicolon)
    (ended : seam.left.atEnd = true) {bound : Nat} {recorded : List ParseError}
    {cursor other : Cursor} (twins : seam.Twins cursor other) (enough : other.size ≤ bound) :
    ((limited limit).parseFrom bound recorded other).results =
      ((limited limit).parseFrom bound recorded cursor).results ++
        ((limited limit).parseFrom seam.right.size [] seam.right).results := by
  induction bound generalizing cursor other recorded with
  | zero => exact absurd twins.size_right_lt (by omega)
  | succ bound ih =>
    have inside : ¬cursor.atEnd = true := mt of_decide_eq_true twins.kind_ne_eof
    have inside' : ¬other.atEnd = true := by rwa [Cursor.atEnd, ← twins.current_eq]
    obtain ⟨result, last, last', places, read, read'⟩ :=
      twins.parseItem limit recorded closes enough
    have fewer := size_parseItem_le enough read'
    simp only [ParseOutcome.results, parseFrom_inside inside read, parseFrom_inside inside' read',
      List.map_cons, List.cons_append]
    refine congrArg (List.cons _) ?_
    obtain ⟨left, right⟩ | next := places.advance_cases
    · -- The item was the last one before the seam.
      rw [left, right, parseFrom_atEnd ended, items_parseFrom_congr (right ▸ fewer) (Nat.le_refl _)]
      rfl
    · exact ih next fewer

/-- Tokens that end with a semicolon outside all braces are read as if nothing stood behind them,
and what stands behind them is read as if nothing stood before. -/
theorem results_parse_append {before : List Token} {semicolon : Token}
    (inside : ∀ token ∈ before, token.kind ≠ .eof) (closes : semicolon.kind = .semicolon)
    (outside : openBehind 0 (before ++ [semicolon]) = 0) (endPosition : Position)
    (stream : TokenStream) :
    ((limited limit).parse
        ⟨before ++ semicolon :: stream.tokens, stream.endPosition⟩).results =
      ((limited limit).parse ⟨before ++ [semicolon], endPosition⟩).results ++
        ((limited limit).parse stream).results := by
  let seam : Seam :=
    { token := semicolon
      left := .start ⟨[], endPosition⟩
      right := .start stream
      kind_token := .inr ⟨closes, rfl⟩ }
  have twins : seam.Twins (.start ⟨before ++ [semicolon], endPosition⟩)
      (.start ⟨before ++ semicolon :: stream.tokens, stream.endPosition⟩) :=
    .of_shared inside (by rw [outside]; rfl) (by rw [outside]; rfl)
  let start := Cursor.start ⟨before ++ [semicolon], endPosition⟩
  let bound := (before ++ semicolon :: stream.tokens).length
  have enough : start.size ≤ bound := by
    show (before ++ [semicolon]).length ≤ (before ++ semicolon :: stream.tokens).length
    simp only [List.length_append, List.length_cons, List.length_nil]
    omega
  -- The tokens by themselves have the smaller bound, which changes nothing where it is enough.
  have alone : ((limited limit).parseFrom start.size [] start).results =
      ((limited limit).parseFrom bound [] start).results := by
    rw [ParseOutcome.results, items_parseFrom_congr (Nat.le_refl _) enough]
    rfl
  exact (results_parseFrom_twins closes rfl twins (Nat.le_refl bound)).trans
    (congrArg (· ++ _) alone.symm)

/-- **Parsing and recovery are local across a semicolon** outside all braces, however broken the
tokens before it and behind it are: the statements and the errors of the whole are those of the
tokens up to the semicolon and then those of the tokens behind it. -/
theorem parse_append {tokens : List Token} (inside : ∀ token ∈ tokens, token.kind ≠ .eof)
    (closed : tokens.getLast?.map Token.kind = some .semicolon) (outside : openBehind 0 tokens = 0)
    (endPosition : Position) (stream : TokenStream) :
    let whole := standard.parse ⟨tokens ++ stream.tokens, stream.endPosition⟩
    let first := standard.parse ⟨tokens, endPosition⟩
    let second := standard.parse stream
    whole.program = ⟨first.program.statements ++ second.program.statements⟩ ∧
      whole.errors = first.errors ++ second.errors := by
  intro whole first second
  obtain ⟨semicolon, last, closes⟩ := Option.map_eq_some_iff.1 closed
  obtain ⟨before, rfl⟩ := List.getLast?_eq_some_iff.1 last
  have results : whole.results = first.results ++ second.results := by
    have before_inside : ∀ token ∈ before, token.kind ≠ .eof := fun token mem =>
      inside token (List.mem_append_left _ mem)
    have tokens :
        before ++ [semicolon] ++ stream.tokens = before ++ semicolon :: stream.tokens := by
      rw [List.append_assoc]
      rfl
    simp only [whole, tokens]
    exact results_parse_append before_inside closes outside endPosition stream
  obtain ⟨statements, errors⟩ := ParseOutcome.append_of_results results
  exact ⟨congrArg Program.mk statements, errors⟩

/-- A stray brace and an open parenthesis before a semicolon do not keep the name behind it from
being read. -/
theorem parse_append_name :
    let token (kind : TokenKind) (literal : String) : Token := ⟨kind, literal, .start⟩
    let tokens := [token .rbrace "\x7d", token .lparen "(", token .semicolon ";"]
    let stream : TokenStream := ⟨[token .ident "x"], .start⟩
    let whole := standard.parse ⟨tokens ++ stream.tokens, stream.endPosition⟩
    (∀ token ∈ tokens, token.kind ≠ .eof) ∧
      tokens.getLast?.map Token.kind = some .semicolon ∧ openBehind 0 tokens = 0 ∧
      whole.program = ⟨[.exprStmt (.ident "x")]⟩ ∧
      whole.errors = [.noOperand (token .rbrace "\x7d")] := by
  intro token tokens stream whole
  have inside : ∀ token ∈ tokens, token.kind ≠ .eof := by decide
  obtain ⟨program, errors⟩ := parse_append inside rfl rfl .start stream
  refine ⟨inside, rfl, rfl, program.trans ?_, errors.trans ?_⟩ <;> decide +kernel

end Grammar

end Monkey
