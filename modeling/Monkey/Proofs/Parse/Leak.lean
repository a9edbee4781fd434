import Monkey.Proofs.Parse.Balance
import Monkey.Proofs.Parse.Recognition
import Monkey.Proofs.Parse.Recovery
import Monkey.Syntax.Equality

/-! # How far broken blocks leak

The statements of a program stand outside all braces unless recovery stops within some. It goes by
the count of open braces behind the first token of the broken statement. So where that token is an
opening brace (`ParsedItem.isBrokenBlock`), recovery may stop at the first semicolon behind it,
and what follows is read as a statement of the program. Nothing else leaks: each statement stands
within no more braces than so many broken statements before it opened with their first token
(`opened_start_le`), and it may stand within all of them (`exists_leaking`). Both together are
`standsWithin_le_iff`. -/

namespace Monkey

/-- Whether a statement of the source is broken and its first token opens a brace, so that recovery
takes that brace for one that was open before. -/
def ParsedItem.isBrokenBlock (item : ParsedItem) : Bool :=
  item.error?.isSome && item.start.current.kind = .lbrace

/-- A statement of a source stands within `count` braces if the tokens before its first one leave so
many open, in the sense of `openBehind`. -/
def ParsedItem.StandsWithin (stream : TokenStream) (item : ParsedItem) (count : Nat) : Prop :=
  ∃ passed, stream.tokens = passed ++ item.start.stream.tokens ∧ openBehind 0 passed = count

/-- How many broken statements of a source start with an opening brace: this is all that leaks can
come from. -/
def ParseOutcome.brokenBlocks (outcome : ParseOutcome) : Nat :=
  outcome.items.countP (·.isBrokenBlock)

namespace Cursor

/-- At the end of a stream that holds no token of kind `eof` no token is left. -/
theorem tokens_eq_nil {cursor : Cursor} (inside : ∀ token ∈ cursor.stream.tokens, token.kind ≠ .eof)
    (ended : cursor.atEnd = true) : cursor.stream.tokens = [] := by
  cases tokens : cursor.stream.tokens with
  | nil => rfl
  | cons token rest =>
    have current : cursor.current = token := by
      rw [Cursor.current, TokenStream.head, tokens]
      rfl
    have ends : cursor.current.kind = .eof := of_decide_eq_true ended
    exact absurd (current ▸ ends) (inside token (by rw [tokens]; exact List.mem_cons_self))

/-- Behind the end of such a stream there is nothing, so moving on there changes nothing. -/
theorem atEnd_advance {cursor : Cursor} (inside : ∀ token ∈ cursor.stream.tokens, token.kind ≠ .eof)
    (ended : cursor.atEnd = true) : cursor.advance.atEnd = true := by
  refine atEnd_of_size_eq_zero ?_
  rw [size_advance, size, tokens_eq_nil inside ended]
  rfl

/-- The tokens from a place on are among those of the stream, so what holds of all of them holds
there. -/
theorem Reaches.tokens_subset {cursor place : Cursor} (reaches : cursor.Reaches place) :
    place.stream.tokens ⊆ cursor.stream.tokens := by
  obtain ⟨passed, tokens, -⟩ := reaches.exists_passed
  rw [tokens]
  exact List.subset_append_right passed _

end Cursor

namespace Grammar

open ParseM Parse Cursor

variable {limit : Option Nat} {bound : Nat} {recorded : List ParseError} {cursor : Cursor}

/-- Behind a statement that is read as many braces are open as before it. Behind a broken one there
may be one more, if it starts with an opening brace; or the input has ended. This is the step lemma
for one item. -/
theorem opened_parseItem_le (inside : ∀ token ∈ cursor.stream.tokens, token.kind ≠ .eof)
    {item : ParsedItem} {next : Cursor}
    (read : (limited limit).parseItem bound recorded cursor = (item, next)) :
    item.start = cursor ∧ (next.atEnd = true ∨
      next.opened ≤ cursor.opened + if item.isBrokenBlock then 1 else 0) := by
  have forward :=
    statement_forward (Context.expression_forward ⟨limited limit, recorded⟩ bound 0) cursor
  have keeps := statement_keeps
    (Context.expression_keeps : KeepsBraces ((Context.plain limit recorded).expression bound 0))
    (rfl : cursor.opened = cursor.opened)
  rw [parseItem] at read
  split at read
  · -- a statement that is read keeps the count
    next run =>
    cases read
    refine ⟨rfl, .inr (Nat.le_trans (Nat.le_of_eq ?_) (Nat.le_add_right _ _))⟩
    exact (keeps.of_ok run).level
  · -- recovery goes by the count behind the first token
    next error place run =>
    rw [run] at forward
    cases read
    refine ⟨rfl, ?_⟩
    obtain ended | le := recover_cases (limited limit).rules cursor.openedThrough place
    · have way : cursor.Reaches (place.recover (limited limit).rules cursor.openedThrough) :=
        forward.trans (reaches_recover ..)
      exact .inl (atEnd_advance (fun token mem => inside token (way.tokens_subset mem)) ended)
    · refine .inr (Nat.le_trans le ?_)
      simp only [ParsedItem.isBrokenBlock, ParsedItem.error?, Option.isSome_some, Bool.true_and,
        decide_eq_true_eq]
      split
      · next opens => rw [openedThrough, opens]; exact Nat.le_refl _
      · next other => exact braces_le other

/-- Every statement stands within no more braces than so many broken ones before it open with their
first token, by induction over the items before it. -/
theorem opened_start_le (inside : ∀ token ∈ cursor.stream.tokens, token.kind ≠ .eof)
    {before after : List ParsedItem} {item : ParsedItem}
    (items : ((limited limit).parseFrom bound recorded cursor).items = before ++ item :: after) :
    cursor.Reaches item.start ∧
      item.start.opened ≤ cursor.opened + before.countP (·.isBrokenBlock) := by
  induction bound generalizing recorded cursor before with
  | zero => simp [parseFrom] at items
  | succ bound ih =>
    by_cases ended : cursor.atEnd = true
    · rw [parseFrom_atEnd ended] at items
      simp at items
    · cases read : (limited limit).parseItem (bound + 1) recorded cursor with
      | mk first next =>
        rw [parseFrom_inside ended read] at items
        -- The first item adds at most one brace, and only if it is itself a broken block.
        obtain ⟨start, count⟩ := opened_parseItem_le inside read
        obtain ⟨rfl, same⟩ | ⟨others, rfl, rest⟩ := List.cons_eq_append_iff.1 items
        · cases same
          rw [start]
          exact ⟨.here, Nat.le_refl _⟩
        · obtain ⟨place, reaches, rfl⟩ := reaches_parseItem read
          have way : cursor.Reaches place.advance := reaches.further
          obtain ⟨further, le⟩ := ih (fun token mem => inside token (way.tokens_subset mem)) rest
          refine ⟨way.trans further, ?_⟩
          rw [List.countP_cons]
          obtain ended | count := count
          · rw [parseFrom_atEnd ended] at rest
            simp at rest
          · omega

/-- Some broken statements that start with an opening brace, `{;` each, and behind them one that can
be read. -/
def leaking : Nat → List Token
  | 0 => [⟨.returnKw, "return", .start⟩]
  | count + 1 => ⟨.lbrace, "\x7b", .start⟩ :: ⟨.semicolon, ";", .start⟩ :: leaking count

/-- None of the tokens of `leaking` ends the input, so they make a stream that can be lexed. -/
theorem kind_ne_eof_of_mem_leaking (count : Nat) : ∀ token ∈ leaking count, token.kind ≠ .eof := by
  induction count with
  | zero => decide
  | succ count ih =>
    rw [leaking, List.forall_mem_cons, List.forall_mem_cons]
    exact ⟨by decide, by decide, ih⟩

/-- A statement that is only an opening brace ends with the semicolon behind it, and one brace more
is open there. -/
theorem parseItem_leaking (count : Nat) (endPosition : Position) (opened : Nat) :
    standard.parseItem bound recorded ⟨⟨leaking (count + 1), endPosition⟩, opened⟩ =
      (⟨⟨⟨leaking (count + 1), endPosition⟩, opened⟩,
          .error (.noOperand ⟨.lbrace, "\x7b", .start⟩)⟩,
        ⟨⟨leaking count, endPosition⟩, opened + 1⟩) := by
  let start : Cursor := ⟨⟨leaking (count + 1), endPosition⟩, opened⟩
  have run : statement (Context.expression ⟨standard, recorded⟩ bound 0) start =
      .error (.noOperand ⟨.lbrace, "\x7b", .start⟩) start := by
    cases bound <;> rfl
  have stops : start.recover standard.rules start.openedThrough = start.advance := by
    have opens : start.current.kind = .lbrace := rfl
    have semicolon : start.advance.current.kind = .semicolon := rfl
    rw [recover_plain (by rw [opens]; decide) (by rw [opens]; decide) (by rw [opens]; decide)]
    exact recover_semicolon semicolon (Nat.le_refl _)
  rw [parseItem, run]
  exact congrArg (fun place : Cursor => (_, place.advance)) stops

/-- Each of the broken statements of `leaking` lets the others leak by one brace more, by induction
on their number. -/
theorem exists_leaking (count : Nat) (endPosition : Position) (opened : Nat)
    (enough : (leaking count).length ≤ bound) :
    ∃ broken item,
      (standard.parseFrom bound recorded ⟨⟨leaking count, endPosition⟩, opened⟩).items =
        broken ++ [item] ∧
      broken.countP (·.isBrokenBlock) = count ∧ item.result = .ok (.returnStmt none) ∧
      item.start = ⟨⟨leaking 0, endPosition⟩, opened + count⟩ := by
  obtain ⟨bound, rfl⟩ : ∃ fewer, bound = fewer + 1 :=
    ⟨bound - 1, by cases count <;> simp only [leaking, List.length_cons] at enough <;> omega⟩
  induction count generalizing bound recorded opened with
  | zero =>
    refine ⟨[], ⟨⟨⟨leaking 0, endPosition⟩, opened⟩, .ok (.returnStmt none)⟩, ?_, rfl, rfl, rfl⟩
    have read : standard.parseItem (bound + 1) recorded ⟨⟨leaking 0, endPosition⟩, opened⟩ =
        (⟨⟨⟨leaking 0, endPosition⟩, opened⟩, .ok (.returnStmt none)⟩,
          ⟨⟨[], endPosition⟩, opened⟩) := rfl
    have inside : ¬(⟨⟨leaking 0, endPosition⟩, opened⟩ : Cursor).atEnd = true := nofun
    rw [parseFrom_inside inside read, parseFrom_atEnd rfl]
    rfl
  | succ count ih =>
    have less : (leaking count).length ≤ bound := by
      simp only [leaking, List.length_cons] at enough
      omega
    obtain ⟨bound, rfl⟩ : ∃ fewer, bound = fewer + 1 :=
      ⟨bound - 1, by cases count <;> simp only [leaking, List.length_cons] at less <;> omega⟩
    have inside : ¬(⟨⟨leaking (count + 1), endPosition⟩, opened⟩ : Cursor).atEnd = true := nofun
    rw [parseFrom_inside inside (parseItem_leaking count endPosition opened)]
    obtain ⟨broken, item, items, number, result, start⟩ := ih _ _ less
    refine ⟨_ :: broken, item, by rw [items]; rfl, ?_, result, ?_⟩
    · rw [List.countP_cons, number]
      rfl
    · rw [start, Nat.add_assoc, Nat.add_comm 1]

/-- **How far broken blocks leak**: the statements of a program stand outside all braces as far as
no broken statement starts with an opening brace. They stand within at most `depth` braces, whatever
the stream, just when at most so many broken statements of it start with one. -/
theorem standsWithin_le_iff (few depth : Nat) :
    (∀ stream : TokenStream, (∀ token ∈ stream.tokens, token.kind ≠ .eof) →
      (standard.parse stream).brokenBlocks ≤ few →
      ∀ item ∈ (standard.parse stream).items, item.statement?.isSome →
        ∃ count ≤ depth, item.StandsWithin stream count) ↔ few ≤ depth := by
  constructor
  · intro bounded
    let stream : TokenStream := ⟨leaking few, .start⟩
    obtain ⟨broken, item, items, number, result, start⟩ :
        ∃ broken item, (standard.parse stream).items = broken ++ [item] ∧ _ :=
      exists_leaking few .start 0 (Nat.le_refl _)
    have read : item.statement? = some (.returnStmt none) := by
      rw [ParsedItem.statement?, result]
      rfl
    have sound : item.isBrokenBlock = false := by
      rw [ParsedItem.isBrokenBlock, ParsedItem.error?, result]
      rfl
    have blocks : (standard.parse stream).brokenBlocks = few := by
      rw [ParseOutcome.brokenBlocks, items, List.countP_append, number, List.countP_singleton,
        sound]
      rfl
    have mem : item ∈ (standard.parse stream).items := by
      rw [items]
      exact List.mem_append_right _ List.mem_cons_self
    obtain ⟨count, le, passed, tokens, opened⟩ := bounded stream (kind_ne_eof_of_mem_leaking few)
      (Nat.le_of_eq blocks) item mem (by rw [read]; rfl)
    -- The tokens before the last statement leave all the braces open.
    obtain ⟨way, -⟩ := opened_start_le (kind_ne_eof_of_mem_leaking few) items
    obtain ⟨passed', tokens', opened'⟩ := way.exists_passed
    obtain rfl := List.append_cancel_right (tokens.symm.trans tokens')
    have number : item.start.opened = 0 + few := by rw [start]
    have number' : item.start.opened = openBehind 0 passed := opened'
    omega
  · rintro le stream inside blocks item mem -
    obtain ⟨before, after, items⟩ := List.append_of_mem mem
    obtain ⟨way, count⟩ := opened_start_le inside items
    obtain ⟨passed, tokens, opened⟩ := way.exists_passed
    refine ⟨_, ?_, passed, tokens, opened.symm⟩
    have fewer : before.countP (·.isBrokenBlock) ≤ (standard.parse stream).brokenBlocks := by
      rw [ParseOutcome.brokenBlocks, items, List.countP_append]
      exact Nat.le_add_right _ _
    have none_open : (start stream).opened = 0 := rfl
    omega

/-- Of the tokens of a block `a; b` on its own the name `b` is read as a statement of the program,
though it stands within the block. -/
theorem parse_block_leaks :
    let token (kind : TokenKind) (literal : String) : Token := ⟨kind, literal, .start⟩
    let inner := [token .ident "a", token .semicolon ";", token .ident "b"]
    let stream : TokenStream := ⟨token .lbrace "\x7b" :: (inner ++ [token .rbrace "\x7d"]), .start⟩
    Balanced inner ∧ (∀ token ∈ stream.tokens, token.kind ≠ .eof) ∧
      (standard.parse stream).program = ⟨[.exprStmt (.ident "b")]⟩ ∧
      ∃ item ∈ (standard.parse stream).items,
        item.statement?.isSome ∧ ¬item.StandsWithin stream 0 := by
  intro token inner stream
  refine ⟨.plain rfl (.plain rfl (.plain rfl .nil)), by decide, by decide +kernel, ?_⟩
  let rest := [token .ident "b", token .rbrace "\x7d"]
  have found : (standard.parse stream).items.any fun item =>
      item.statement?.isSome && item.start.stream.tokens = rest := by decide +kernel
  obtain ⟨item, mem, both⟩ := List.any_eq_true.1 found
  obtain ⟨read, tokens⟩ := Bool.and_eq_true_iff.1 both
  refine ⟨item, mem, read, ?_⟩
  rintro ⟨passed, same, opened⟩
  rw [of_decide_eq_true tokens] at same
  have passed_eq : [token .lbrace "\x7b", token .ident "a", token .semicolon ";"] = passed :=
    List.append_cancel_right same
  rw [← passed_eq] at opened
  cases opened

end Grammar

end Monkey
