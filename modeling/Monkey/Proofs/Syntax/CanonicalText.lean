import Monkey.Proofs.Syntax.Canonical

/-! # The canonical text spells its symbols

The canonical text of a tree is cut into the symbols that are meant, whatever stands behind it:
each of its words and numbers is parted from the next by a blank or a sign, and the semicolon
behind an expression statement keeps it from the statement after it. `Expr.spells` and
`Stmt.spells_list` show it by recursion on trees with the laws of `Spells` and `Cuts`;
`Program.symbolsOf_render` is the result for programs. -/

namespace Monkey

variable {text : String} {symbols : List Symbol}

/-! ## Pieces between trees -/

/-- A keyword before a blank is cut off by it: with the blank behind it no more letters can follow.
-/
theorem cuts_keyword {word : String} {kind : TokenKind}
    (mem : (word, kind) ∈ TokenKind.keywords) : Cuts (word ++ " ") [⟨kind, word⟩] :=
  (spells_keyword mem).append cuts_space parts_space

-- A piece is put together before it is held against its text, so that no part is left to guess.
theorem cuts_ifWord : Cuts "if (" [⟨.ifKw, "if"⟩, ⟨.lparen, "("⟩] := by
  have word : Cuts ("if" ++ " ") [⟨.ifKw, "if"⟩] := cuts_keyword (by decide)
  have whole := word.append cuts_lparen
  exact whole

theorem cuts_elseWord : Cuts " else " [⟨.elseKw, "else"⟩] := by
  have word : Cuts ("else" ++ " ") [⟨.elseKw, "else"⟩] := cuts_keyword (by decide)
  have whole := cuts_space.append word
  exact whole

theorem cuts_fnWord : Cuts "fn(" [⟨.fnKw, "fn"⟩, ⟨.lparen, "("⟩] := by
  have word : Spells "fn" [⟨.fnKw, "fn"⟩] := spells_keyword (by decide)
  have parts : Parts "(" := fun _ => breaks_cons.2 (by decide)
  have whole := word.append cuts_lparen parts
  exact whole

theorem cuts_letWord : Cuts "let " [⟨.letKw, "let"⟩] := by
  have word : Cuts ("let" ++ " ") [⟨.letKw, "let"⟩] := cuts_keyword (by decide)
  exact word

theorem cuts_returnWord : Cuts "return " [⟨.returnKw, "return"⟩] := by
  have word : Cuts ("return" ++ " ") [⟨.returnKw, "return"⟩] := cuts_keyword (by decide)
  exact word

theorem cuts_return : Cuts "return;" [⟨.returnKw, "return"⟩, ⟨.semicolon, ";"⟩] := by
  have word : Spells "return" [⟨.returnKw, "return"⟩] := spells_keyword (by decide)
  have whole := word.append cuts_semicolon parts_semicolon
  exact whole

theorem cuts_assign : Cuts " = " [⟨.assign, "="⟩] := by
  intro rest
  show symbolsOf (' ' :: '=' :: ' ' :: rest) = _
  rw [symbolsOf_blank rfl, symbolsOf_sign rfl rfl rfl (by simp), symbolsOf_blank rfl]
  rfl

theorem cuts_closing : Cuts ") " [⟨.rparen, ")"⟩] := by
  have whole := cuts_rparen.append cuts_space
  exact whole

theorem parts_closing : Parts ") " := fun _ => breaks_cons.2 (by decide)

theorem cuts_separator : Cuts ", " [⟨.comma, ","⟩] := by
  have whole := cuts_comma.append cuts_space
  exact whole

theorem parts_separator : Parts ", " := fun _ => breaks_cons.2 (by decide)

theorem cuts_openingBrace : Cuts "\x7b " [⟨.lbrace, "\x7b"⟩] := by
  have whole := cuts_lbrace.append cuts_space
  exact whole

theorem cuts_closingBrace : Cuts " \x7d" [⟨.rbrace, "\x7d"⟩] := by
  have whole := cuts_space.append cuts_rbrace
  exact whole

theorem parts_closingBrace : Parts " \x7d" := fun _ => breaks_cons.2 (by decide)

/-- A binary operator is set off by blanks on both sides. -/
theorem cuts_binary (op : BinaryOp) : Cuts (" " ++ (op.sign ++ " ")) [⟨op.kind, op.sign⟩] := by
  intro rest
  cases op with
  | eq =>
    -- The second character belongs to the lexeme of the first.
    show symbolsOf (' ' :: '=' :: '=' :: ' ' :: rest) = _
    have tail : lexemeTail '=' ('=' :: ' ' :: rest) = ['='] := rfl
    rw [symbolsOf_blank rfl, symbolsOf_lexeme rfl, tail]
    exact congrArg (_ :: ·) (symbolsOf_blank rfl rest)
  | ne =>
    -- The same with an exclamation mark first.
    show symbolsOf (' ' :: '!' :: '=' :: ' ' :: rest) = _
    have tail : lexemeTail '!' ('=' :: ' ' :: rest) = ['='] := rfl
    rw [symbolsOf_blank rfl, symbolsOf_lexeme rfl, tail]
    exact congrArg (_ :: ·) (symbolsOf_blank rfl rest)
  | lt | gt | add | sub | div | mul =>
    exact cuts_space.append ((cuts_sign rfl rfl rfl (by decide)).append cuts_space) rest

/-- A unary operator stands right before a text that cannot be taken for a part of it, as `Opens`
says. -/
theorem cuts_unary (op : UnaryOp) (cuts : Cuts text symbols) (opens : Opens text) :
    Cuts (op.sign ++ text) (⟨op.kind, op.sign⟩ :: symbols) := by
  intro rest
  -- An exclamation mark is cut off because no equals sign follows it.
  obtain ⟨char, chars, eq, other⟩ := opens
  rw [String.toList_append, List.append_assoc, List.cons_append, ← cuts rest, eq, List.cons_append]
  have single : (char :: (chars ++ rest)).head? ≠ some '=' := fun same => other (Option.some.inj same)
  cases op with
  | neg => exact symbolsOf_sign rfl rfl rfl fun _ => single
  | not => exact symbolsOf_sign rfl rfl rfl fun _ => single

/-- Texts with commas between them spell their symbols with commas between them, by induction on the
list. -/
theorem spells_separated {α : Type} {text : α → String} {symbols : α → List Symbol} (items : List α)
    (all : ∀ item ∈ items, Spells (text item) (symbols item)) :
    Spells (", ".intercalate (items.map text)) (separated (items.map symbols)) := by
  match items with
  | [] => exact cuts_empty.spells
  | [last] =>
    rw [List.map_singleton, String.intercalate_singleton]
    exact all last List.mem_cons_self
  | first :: second :: rest =>
    have more := spells_separated (second :: rest) fun item mem => all item (List.mem_cons_of_mem _ mem)
    have head := (all first List.mem_cons_self).append cuts_separator parts_separator
    have whole := head.append_spells more
    simp only [List.map_cons, String.intercalate_cons_cons, separated]
    rw [List.append_assoc] at whole
    exact whole

/-- A block spells its statements between braces, as `Block.enclose` writes it. -/
theorem cuts_enclose {trees : List Stmt}
    (spells : Spells (" ".intercalate (Stmt.texts trees)) (Stmt.listSymbols trees)) :
    Cuts (Block.enclose (Stmt.texts trees))
      (⟨.lbrace, "\x7b"⟩ :: (Stmt.listSymbols trees ++ [⟨.rbrace, "\x7d"⟩])) := by
  cases trees with
  -- An empty block has a single blank between its braces.
  | nil =>
    have whole := cuts_openingBrace.append cuts_rbrace
    exact whole
  | cons first rest =>
    have inside := cuts_openingBrace.append_spells spells
    exact inside.append cuts_closingBrace parts_closingBrace

/-! ## Trees -/

/-- The canonical text of an expression cannot be taken for a part of the sign before it: it starts
with no `=`. -/
theorem Expr.opens : (tree : Expr) → tree.Writable → Opens tree.render
  | .ident name, named => by
    obtain ⟨first, rest, eq⟩ := List.exists_cons_of_ne_nil named.some_letter
    rw [Expr.render]
    refine ⟨first, rest, eq, ?_⟩
    rintro rfl
    have letter := List.all_eq_true.1 named.letters '=' (eq ▸ List.mem_cons_self)
    exact absurd letter (by decide)
  | .int _ literal, written => by
    obtain ⟨first, rest, eq⟩ := List.exists_cons_of_ne_nil written.isDigits.some_digit
    rw [Expr.render]
    refine ⟨first, rest, eq, ?_⟩
    rintro rfl
    have digit := List.all_eq_true.1 written.isDigits.digits '=' (eq ▸ List.mem_cons_self)
    exact absurd digit (by decide)
  | .bool true, _ => ⟨'t', _, rfl, by decide⟩
  | .bool false, _ => ⟨'f', _, rfl, by decide⟩
  | .unary _ _, _ => by
    have opens : Opens "(" := ⟨'(', _, rfl, by decide⟩
    exact ((opens.append _).append _).append _
  | .binary _ _ _, _ => by
    have opens : Opens "(" := ⟨'(', _, rfl, by decide⟩
    exact (((((opens.append _).append _).append _).append _).append _).append _
  | .cond _ _ none, _ => by
    have opens : Opens "if (" := ⟨'i', _, rfl, by decide⟩
    exact ((opens.append _).append _).append _
  | .cond _ _ (some _), _ => by
    have opens : Opens "if (" := ⟨'i', _, rfl, by decide⟩
    exact ((((opens.append _).append _).append _).append _).append _
  | .fn _ _, _ => by
    have opens : Opens "fn(" := ⟨'f', _, rfl, by decide⟩
    exact ((opens.append _).append _).append _
  | .call callee _, ⟨written, _⟩ => (((callee.opens written).append _).append _).append _

mutual

/-- The canonical text of an expression spells its `symbols`, by recursion on the tree. -/
theorem Expr.spells : (tree : Expr) → tree.Writable → Spells tree.render tree.symbols
  | .ident name, named => named.spells
  | .int _ _, written => written.isDigits.spells
  | .bool true, _ => spells_keyword (by decide)
  | .bool false, _ => spells_keyword (by decide)
  | .unary op operand, written => by
    have inner := (operand.spells written).append cuts_rparen parts_rparen
    -- The operand's first character cannot be taken for a part of the sign.
    have signed := cuts_unary op inner ((operand.opens written).append ")")
    have whole := (cuts_lparen.append signed).spells
    rw [Expr.render, String.append_assoc, String.append_assoc]
    exact whole
  | .binary op left right, ⟨leftWritten, rightWritten⟩ => by
    have second := (right.spells rightWritten).append cuts_rparen parts_rparen
    have first := (left.spells leftWritten).append ((cuts_binary op).append second)
      ((parts_space.append _).append _)
    have whole := (cuts_lparen.append first).spells
    simp only [Expr.render, Expr.symbols, String.append_assoc, List.append_assoc] at whole ⊢
    exact whole
  | .cond condition consequence none, ⟨conditionWritten, consequenceWritten⟩ => by
    have block := cuts_enclose (Stmt.spells_list consequence consequenceWritten)
    have test := (condition.spells conditionWritten).append cuts_closing parts_closing
    have whole := ((cuts_ifWord.append test).append block).spells
    simp only [Expr.render, Expr.symbols, String.append_assoc, List.append_assoc] at whole ⊢
    exact whole
  | .cond condition consequence (some alternative),
      ⟨conditionWritten, consequenceWritten, alternativeWritten⟩ => by
    have block := cuts_enclose (Stmt.spells_list consequence consequenceWritten)
    have other := cuts_enclose (Stmt.spells_list alternative alternativeWritten)
    have test := (condition.spells conditionWritten).append cuts_closing parts_closing
    have whole := ((cuts_ifWord.append test).append
      (block.append (cuts_elseWord.append other))).spells
    simp only [Expr.render, Expr.symbols, String.append_assoc, List.append_assoc] at whole ⊢
    exact whole
  | .fn parameters body, ⟨named, bodyWritten⟩ => by
    have block := cuts_enclose (Stmt.spells_list body bodyWritten)
    have names := spells_separated parameters fun name mem => (named name mem).spells
    rw [List.map_id'] at names
    have whole := ((cuts_fnWord.append (names.append cuts_closing parts_closing)).append block).spells
    simp only [Expr.render, Expr.symbols, String.append_assoc, List.append_assoc] at whole ⊢
    exact whole
  | .call callee arguments, ⟨calleeWritten, argumentsWritten⟩ => by
    have list := spells_separated arguments (Expr.spells_each arguments argumentsWritten)
    have inner := cuts_lparen.append (list.append cuts_rparen parts_rparen)
    -- The parenthesis parts the callee from its arguments, so that no blank is needed.
    have parts : Parts "(" := fun _ => breaks_cons.2 (by decide)
    have whole := ((callee.spells calleeWritten).append inner (parts.append _)).spells
    rw [← Expr.texts_eq_map, ← Expr.eachSymbols_eq_map] at whole
    simp only [Expr.render, Expr.symbols, String.append_assoc] at whole ⊢
    exact whole

/-- The canonical texts of expressions spell their symbols, each for itself. -/
theorem Expr.spells_each : (trees : List Expr) → Expr.AllWritable trees →
    ∀ tree ∈ trees, Spells tree.render tree.symbols
  | [], _ => nofun
  | first :: rest, ⟨firstWritten, restWritten⟩ => by
    rw [List.forall_mem_cons]
    exact ⟨first.spells firstWritten, Expr.spells_each rest restWritten⟩

/-- A statement that others follow spells its symbols and a semicolon, and is cut off by it. -/
theorem Stmt.cuts_closed : (tree : Stmt) → tree.Writable →
    Cuts (tree.closed tree.render) (tree.symbols ++ [⟨.semicolon, ";"⟩])
  | .letStmt name value, ⟨named, written⟩ => by
    have parts : Parts " = " := fun _ => breaks_cons.2 (by decide)
    have closed := (value.spells written).append cuts_semicolon parts_semicolon
    have whole := cuts_letWord.append ((named.spells.append cuts_assign parts).append closed)
    simp only [Stmt.closed, Stmt.render, Stmt.symbols, String.append_assoc] at whole ⊢
    exact whole
  | .returnStmt none, _ => cuts_return
  | .returnStmt (some value), written => by
    have closed := (value.spells written).append cuts_semicolon parts_semicolon
    have whole := cuts_returnWord.append closed
    simp only [Stmt.closed, Stmt.render, Stmt.symbols, String.append_assoc] at whole ⊢
    exact whole
  | .exprStmt value, written => (value.spells written).append cuts_semicolon parts_semicolon

/-- The canonical text of statements spells their symbols, by recursion on the list. -/
theorem Stmt.spells_list : (trees : List Stmt) → Stmt.AllWritable trees →
    Spells (" ".intercalate (Stmt.texts trees)) (Stmt.listSymbols trees)
  | [], _ => cuts_empty.spells
  | [last], ⟨written, _⟩ => by
    have closed := (last.cuts_closed written).spells
    simp only [Stmt.texts, Stmt.listSymbols, List.isEmpty_nil, if_true, String.intercalate_singleton,
      List.append_nil]
    -- Only an expression statement is written without its semicolon where it comes last.
    match last with
    | .exprStmt value =>
      rw [Stmt.symbols, Stmt.gap, List.append_nil]
      exact value.spells written
    | .letStmt _ _ | .returnStmt _ => exact closed
  | first :: second :: rest, ⟨firstWritten, restWritten⟩ => by
    have closed := first.cuts_closed firstWritten
    have more := Stmt.spells_list (second :: rest) restWritten
    -- Before another statement each one has its semicolon.
    have gap : first.gap (second :: rest) = [⟨.semicolon, ";"⟩] := by
      cases first <;> rfl
    have whole := (closed.append cuts_space).append_spells more
    have texts : Stmt.texts (first :: second :: rest) =
        first.closed first.render :: Stmt.texts (second :: rest) := by
      rw [Stmt.texts]
      rfl
    obtain ⟨next, others, same⟩ : ∃ next others, Stmt.texts (second :: rest) = next :: others :=
      ⟨_, _, Stmt.texts.eq_def _⟩
    rw [Stmt.listSymbols, gap, texts, same, String.intercalate_cons_cons, ← same, ← List.append_assoc]
    rwa [List.append_nil] at whole

end

/-- **The canonical text of a program spells its symbols**: scanning it gives `Stmt.listSymbols`. -/
theorem Program.symbolsOf_render {program : Program} (written : program.Writable) :
    symbolsOf program.render.toList = Stmt.listSymbols program.statements :=
  (Stmt.spells_list program.statements written).symbolsOf_eq

end Monkey
