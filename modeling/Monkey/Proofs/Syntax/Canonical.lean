import Monkey.Proofs.Parse.Tightness
import Monkey.Proofs.Syntax.Writable
import Monkey.Syntax.Render

/-! # The canonical text of a tree

The symbols of the canonical text (`Expr.symbols`, `Stmt.symbols`), and how deep it nests
(`Expr.nesting`, `Program.nesting`). The parentheses around every operator start a count of their
own, so the depth is a function of the tree, and not the one of the text that the tree was read
from. That the symbols derive the tree, and nest as deep as said, is proved by recursion on trees,
from `Expr.exists_derivation` to `Stmt.exists_derivation_list`. -/

namespace Monkey

/-- Lists of symbols with commas between them, as in the lists of parameters and of arguments. -/
def separated : List (List Symbol) → List Symbol
  | [] => []
  | [last] => last
  | first :: second :: rest => first ++ ⟨.comma, ","⟩ :: separated (second :: rest)

/-- What the canonical text puts behind a statement: a semicolon, unless it is an expression and the
last of its list. -/
def Stmt.gap : Stmt → List Stmt → List Symbol
  | .exprStmt _, [] => []
  | _, _ => [⟨.semicolon, ";"⟩]

mutual

/-- The symbols of the canonical text of an expression, with parentheses around every operator. -/
def Expr.symbols : Expr → List Symbol
  | .ident name => [⟨.ident, name⟩]
  | .int _ literal => [⟨.int, literal⟩]
  | .bool true => [⟨.trueKw, "true"⟩]
  | .bool false => [⟨.falseKw, "false"⟩]
  | .unary op operand =>
    ⟨.lparen, "("⟩ :: ((⟨op.kind, op.sign⟩ :: operand.symbols) ++ [⟨.rparen, ")"⟩])
  | .binary op left right =>
    ⟨.lparen, "("⟩ :: ((left.symbols ++ ⟨op.kind, op.sign⟩ :: right.symbols) ++ [⟨.rparen, ")"⟩])
  | .cond condition consequence none =>
    ⟨.ifKw, "if"⟩ :: ⟨.lparen, "("⟩ :: (condition.symbols ++ ⟨.rparen, ")"⟩ ::
      ⟨.lbrace, "\x7b"⟩ :: (Stmt.listSymbols consequence ++ [⟨.rbrace, "\x7d"⟩]))
  | .cond condition consequence (some alternative) =>
    ⟨.ifKw, "if"⟩ :: ⟨.lparen, "("⟩ :: (condition.symbols ++ ⟨.rparen, ")"⟩ ::
      ((⟨.lbrace, "\x7b"⟩ :: (Stmt.listSymbols consequence ++ [⟨.rbrace, "\x7d"⟩])) ++
        ⟨.elseKw, "else"⟩ ::
          ⟨.lbrace, "\x7b"⟩ :: (Stmt.listSymbols alternative ++ [⟨.rbrace, "\x7d"⟩])))
  | .fn parameters body =>
    ⟨.fnKw, "fn"⟩ :: ⟨.lparen, "("⟩ ::
      (separated (parameters.map fun name => [⟨.ident, name⟩]) ++ ⟨.rparen, ")"⟩ ::
        ⟨.lbrace, "\x7b"⟩ :: (Stmt.listSymbols body ++ [⟨.rbrace, "\x7d"⟩]))
  | .call callee arguments =>
    callee.symbols ++ ⟨.lparen, "("⟩ ::
      (separated (Expr.eachSymbols arguments) ++ [⟨.rparen, ")"⟩])

/-- The symbols of the canonical texts of some expressions, one list for each. -/
def Expr.eachSymbols : List Expr → List (List Symbol)
  | [] => []
  | first :: rest => first.symbols :: Expr.eachSymbols rest

/-- The symbols of the canonical text of a statement, without the semicolon that may close it. -/
def Stmt.symbols : Stmt → List Symbol
  | .letStmt name value =>
    ⟨.letKw, "let"⟩ :: ⟨.ident, name⟩ :: ⟨.assign, "="⟩ :: value.symbols
  | .returnStmt none => [⟨.returnKw, "return"⟩]
  | .returnStmt (some value) => ⟨.returnKw, "return"⟩ :: value.symbols
  | .exprStmt value => value.symbols

/-- The symbols of the canonical text of some statements, each with its `gap` behind it. -/
def Stmt.listSymbols : List Stmt → List Symbol
  | [] => []
  | first :: rest => first.symbols ++ (first.gap rest ++ Stmt.listSymbols rest)

end

/-- How many levels the canonical text of an expression takes by itself: one, and one for each call
around its operand. -/
def Expr.spine : Expr → Nat
  | .call callee _ => callee.spine + 1
  | _ => 1

mutual

/-- How deep the canonical text of an expression nests: the levels of the expression itself, those
of its operators' parentheses, and those of the expressions in it. -/
def Expr.nesting : Expr → Nat
  | .ident _ | .int _ _ | .bool _ => 1
  | .unary _ operand => operand.nesting + 2
  | .binary _ left right => max left.nesting (left.spine + 1 + right.nesting) + 1
  | .cond condition consequence none => max condition.nesting (Stmt.listNesting consequence) + 1
  | .cond condition consequence (some alternative) =>
    max (max condition.nesting (Stmt.listNesting consequence)) (Stmt.listNesting alternative) + 1
  | .fn _ body => Stmt.listNesting body + 1
  | .call callee arguments =>
    max callee.nesting (callee.spine + 1 + Expr.listNesting arguments)

/-- How deep the canonical texts of some expressions nest: as deep as the deepest of them. -/
def Expr.listNesting : List Expr → Nat
  | [] => 0
  | first :: rest => max first.nesting (Expr.listNesting rest)

/-- How deep the canonical text of a statement nests: as deep as the expression in it, if there is
one. -/
def Stmt.nesting : Stmt → Nat
  | .letStmt _ value => value.nesting
  | .returnStmt none => 0
  | .returnStmt (some value) => value.nesting
  | .exprStmt value => value.nesting

/-- How deep the canonical text of some statements nests: as deep as the deepest of them. -/
def Stmt.listNesting : List Stmt → Nat
  | [] => 0
  | first :: rest => max first.nesting (Stmt.listNesting rest)

end

/-- How deep the canonical text of a program nests. Up to the nesting limit it is read back. -/
def Program.nesting (program : Program) : Nat := Stmt.listNesting program.statements

@[simp] theorem Expr.eachSymbols_eq_map (expressions : List Expr) :
    Expr.eachSymbols expressions = expressions.map Expr.symbols := by
  induction expressions with
  | nil => rfl
  | cons first rest ih => rw [Expr.eachSymbols, ih, List.map_cons]

/-! ## The derivation of the canonical text -/

/-- Names with commas between them are a `NameList`. -/
theorem nameList_separated (names : List String) :
    NameList names (separated (names.map fun name => [⟨.ident, name⟩])) := by
  match names with
  | [] => exact .none
  | [name] => exact .last name
  | name :: second :: rest => exact .more name "," (nameList_separated (second :: rest))

/-- An expression in parentheses needs no looser level than calls do, and nests one level deeper. -/
theorem Derivation.grouped {level : Level} {tree : Expr} {symbols : List Symbol}
    (derivation : Derivation (.expression level tree) symbols) :
    ∃ whole : Derivation (.expression .call tree)
        (⟨.lparen, "("⟩ :: (symbols ++ [⟨.rparen, ")"⟩])),
      whole.spine = 1 ∧ whole.nesting = derivation.nesting + 1 := by
  have loose : Level.equality.rank ≤ level.rank := by
    cases level <;> decide
  obtain ⟨inner, -, depth⟩ := derivation.loosen loose
  exact ⟨.group "(" ")" inner, rfl, congrArg (· + 1) depth⟩

/-- An expression that needs no looser level than calls do has a derivation of any `Level`, and just
as deep. -/
theorem Derivation.exists_of_call {tree : Expr} {symbols : List Symbol} {spine nesting : Nat}
    (found : ∃ derivation : Derivation (.expression .call tree) symbols,
      derivation.spine = spine ∧ derivation.nesting = nesting) (level : Level) :
    ∃ derivation : Derivation (.expression level tree) symbols,
      derivation.spine = spine ∧ derivation.nesting = nesting := by
  obtain ⟨derivation, rfl, rfl⟩ := found
  exact derivation.loosen level.rank_le

mutual

/-- The symbols of the canonical text of an expression have a derivation that needs no looser level
than calls do, as deep as `Expr.nesting` says. -/
theorem Expr.exists_derivation : (tree : Expr) → tree.Writable →
    ∃ derivation : Derivation (.expression .call tree) tree.symbols,
      derivation.spine = tree.spine ∧ derivation.nesting = tree.nesting
  | .ident name, _ => ⟨.name name, rfl, rfl⟩
  | .int _ _, written => ⟨.integer (written.isDigits.read_eq_some_iff.2 written), rfl, rfl⟩
  | .bool true, _ => ⟨.trueWord "true", rfl, rfl⟩
  | .bool false, _ => ⟨.falseWord "false", rfl, rfl⟩
  | .unary op operand, written => by
    obtain ⟨inner, -, depth⟩ :=
      Derivation.exists_of_call (operand.exists_derivation written) .unary
    -- The rendering stands in parentheses, and these count as a level of their own.
    obtain ⟨whole, spine, nesting⟩ := (Derivation.unary op op.sign inner).grouped
    refine ⟨whole, spine, nesting.trans ?_⟩
    rw [Derivation.nesting, depth, Expr.nesting]
  | .binary op left right, ⟨leftWritten, rightWritten⟩ => by
    obtain ⟨first, leftSpine, leftDepth⟩ :=
      Derivation.exists_of_call (left.exists_derivation leftWritten) op.level
    obtain ⟨second, -, rightDepth⟩ :=
      Derivation.exists_of_call (right.exists_derivation rightWritten) op.level.tighter
    obtain ⟨whole, spine, nesting⟩ := (Derivation.binary op op.sign first second).grouped
    refine ⟨whole, spine, nesting.trans ?_⟩
    rw [Derivation.nesting, leftSpine, leftDepth, rightDepth, Expr.nesting]
  | .cond condition consequence none, ⟨conditionWritten, consequenceWritten⟩ => by
    obtain ⟨test, -, depth⟩ :=
      Derivation.exists_of_call (condition.exists_derivation conditionWritten) .equality
    obtain ⟨body, bodyDepth⟩ := Stmt.exists_derivation_list consequence consequenceWritten
    refine ⟨.condThen "if" "(" ")" test (.block "\x7b" "\x7d" body), rfl, ?_⟩
    show max test.nesting body.nesting + 1 = _
    rw [depth, bodyDepth, Expr.nesting]
  | .cond condition consequence (some alternative),
      ⟨conditionWritten, consequenceWritten, alternativeWritten⟩ => by
    obtain ⟨test, -, depth⟩ :=
      Derivation.exists_of_call (condition.exists_derivation conditionWritten) .equality
    obtain ⟨body, bodyDepth⟩ := Stmt.exists_derivation_list consequence consequenceWritten
    obtain ⟨other, otherDepth⟩ := Stmt.exists_derivation_list alternative alternativeWritten
    refine ⟨.condElse "if" "(" ")" "else" test (.block "\x7b" "\x7d" body)
      (.block "\x7b" "\x7d" other), rfl, ?_⟩
    show max (max test.nesting body.nesting) other.nesting + 1 = _
    rw [depth, bodyDepth, otherDepth, Expr.nesting]
  | .fn parameters body, ⟨_, bodyWritten⟩ => by
    obtain ⟨block, depth⟩ := Stmt.exists_derivation_list body bodyWritten
    refine ⟨.function "fn" "(" ")" (nameList_separated parameters) (.block "\x7b" "\x7d" block),
      rfl, ?_⟩
    show block.nesting + 1 = _
    rw [depth, Expr.nesting]
  | .call callee arguments, ⟨calleeWritten, argumentsWritten⟩ => by
    obtain ⟨function, spine, depth⟩ := callee.exists_derivation calleeWritten
    obtain ⟨list, listDepth⟩ := Expr.exists_derivation_arguments arguments argumentsWritten
    refine ⟨.call "(" ")" function list, congrArg (· + 1) spine, ?_⟩
    show max function.nesting (function.spine + 1 + list.nesting) = _
    rw [spine, depth, listDepth, Expr.nesting]

/-- The symbols of the canonical texts of arguments have a derivation, as deep as `Expr.listNesting`
says. -/
theorem Expr.exists_derivation_arguments : (trees : List Expr) → Expr.AllWritable trees →
    ∃ derivation : Derivation (.arguments trees) (separated (Expr.eachSymbols trees)),
      derivation.nesting = Expr.listNesting trees
  | [], _ => ⟨.noArgument, rfl⟩
  | [last], written => by
    obtain ⟨argument, -, depth⟩ :=
      Derivation.exists_of_call (last.exists_derivation written.1) .equality
    refine ⟨.lastArgument argument, ?_⟩
    show argument.nesting = _
    rw [depth, Expr.listNesting, Expr.listNesting, Nat.max_zero]
  | first :: second :: rest, ⟨firstWritten, restWritten⟩ => by
    obtain ⟨argument, -, depth⟩ :=
      Derivation.exists_of_call (first.exists_derivation firstWritten) .equality
    obtain ⟨more, moreDepth⟩ := Expr.exists_derivation_arguments (second :: rest) restWritten
    refine ⟨.moreArguments "," argument more, ?_⟩
    show max argument.nesting more.nesting = max first.nesting (Expr.listNesting (second :: rest))
    rw [depth, moreDepth]

/-- The symbols of the canonical text of a statement have a derivation, as deep as `Stmt.nesting`
says. -/
theorem Stmt.exists_derivation : (tree : Stmt) → tree.Writable →
    ∃ derivation : Derivation (.statement tree) tree.symbols, derivation.nesting = tree.nesting
  | .letStmt name value, ⟨_, written⟩ => by
    obtain ⟨inner, -, depth⟩ :=
      Derivation.exists_of_call (value.exists_derivation written) .equality
    exact ⟨.letStmt "let" name "=" inner, depth⟩
  | .returnStmt none, _ => ⟨.returnNone "return", rfl⟩
  | .returnStmt (some value), written => by
    obtain ⟨inner, -, depth⟩ :=
      Derivation.exists_of_call (value.exists_derivation written) .equality
    exact ⟨.returnSome "return" inner, depth⟩
  | .exprStmt value, written => by
    obtain ⟨inner, -, depth⟩ :=
      Derivation.exists_of_call (value.exists_derivation written) .equality
    exact ⟨.exprStmt inner, depth⟩

/-- The symbols of the canonical text of some statements have a derivation, as deep as
`Stmt.listNesting` says. -/
theorem Stmt.exists_derivation_list : (trees : List Stmt) → Stmt.AllWritable trees →
    ∃ derivation : Derivation (.statements trees) (Stmt.listSymbols trees),
      derivation.nesting = Stmt.listNesting trees
  | [], _ => ⟨.noStatement, rfl⟩
  | first :: rest, ⟨firstWritten, restWritten⟩ => by
    obtain ⟨statement, depth⟩ := first.exists_derivation firstWritten
    obtain ⟨more, moreDepth⟩ := Stmt.exists_derivation_list rest restWritten
    rw [Stmt.listNesting, ← depth, ← moreDepth, Stmt.listSymbols]
    -- Only an expression statement that comes last stands without a semicolon.
    match first, rest with
    | .exprStmt value, [] =>
      cases more
      exact ⟨.unclosed statement .noStatement nofun rfl nofun, rfl⟩
    | .exprStmt value, second :: rest => exact ⟨.closed ";" statement more, rfl⟩
    | .letStmt name value, rest => exact ⟨.closed ";" statement more, rfl⟩
    | .returnStmt value, rest => exact ⟨.closed ";" statement more, rfl⟩

end

end Monkey
