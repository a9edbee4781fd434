import Monkey.Proofs.Token.Symbol
import Monkey.Syntax.Basic

/-! # Derivations

The grammar of the language over symbols, independent of how it is read. Expressions are
stratified by the operators that they may show outside parentheses: each `Level` takes the
operators of its own, grouped to the left, between expressions of the tighter levels. A
`Derivation` is a derivation tree; its leaves are the symbols that spell a tree.

A derivation also says how deep a reader of its symbols has to go. Every operand and every
operator takes an expression one level deeper: `Derivation.spine` counts those of the expression
itself and `Derivation.nesting` the deepest level, inner expressions included. -/

namespace Monkey

/-- The levels of expressions, from the loosest operators to the tightest. An expression of a level
shows operators of that level or a tighter one. -/
inductive Level where
  /-- Equality and inequality, `==` and `!=`. -/
  | equality
  /-- Less and greater, `<` and `>`. -/
  | comparison
  /-- Sums and differences, `+` and `-`. -/
  | sum
  /-- Products and quotients, `*` and `/`. -/
  | product
  /-- Unary operators, `!` and `-`. -/
  | unary
  /-- Calls, and operands without an operator. -/
  | call
  deriving DecidableEq, Repr

/-- The next tighter level; there is none beyond calls, which are their own. -/
def Level.tighter : Level → Level
  | equality => comparison
  | comparison => sum
  | sum => product
  | product => unary
  | unary | call => call

/-- The kind of token that a unary operator is written with, told from the sign `-` of differences
by its place. -/
def UnaryOp.kind : UnaryOp → TokenKind
  | neg => .minus
  | not => .bang

/-- The kind of token that a binary operator is written with. -/
def BinaryOp.kind : BinaryOp → TokenKind
  | eq => .eq
  | ne => .notEq
  | lt => .lt
  | gt => .gt
  | add => .plus
  | sub => .minus
  | div => .slash
  | mul => .asterisk

/-- The `Level` that a binary operator belongs to. -/
def BinaryOp.level : BinaryOp → Level
  | eq | ne => .equality
  | lt | gt => .comparison
  | add | sub => .sum
  | mul | div => .product

/-- The kinds of token that carry on the expression before them: binary operators and the opening
parenthesis of a call. -/
def TokenKind.carriesOn : TokenKind → Bool
  | .eq | .notEq | .lt | .gt | .plus | .minus | .asterisk | .slash | .lparen => true
  | _ => false

/-- The kinds of token that an expression starts with, and no others. -/
def TokenKind.startsOperand : TokenKind → Bool
  | .ident | .int | .trueKw | .falseKw | .bang | .minus | .lparen | .ifKw | .fnKw => true
  | _ => false

/-- The kinds of token that a statement starts with: two keywords, and all that an expression starts
with. -/
def TokenKind.startsStatement : TokenKind → Bool
  | .letKw | .returnKw => true
  | kind => kind.startsOperand

/-- A kind that an expression starts with is none of the others, so it is neither a closing one nor
a separator. -/
theorem TokenKind.ne_of_startsOperand {kind other : TokenKind} (starts : kind.startsOperand = true)
    (never : other.startsOperand = false) : kind ≠ other := by
  rintro rfl
  rw [never] at starts
  cases starts

/-- Names with commas between them, as parameters are written. -/
inductive NameList : List String → List Symbol → Prop where
  /-- No name. -/
  | none : NameList [] []
  /-- The last name. -/
  | last (name : String) : NameList [name] [⟨.ident, name⟩]
  /-- A name, and more of them behind a comma. -/
  | more (name comma : String) {second : String} {names : List String} {symbols : List Symbol} :
      NameList (second :: names) symbols →
      NameList (name :: second :: names) (⟨.ident, name⟩ :: ⟨.comma, comma⟩ :: symbols)

/-- What the grammar derives, with the tree that a derivation builds. -/
inductive Phrase where
  /-- An expression of a level. -/
  | expression (level : Level) (tree : Expr)
  /-- Expressions with commas between them. -/
  | arguments (trees : List Expr)
  /-- A statement without the semicolon that may close it. -/
  | statement (tree : Stmt)
  /-- Statements one after the other. -/
  | statements (trees : List Stmt)
  /-- Statements between braces. -/
  | block (trees : Block)

/-- **Derivation trees.** Signs and keywords are told by their kind alone, whatever their literal.
-/
inductive Derivation : Phrase → List Symbol → Type where
  /-- A name. -/
  | name (name : String) : Derivation (.expression .call (.ident name)) [⟨.ident, name⟩]
  /-- An integer literal that denotes a signed 64-bit integer. -/
  | integer {value : Int64} {literal : String} (read : Decimal.read? literal = some value) :
      Derivation (.expression .call (.int value literal)) [⟨.int, literal⟩]
  /-- The keyword `true`. -/
  | trueWord (word : String) : Derivation (.expression .call (.bool true)) [⟨.trueKw, word⟩]
  /-- The keyword `false`. -/
  | falseWord (word : String) : Derivation (.expression .call (.bool false)) [⟨.falseKw, word⟩]
  /-- Any expression in parentheses; they leave no trace in the tree. -/
  | group (left right : String) {tree : Expr} {inner : List Symbol} :
      Derivation (.expression .equality tree) inner →
      Derivation (.expression .call tree) (⟨.lparen, left⟩ :: (inner ++ [⟨.rparen, right⟩]))
  /-- `if`, a condition in parentheses, and a block. -/
  | condThen (word left right : String) {condition : Expr} {consequence : Block}
      {test body : List Symbol} :
      Derivation (.expression .equality condition) test →
      Derivation (.block consequence) body →
      Derivation (.expression .call (.cond condition consequence none))
        (⟨.ifKw, word⟩ :: ⟨.lparen, left⟩ :: (test ++ ⟨.rparen, right⟩ :: body))
  /-- The same with `else` and a second block. -/
  | condElse (word left right other : String) {condition : Expr} {consequence alternative : Block}
      {test body otherBody : List Symbol} :
      Derivation (.expression .equality condition) test →
      Derivation (.block consequence) body →
      Derivation (.block alternative) otherBody →
      Derivation (.expression .call (.cond condition consequence (some alternative)))
        (⟨.ifKw, word⟩ :: ⟨.lparen, left⟩ ::
          (test ++ ⟨.rparen, right⟩ :: (body ++ ⟨.elseKw, other⟩ :: otherBody)))
  /-- `fn`, names in parentheses, and a block. -/
  | function (word left right : String) {parameters : List String} {body : Block}
      {names block : List Symbol} :
      NameList parameters names →
      Derivation (.block body) block →
      Derivation (.expression .call (.fn parameters body))
        (⟨.fnKw, word⟩ :: ⟨.lparen, left⟩ :: (names ++ ⟨.rparen, right⟩ :: block))
  /-- An expression of the tightest level and arguments in parentheses. -/
  | call (left right : String) {callee : Expr} {arguments : List Expr}
      {function inner : List Symbol} :
      Derivation (.expression .call callee) function →
      Derivation (.arguments arguments) inner →
      Derivation (.expression .call (.call callee arguments))
        (function ++ ⟨.lparen, left⟩ :: (inner ++ [⟨.rparen, right⟩]))
  /-- A unary operator before an expression of its own level or a tighter one. -/
  | unary (op : UnaryOp) (sign : String) {operand : Expr} {symbols : List Symbol} :
      Derivation (.expression .unary operand) symbols →
      Derivation (.expression .unary (.unary op operand)) (⟨op.kind, sign⟩ :: symbols)
  /-- A binary operator between an expression of its level and one of a tighter level. -/
  | binary (op : BinaryOp) (sign : String) {left right : Expr} {first second : List Symbol} :
      Derivation (.expression op.level left) first →
      Derivation (.expression op.level.tighter right) second →
      Derivation (.expression op.level (.binary op left right)) (first ++ ⟨op.kind, sign⟩ :: second)
  /-- An expression of a tighter level. -/
  | tighter {level : Level} {tree : Expr} {symbols : List Symbol} :
      Derivation (.expression level.tighter tree) symbols →
      Derivation (.expression level tree) symbols
  /-- No argument. -/
  | noArgument : Derivation (.arguments []) []
  /-- The last argument. -/
  | lastArgument {tree : Expr} {symbols : List Symbol} :
      Derivation (.expression .equality tree) symbols →
      Derivation (.arguments [tree]) symbols
  /-- An argument, and more of them behind a comma. -/
  | moreArguments (comma : String) {tree second : Expr} {trees : List Expr}
      {symbols rest : List Symbol} :
      Derivation (.expression .equality tree) symbols →
      Derivation (.arguments (second :: trees)) rest →
      Derivation (.arguments (tree :: second :: trees)) (symbols ++ ⟨.comma, comma⟩ :: rest)
  /-- `let`, a name, `=` and an expression. -/
  | letStmt (word name sign : String) {value : Expr} {symbols : List Symbol} :
      Derivation (.expression .equality value) symbols →
      Derivation (.statement (.letStmt name value))
        (⟨.letKw, word⟩ :: ⟨.ident, name⟩ :: ⟨.assign, sign⟩ :: symbols)
  /-- `return` alone. -/
  | returnNone (word : String) : Derivation (.statement (.returnStmt none)) [⟨.returnKw, word⟩]
  /-- `return` and an expression. -/
  | returnSome (word : String) {value : Expr} {symbols : List Symbol} :
      Derivation (.expression .equality value) symbols →
      Derivation (.statement (.returnStmt (some value))) (⟨.returnKw, word⟩ :: symbols)
  /-- An expression. -/
  | exprStmt {value : Expr} {symbols : List Symbol} :
      Derivation (.expression .equality value) symbols →
      Derivation (.statement (.exprStmt value)) symbols
  /-- No statement. -/
  | noStatement : Derivation (.statements []) []
  /-- A statement closed by a semicolon, and the statements after it. -/
  | closed (semicolon : String) {tree : Stmt} {trees : List Stmt} {symbols rest : List Symbol} :
      Derivation (.statement tree) symbols →
      Derivation (.statements trees) rest →
      Derivation (.statements (tree :: trees)) (symbols ++ ⟨.semicolon, semicolon⟩ :: rest)
  /-- A statement that no semicolon closes, and the statements after it. Nothing may follow that
  would close it or carry it on, and a `return` without a value stands only before a closing brace
  or the end. -/
  | unclosed {tree : Stmt} {trees : List Stmt} {symbols rest : List Symbol} :
      Derivation (.statement tree) symbols →
      Derivation (.statements trees) rest →
      nextKind rest ≠ .semicolon →
      (nextKind rest).carriesOn = false →
      (tree = .returnStmt none → nextKind rest = .rbrace ∨ nextKind rest = .eof) →
      Derivation (.statements (tree :: trees)) (symbols ++ rest)
  /-- Statements between braces. -/
  | block (left right : String) {trees : List Stmt} {symbols : List Symbol} :
      Derivation (.statements trees) symbols →
      Derivation (.block trees) (⟨.lbrace, left⟩ :: (symbols ++ [⟨.rbrace, right⟩]))

namespace Derivation

variable {phrase : Phrase} {symbols : List Symbol}

/-- How many levels an expression takes by itself: one for its first operand, and one for each
operator that follows. -/
def spine : {phrase : Phrase} → {symbols : List Symbol} → Derivation phrase symbols → Nat
  | _, _, call _ _ callee _ => callee.spine + 1
  | _, _, binary _ _ left _ => left.spine + 1
  | _, _, tighter inner => inner.spine
  | _, _, _ => 1

/-- The deepest level that a phrase takes; the inner expressions of an operand start from the level
of the operand, and those of an operator from the level of the operator. -/
def nesting : {phrase : Phrase} → {symbols : List Symbol} → Derivation phrase symbols → Nat
  | _, _, name _ | _, _, integer _ | _, _, trueWord _ | _, _, falseWord _ => 1
  | _, _, group _ _ inner => inner.nesting + 1
  | _, _, condThen _ _ _ condition consequence => max condition.nesting consequence.nesting + 1
  | _, _, condElse _ _ _ _ condition consequence alternative =>
    max (max condition.nesting consequence.nesting) alternative.nesting + 1
  | _, _, function _ _ _ _ body => body.nesting + 1
  | _, _, call _ _ callee arguments =>
    max callee.nesting (callee.spine + 1 + arguments.nesting)
  | _, _, unary _ _ operand => operand.nesting + 1
  | _, _, binary _ _ left right => max left.nesting (left.spine + 1 + right.nesting)
  | _, _, tighter inner => inner.nesting
  | _, _, noArgument => 0
  | _, _, lastArgument argument => argument.nesting
  | _, _, moreArguments _ argument more => max argument.nesting more.nesting
  | _, _, letStmt _ _ _ value => value.nesting
  | _, _, returnNone _ => 0
  | _, _, returnSome _ value => value.nesting
  | _, _, exprStmt value => value.nesting
  | _, _, noStatement => 0
  | _, _, closed _ statement rest => max statement.nesting rest.nesting
  | _, _, unclosed statement rest _ _ _ => max statement.nesting rest.nesting
  | _, _, block _ _ statements => statements.nesting

/-- Symbols that start as an expression does are there: `nextKind` of none is the end of the input.
-/
theorem ne_nil_of_startsOperand (starts : (nextKind symbols).startsOperand = true) :
    symbols ≠ [] := by
  rintro rfl
  exact absurd starts (by decide)

/-- An expression starts with a token that an operand starts with, be it a sign, a parenthesis or
the operand. -/
theorem startsOperand {level : Level} {tree : Expr}
    (derivation : Derivation (.expression level tree) symbols) :
    (nextKind symbols).startsOperand = true := by
  -- The leftmost path of the derivation leads to an operand; the constructors of other phrases do
  -- not arise.
  generalize same : Phrase.expression level tree = phrase at derivation
  induction derivation generalizing level tree with
  | name | integer | trueWord | falseWord | group | condThen | condElse | function => rfl
  | unary op => cases op <;> rfl
  | call left right callee arguments ih =>
    have starts := ih rfl
    rwa [nextKind_append (ne_nil_of_startsOperand starts)]
  | binary op sign left right ih =>
    have starts := ih rfl
    rwa [nextKind_append (ne_nil_of_startsOperand starts)]
  | tighter inner ih => exact ih rfl
  | _ => cases same

/-- Arguments, if there are any, start as the first of them does. -/
theorem startsArguments {tree : Expr} {trees : List Expr}
    (derivation : Derivation (.arguments (tree :: trees)) symbols) :
    (nextKind symbols).startsOperand = true := by
  cases derivation with
  | lastArgument argument => exact argument.startsOperand
  | moreArguments comma argument =>
    rw [nextKind_append (ne_nil_of_startsOperand argument.startsOperand)]
    exact argument.startsOperand

/-- A statement starts with a keyword of its own or as an expression does. -/
theorem startsStatement {tree : Stmt} (derivation : Derivation (.statement tree) symbols) :
    (nextKind symbols).startsStatement = true := by
  cases derivation with
  | letStmt | returnNone | returnSome => rfl
  | exprStmt value =>
    -- What starts an expression starts a statement.
    have starts := value.startsOperand
    revert starts
    cases nextKind symbols <;> decide

/-- A statement has a symbol at least, so reading one takes a token. -/
theorem ne_nil {tree : Stmt} (derivation : Derivation (.statement tree) symbols) :
    symbols ≠ [] := by
  rintro rfl
  have starts := derivation.startsStatement
  cases starts

/-- Statements, if there are any, start as the first of them does. -/
theorem startsStatements {trees : List Stmt} (derivation : Derivation (.statements trees) symbols) :
    symbols = [] ∨ (nextKind symbols).startsStatement = true := by
  cases derivation with
  | noStatement => exact .inl rfl
  | closed _ first =>
    rw [nextKind_append first.ne_nil]
    exact .inr first.startsStatement
  | unclosed first =>
    rw [nextKind_append first.ne_nil]
    exact .inr first.startsStatement

/-! ### Levels -/

/-- The levels that an expression takes by itself, its `spine`, are among those that it takes. -/
theorem spine_le_nesting {level : Level} {tree : Expr} {symbols : List Symbol}
    (derivation : Derivation (.expression level tree) symbols) :
    derivation.spine ≤ derivation.nesting := by
  generalize same : Phrase.expression level tree = phrase at derivation
  induction derivation generalizing level tree with
  | name | integer | trueWord | falseWord => exact Nat.le_refl 1
  | group | condThen | condElse | function | unary => exact Nat.le_add_left 1 _
  -- An operator starts its inner expressions from the level that it takes itself.
  | call | binary => exact Nat.le_trans (Nat.le_add_right ..) (Nat.le_max_right ..)
  | tighter _ ih => exact ih rfl
  | _ => cases same

/-- Every level is taken by a symbol of its own, so `nesting` is no more than the number of symbols.
-/
theorem nesting_le_length {phrase : Phrase} {symbols : List Symbol}
    (derivation : Derivation phrase symbols) : derivation.nesting ≤ symbols.length := by
  -- By induction on the derivation: each rule that counts a level has a sign or a word of its own.
  induction derivation with
  | name | integer | trueWord | falseWord => exact Nat.le_refl 1
  | noArgument | returnNone | noStatement => exact Nat.zero_le _
  | call _ _ callee _ =>
    have := callee.spine_le_nesting
    simp only [nesting, List.length_cons, List.length_append, List.length_nil]
    omega
  | binary _ _ left _ =>
    have := left.spine_le_nesting
    simp only [nesting, List.length_cons, List.length_append]
    omega
  | tighter _ ih | lastArgument _ ih | exprStmt _ ih => exact ih
  | _ =>
    simp only [nesting, List.length_cons, List.length_append, List.length_nil]
    omega

end Derivation

end Monkey
