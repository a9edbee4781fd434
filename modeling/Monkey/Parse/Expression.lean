import Monkey.Parse.Rules
import Monkey.Token.Cursor

/-! # Reading expressions and statements

Expressions are read operand first: after an operand, `Context.operators` takes operators as long as
they bind tighter than the place where the expression stands asks for. Every operand and every
operator takes the expression one level deeper; the levels of an operand's inner expressions start
from its own.

Each reader starts at the first token of what it reads and stops at the last. A reader that fails
leaves the cursor where it failed, which is where recovery goes on.

The readers are written once, for every monad `m` with a cursor and errors that `Reads` tokens: what
such a monad decides for itself is how the depth of the current token is known (`Reads.descend`) and
what a reader does that has used its bound up (`Reads.spent`). Programs are read in `ParseM`. There
a bound is at least the number of tokens left, so a reader that has used it up is at the end of the
input, and it answers as it does there; the recursion over whole expressions is
`Context.expression`. -/

namespace Monkey

/-- **What the readers leave open** about the monad they run in. -/
class Reads (m : Type → Type) where
  /-- Goes one level deeper than a depth, at a token, as far as a limit allows. A monad that counts
  its depth by itself need not look at the depth it is told. -/
  descend (limit : Option Nat) (depth : Nat) (token : Token) : m Unit
  /-- What a reader does that has used its bound up, if at the end of the input it does `atEnd`. -/
  spent {α : Type} (atEnd : m α) : m α

namespace Parse

variable {m : Type → Type} [Monad m] [MonadStateOf Cursor m] [MonadExceptOf ParseError m]

/-! ## Steps -/

/-- The current token. -/
def current : m Token := return (← get).current

/-- The token after the current one. -/
def peek : m Token := return (← get).peek

/-- Moves on to the next token. -/
def advance : m Unit := modify Cursor.advance

/-- Moves on to the next token, which has to be of a certain kind; any other one is reported as a
`ParseError.unexpectedToken`, and reading does not move. -/
def expect (kind : TokenKind) : m Token := do
  let found ← peek
  if found.kind = kind then
    advance
    return found
  else
    throw (.unexpectedToken kind found)

/-- Moves on to the next token if it is a semicolon. -/
def skipSemicolon : m Unit := do
  if (← peek).kind = .semicolon then
    advance

/-- Fails with `ParseError.nestingTooDeep` where a token stands as deep as a limit allows, so that
nothing may nest one level deeper. -/
def checkDepth (limit : Option Nat) (depth : Nat) (token : Token) : m Unit :=
  match limit with
  | some limit =>
    if limit ≤ depth then throw (.nestingTooDeep limit token.position) else return ()
  | none => return ()

variable [Reads m]

/-! ## Statements and blocks -/

/-- Reads a statement: `let`, `return`, or an expression. A return without a value stands only
before a semicolon, a closing brace or the end. -/
@[specialize]
def statement (expression : Precedence → m Expr) : m Stmt := do
  match (← current).kind with
  | .letKw =>
    let name ← expect .ident
    let _ ← expect .assign
    advance
    let value ← expression .lowest
    skipSemicolon
    return .letStmt name.literal value
  | .returnKw =>
    match (← peek).kind with
    | .semicolon =>
      advance
      return .returnStmt none
    | .rbrace | .eof => return .returnStmt none
    | _ =>
      advance
      let value ← expression .lowest
      skipSemicolon
      return .returnStmt (some value)
  | _ =>
    let value ← expression .lowest
    skipSemicolon
    return .exprStmt value

/-- Reads statements up to a closing brace, which stays the current token. The end of the input
before it is reported. -/
@[specialize]
def statements (expression : Precedence → m Expr) : Nat → m Block
  | 0 => Reads.spent do throw (.unexpectedToken .rbrace (← current))
  | bound + 1 => do
    let token ← current
    match token.kind with
    | .rbrace => return []
    | .eof => throw (.unexpectedToken .rbrace token)
    | _ =>
      let first ← statement expression
      advance
      return first :: (← statements expression bound)

/-- Reads a block, which starts after the current token with an opening brace: its `statements` up
to the closing one. -/
@[specialize]
def block (expression : Precedence → m Expr) (bound : Nat) : m Block := do
  let _ ← expect .lbrace
  advance
  statements expression bound

/-! ## Parameters and arguments -/

/-- Reads the parameters after a comma, and the closing parenthesis. -/
@[specialize]
def moreParameters : Nat → m (List String)
  | 0 => Reads.spent do
    let _ ← expect .rparen
    return []
  | bound + 1 => do
    if (← peek).kind = .comma then
      advance
      let name ← expect .ident
      return name.literal :: (← moreParameters bound)
    else
      let _ ← expect .rparen
      return []

/-- Reads a list of parameters, the parentheses included: none, or a name and `moreParameters`. -/
@[specialize]
def parameters (bound : Nat) : m (List String) := do
  let _ ← expect .lparen
  if (← peek).kind = .rparen then
    advance
    return []
  else
    let name ← expect .ident
    return name.literal :: (← moreParameters bound)

/-- Reads the arguments after a comma, and the closing parenthesis. -/
@[specialize]
def moreArguments (expression : Precedence → m Expr) : Nat → m (List Expr)
  | 0 => Reads.spent do
    let _ ← expect .rparen
    return []
  | bound + 1 => do
    if (← peek).kind = .comma then
      advance
      advance
      let argument ← expression .lowest
      return argument :: (← moreArguments expression bound)
    else
      let _ ← expect .rparen
      return []

/-- Reads a list of arguments behind its opening parenthesis, the current token: none, or an
expression and `moreArguments`. -/
@[specialize]
def arguments (expression : Precedence → m Expr) (bound : Nat) : m (List Expr) := do
  if (← peek).kind = .rparen then
    advance
    return []
  else
    advance
    let argument ← expression .lowest
    return argument :: (← moreArguments expression bound)

/-! ## Operands -/

/-- Reads an integer literal, the current token; one that `Decimal.read?` refuses is reported. -/
def integer (token : Token) : m Expr :=
  match Decimal.read? token.literal with
  | some value => return .int value token.literal
  | none => throw (.invalidInteger token.literal token.position)

/-- Reads a unary operator, the current token, and its operand, above the precedence of unary
operators. -/
@[specialize]
def unary (expression : Precedence → m Expr) (op : UnaryOp) : m Expr := do
  advance
  return .unary op (← expression .unary)

/-- Reads an expression in parentheses; the parentheses leave no trace in the tree. -/
@[specialize]
def group (expression : Precedence → m Expr) : m Expr := do
  advance
  let inner ← expression .lowest
  let _ ← expect .rparen
  return inner

/-- Reads a conditional behind its keyword, the current token. -/
@[specialize]
def conditional (expression : Precedence → m Expr) (bound : Nat) : m Expr := do
  let _ ← expect .lparen
  advance
  let condition ← expression .lowest
  let _ ← expect .rparen
  let consequence ← block expression bound
  if (← peek).kind = .elseKw then
    advance
    let alternative ← block expression bound
    return .cond condition consequence (some alternative)
  else
    return .cond condition consequence none

/-- Reads a function behind its keyword, the current token: its `parameters` and its body. -/
@[specialize]
def function (expression : Precedence → m Expr) (bound : Nat) : m Expr := do
  let parameters ← parameters bound
  let body ← block expression bound
  return .fn parameters body

/-! ## Expressions -/

/-- **Where a statement is read**: the grammar, and the errors of the statements before it, the
latest first. -/
structure Context where
  /-- The rules and the nesting limit. -/
  grammar : Grammar
  /-- The errors recorded so far; the rules of a grammar's own are told of them. -/
  recorded : List ParseError

namespace Context

variable (context : Context)

/-- Goes one level deeper, from a depth at which a token stands, as far as the `nestingLimit` of the
grammar allows. -/
def descend (depth : Nat) (token : Token) : m Unit :=
  Reads.descend context.grammar.nestingLimit depth token

/-- Reads the operand that starts at the current token: by the rule that the grammar has for the
token's kind, or as the language does it. -/
@[specialize]
def operand (expression : Precedence → m Expr) (bound : Nat) : m Expr := do
  let token ← current
  match context.grammar.rules.operand token.kind with
  | some rule => MonadExcept.ofExcept (rule token context.recorded)
  | none =>
    match token.kind with
    | .ident => return .ident token.literal
    | .int => integer token
    | .trueKw => return .bool true
    | .falseKw => return .bool false
    | .bang => unary expression .not
    | .minus => unary expression .neg
    | .lparen => group expression
    | .ifKw => conditional expression bound
    | .fnKw => function expression bound
    | _ => throw (.noOperand token)

/-- Does what is to be done at an operator, the current token, whose left operand is finished. The
right operand of a binary operator is read above the operator's own precedence. -/
@[specialize]
def operation (expression : Precedence → m Expr) (bound : Nat) (token : Token) (left : Expr) :
    OperatorAction → m Expr
  | .custom rule => MonadExcept.ofExcept (rule token context.recorded left)
  | .builtin (.binary op) => do
    advance
    return .binary op left (← expression (.ofKind token.kind))
  | .builtin .call => return .call left (← arguments expression bound)

/-- **Reads the operators that follow a finished operand** and bind tighter than `floor`. First the
kind of the next token is looked up in the precedence table; only if it binds tighter than `floor`
does `Rules.action?` say what is done there, and if nothing is, the expression ends all the same.
Inner expressions are read by `expression`, which is told the depth to start from. -/
@[specialize]
def operators (expression : Nat → Precedence → m Expr) (floor : Precedence) :
    Nat → Nat → Expr → m Expr
  | 0, _, left => Reads.spent do return left
  | bound + 1, depth, left => do
    let token ← peek
    if token.kind ≠ .semicolon ∧ floor < .ofKind token.kind then
      match context.grammar.rules.action? token.kind with
      | none => return left
      | some action =>
        advance
        context.descend depth token
        let whole ← context.operation (expression (depth + 1)) bound token left action
        operators expression floor bound (depth + 1) whole
    else
      return left

/-- Reads an expression at a depth: an `operand`, and the `operators` that follow. -/
@[specialize]
def expressionStep (expression : Nat → Precedence → m Expr) (bound depth : Nat)
    (floor : Precedence) : m Expr := do
  context.descend depth (← current)
  let first ← context.operand (expression (depth + 1)) bound
  context.operators expression floor bound (depth + 1) first

end Context

end Parse

/-! ## Reading on a bound -/

/-- A reader moves a cursor and makes a value or fails. -/
abbrev ParseM := EStateM ParseError Cursor

/-- A reader of an expression that stands where operators have to bind tighter than a precedence. -/
abbrev ExprReader := Precedence → ParseM Expr

namespace ParseM

open Parse

/-- The depth is the one a reader is told, and a reader that has used its bound up is at the end of
the input. -/
instance : Reads ParseM where
  descend := checkDepth
  spent atEnd := atEnd

variable {cursor : Cursor}

@[simp] theorem spent_eq {α : Type} (atEnd : ParseM α) : Reads.spent atEnd = atEnd := rfl

@[simp] theorem current_apply : (current : ParseM Token) cursor = .ok cursor.current cursor := rfl

@[simp] theorem peek_apply : (peek : ParseM Token) cursor = .ok cursor.peek cursor := rfl

@[simp] theorem advance_apply : (advance : ParseM Unit) cursor = .ok () cursor.advance := rfl

/-- An expected token is passed; any other one is reported, and the cursor stays. -/
theorem expect_apply (kind : TokenKind) (cursor : Cursor) :
    (expect kind : ParseM Token) cursor =
      if cursor.peek.kind = kind then .ok cursor.peek cursor.advance
      else .error (.unexpectedToken kind cursor.peek) cursor := by
  change (if cursor.peek.kind = kind then _ else _ : ParseM Token) cursor = _
  split <;> rfl

/-- A semicolon is passed, and nothing else is: `skipSemicolon` never fails. -/
theorem skipSemicolon_apply (cursor : Cursor) :
    (skipSemicolon : ParseM Unit) cursor =
      .ok () (if cursor.peek.kind = .semicolon then cursor.advance else cursor) := by
  change (if cursor.peek.kind = .semicolon then _ else _ : ParseM Unit) cursor = _
  split <;> rfl

end ParseM

namespace Parse.Context

/-- The depth that is compared with the limit is the one that `descend` is told. -/
theorem descend_eq_checkDepth (context : Context) (depth : Nat) (token : Token) :
    (context.descend depth token : ParseM Unit) =
      checkDepth context.grammar.nestingLimit depth token := rfl

/-- **Reads an expression at a depth.** The bound is at least the number of tokens left, so where it
is used up there is no token for an inner expression to start with. -/
def expression (context : Context) : Nat → Nat → ExprReader
  | 0 => context.expressionStep (fun _ _ => do throw (.noOperand (← current))) 0
  | bound + 1 => context.expressionStep (context.expression bound) (bound + 1)

end Parse.Context

end Monkey
