import Monkey.Proofs.Syntax.Derivation
import Monkey.Proofs.Token.Spelling

/-! # Trees that can be written

The trees whose names and integer literals a text can spell (`Expr.Writable`, `Program.Writable`).
They are just the trees that are read from texts: whatever has a derivation from the symbols of a
text is one of them, by `Derivation.writable`; that their canonical texts are read back as
themselves is proved in the module on rendering. -/

namespace Monkey

/-- An integer literal is a run of digits that denotes its value, in the range of signed 64-bit
integers. -/
structure IsLiteral (value : Int64) (literal : String) : Prop where
  isDigits : IsDigits literal
  value_eq : value.toInt = Nat.ofDigitChars 10 literal.toList 0

/-- A run of digits is read by `Decimal.read?` as a value just when it denotes it. -/
theorem IsDigits.read_eq_some_iff {literal : String} (all : IsDigits literal) {value : Int64} :
    Decimal.read? literal = some value ↔ IsLiteral value literal := by
  obtain ⟨some_digit, digits⟩ := all
  have read := Decimal.read?_digits some_digit (List.all_eq_true.1 digits)
  rw [String.ofList_toList] at read
  rw [read]
  constructor
  · intro found
    split at found
    · next small =>
      -- The value of the run fits, so it is the one that was read.
      cases found
      have greatest : Int64.maxValue.toInt = 2 ^ 63 - 1 := rfl
      exact ⟨⟨some_digit, digits⟩, Int64.toInt_ofInt_of_le (by omega) (by omega)⟩
    · cases found
  · rintro ⟨-, same⟩
    rw [← same, if_pos value.toInt_le, Int64.ofInt_toInt]

mutual

/-- An expression whose names and integer literals can be written, as `IsName` and `IsLiteral` say.
-/
def Expr.Writable : Expr → Prop
  | .ident name => IsName name
  | .int value literal => IsLiteral value literal
  | .bool _ => True
  | .unary _ operand => operand.Writable
  | .binary _ left right => left.Writable ∧ right.Writable
  | .cond condition consequence none => condition.Writable ∧ Stmt.AllWritable consequence
  | .cond condition consequence (some alternative) =>
    condition.Writable ∧ Stmt.AllWritable consequence ∧ Stmt.AllWritable alternative
  | .fn parameters body => (∀ name ∈ parameters, IsName name) ∧ Stmt.AllWritable body
  | .call callee arguments => callee.Writable ∧ Expr.AllWritable arguments

/-- Expressions that can be written, each of them. -/
def Expr.AllWritable : List Expr → Prop
  | [] => True
  | first :: rest => first.Writable ∧ Expr.AllWritable rest

/-- A statement that can be written, with the name that it binds if it is a binding. -/
def Stmt.Writable : Stmt → Prop
  | .letStmt name value => IsName name ∧ value.Writable
  | .returnStmt none => True
  | .returnStmt (some value) => value.Writable
  | .exprStmt value => value.Writable

/-- Statements that can be written, each of them. -/
def Stmt.AllWritable : List Stmt → Prop
  | [] => True
  | first :: rest => first.Writable ∧ Stmt.AllWritable rest

end

/-- A program that can be written: its `statements` can. -/
def Program.Writable (program : Program) : Prop := Stmt.AllWritable program.statements

/-- Statements can be written if each of them can: `AllWritable` by membership. -/
theorem Stmt.allWritable_iff {statements : List Stmt} :
    Stmt.AllWritable statements ↔ ∀ statement ∈ statements, statement.Writable := by
  induction statements with
  | nil => simp [Stmt.AllWritable]
  | cons first rest ih => simp [Stmt.AllWritable, ih]

/-- A `Phrase` whose tree can be written. -/
def Phrase.Writable : Phrase → Prop
  | expression _ tree => tree.Writable
  | arguments trees => Expr.AllWritable trees
  | statement tree => tree.Writable
  | statements trees | block trees => Stmt.AllWritable trees

/-- The names of a `NameList` are names if its symbols are spelled well. -/
theorem NameList.isName {names : List String} {symbols : List Symbol} (list : NameList names symbols)
    (spelled : ∀ symbol ∈ symbols, symbol.WellSpelled) : ∀ name ∈ names, IsName name := by
  induction list with
  | none => nofun
  | last name =>
    rw [List.forall_mem_singleton] at spelled ⊢
    exact spelled.isName rfl
  | more name comma _ ih =>
    rw [List.forall_mem_cons, List.forall_mem_cons] at spelled
    rw [List.forall_mem_cons]
    exact ⟨spelled.1.isName rfl, ih spelled.2.2⟩

/-- What has a derivation from symbols that are spelled well can be written, by induction on the
`Derivation`. -/
theorem Derivation.writable {phrase : Phrase} {symbols : List Symbol}
    (derivation : Derivation phrase symbols)
    (spelled : ∀ symbol ∈ symbols, symbol.WellSpelled) : phrase.Writable := by
  -- By induction on the derivation: names and integers are leaves, and each part of a tree has
  -- symbols of its own among those of the whole.
  induction derivation with
  | name name => exact (spelled _ List.mem_cons_self).isName rfl
  | integer read => exact ((spelled _ List.mem_cons_self).isDigits rfl).read_eq_some_iff.1 read
  | trueWord | falseWord | noArgument | returnNone | noStatement => trivial
  | group _ _ _ ih | block _ _ _ ih =>
    simp only [List.forall_mem_cons, List.forall_mem_append] at spelled
    exact ih spelled.2.1
  | condThen _ _ _ _ _ test body =>
    simp only [List.forall_mem_cons, List.forall_mem_append] at spelled
    obtain ⟨-, -, condition, -, consequence⟩ := spelled
    exact ⟨test condition, body consequence⟩
  | condElse _ _ _ _ _ _ _ test body otherBody =>
    simp only [List.forall_mem_cons, List.forall_mem_append] at spelled
    obtain ⟨-, -, condition, -, consequence, -, alternative⟩ := spelled
    exact ⟨test condition, body consequence, otherBody alternative⟩
  | function _ _ _ names _ body =>
    simp only [List.forall_mem_cons, List.forall_mem_append] at spelled
    obtain ⟨-, -, list, -, block⟩ := spelled
    exact ⟨names.isName list, body block⟩
  | call _ _ _ _ callee arguments =>
    simp only [List.forall_mem_cons, List.forall_mem_append] at spelled
    obtain ⟨function, -, inner, -⟩ := spelled
    exact ⟨callee function, arguments inner⟩
  | unary _ _ _ ih | returnSome _ _ ih => exact ih (List.forall_mem_cons.1 spelled).2
  | binary _ _ _ _ left right =>
    simp only [List.forall_mem_cons, List.forall_mem_append] at spelled
    exact ⟨left spelled.1, right spelled.2.2⟩
  | tighter _ ih | exprStmt _ ih => exact ih spelled
  | lastArgument _ ih => exact ⟨ih spelled, trivial⟩
  | moreArguments _ _ _ first more | closed _ _ _ first more =>
    simp only [List.forall_mem_cons, List.forall_mem_append] at spelled
    exact ⟨first spelled.1, more spelled.2.2⟩
  | letStmt _ _ _ _ ih =>
    simp only [List.forall_mem_cons] at spelled
    obtain ⟨-, name, -, value⟩ := spelled
    exact ⟨name.isName rfl, ih value⟩
  | unclosed _ _ _ _ _ first more =>
    rw [List.forall_mem_append] at spelled
    exact ⟨first spelled.1, more spelled.2⟩

end Monkey
