import Monkey.Proofs.Syntax.Canonical

/-! # How high trees get

The nesting limit counts the levels on the way down to an operand, and what is counted on the way
is forgotten when the operand is finished. So a tree gets higher than the limit: around an operand
of any height, as many operators as there are levels left start a count of their own. How high it
gets is `triangle`: `Derivation.bounded` says so by induction on derivations, and the `tower` gets
there (`nesting_tower`, `height_tower`). -/

namespace Monkey

mutual

/-- The number of expressions on the longest path from an expression down to an operand, through the
statements of its blocks. -/
def Expr.height : Expr → Nat
  | .ident _ | .int _ _ | .bool _ => 1
  | .unary _ operand => operand.height + 1
  | .binary _ left right => max left.height right.height + 1
  | .cond condition consequence none => max condition.height (Stmt.listHeight consequence) + 1
  | .cond condition consequence (some alternative) =>
    max (max condition.height (Stmt.listHeight consequence)) (Stmt.listHeight alternative) + 1
  | .fn _ body => Stmt.listHeight body + 1
  | .call callee arguments => max callee.height (Expr.listHeight arguments) + 1

/-- The greatest height of some expressions, zero if there is none. -/
def Expr.listHeight : List Expr → Nat
  | [] => 0
  | first :: rest => max first.height (Expr.listHeight rest)

/-- The height of the expression of a statement, zero if it has none. -/
def Stmt.height : Stmt → Nat
  | .letStmt _ value => value.height
  | .returnStmt none => 0
  | .returnStmt (some value) => value.height
  | .exprStmt value => value.height

/-- The greatest height of some statements, zero if there is none. -/
def Stmt.listHeight : List Stmt → Nat
  | [] => 0
  | first :: rest => max first.height (Stmt.listHeight rest)

end

mutual

/-- All expressions in an expression, itself included, also those in the bodies of functions. -/
def Expr.nodes : Expr → List Expr
  | .ident name => [.ident name]
  | .int value literal => [.int value literal]
  | .bool value => [.bool value]
  | .unary op operand => .unary op operand :: operand.nodes
  | .binary op left right => .binary op left right :: (left.nodes ++ right.nodes)
  | .cond condition consequence none =>
    .cond condition consequence none :: (condition.nodes ++ Stmt.listNodes consequence)
  | .cond condition consequence (some alternative) =>
    .cond condition consequence (some alternative) ::
      (condition.nodes ++ Stmt.listNodes consequence ++ Stmt.listNodes alternative)
  | .fn parameters body => .fn parameters body :: Stmt.listNodes body
  | .call callee arguments => .call callee arguments :: (callee.nodes ++ Expr.listNodes arguments)

/-- All expressions in some expressions, from left to right. -/
def Expr.listNodes : List Expr → List Expr
  | [] => []
  | first :: rest => first.nodes ++ Expr.listNodes rest

/-- All expressions in a statement, with the one that it is about. -/
def Stmt.nodes : Stmt → List Expr
  | .letStmt _ value => value.nodes
  | .returnStmt none => []
  | .returnStmt (some value) => value.nodes
  | .exprStmt value => value.nodes

/-- All expressions in some statements, in their order. -/
def Stmt.listNodes : List Stmt → List Expr
  | [] => []
  | first :: rest => first.nodes ++ Stmt.listNodes rest

end

/-- All expressions in a program, at whatever depth; `HeightsLe` bounds their heights. -/
def Program.expressions (program : Program) : List Expr := Stmt.listNodes program.statements

/-- Expressions that are no higher than a bound, each of them by its `Expr.height`. -/
def HeightsLe (nodes : List Expr) (bound : Nat) : Prop := ∀ node ∈ nodes, node.height ≤ bound

namespace HeightsLe

variable {nodes others : List Expr} {bound more : Nat}

/-- A greater bound is a bound for them too. -/
theorem mono (heights : HeightsLe nodes bound) (le : bound ≤ more) : HeightsLe nodes more :=
  fun node mem => Nat.le_trans (heights node mem) le

@[simp] theorem cons_iff {node : Expr} :
    HeightsLe (node :: nodes) bound ↔ node.height ≤ bound ∧ HeightsLe nodes bound :=
  List.forall_mem_cons

@[simp] theorem append_iff :
    HeightsLe (nodes ++ others) bound ↔ HeightsLe nodes bound ∧ HeightsLe others bound :=
  List.forall_mem_append

end HeightsLe

mutual

/-- No expression in another one is higher than it, by recursion on the tree. -/
theorem Expr.heightsLe_nodes : (tree : Expr) → HeightsLe tree.nodes tree.height
  | .ident _ | .int _ _ | .bool _ => HeightsLe.cons_iff.2 ⟨Nat.le_refl _, nofun⟩
  | .unary op operand => by
    have inner := operand.heightsLe_nodes
    rw [Expr.nodes, HeightsLe.cons_iff]
    exact ⟨Nat.le_refl _, inner.mono (Nat.le_succ _)⟩
  | .binary op left right => by
    have first := left.heightsLe_nodes
    have second := right.heightsLe_nodes
    rw [Expr.nodes, HeightsLe.cons_iff, HeightsLe.append_iff]
    refine ⟨Nat.le_refl _, first.mono ?_, second.mono ?_⟩ <;> rw [Expr.height] <;> omega
  | .cond condition consequence none => by
    have test := condition.heightsLe_nodes
    have body := Stmt.heightsLe_listNodes consequence
    rw [Expr.nodes, HeightsLe.cons_iff, HeightsLe.append_iff]
    refine ⟨Nat.le_refl _, test.mono ?_, body.mono ?_⟩ <;> rw [Expr.height] <;> omega
  | .cond condition consequence (some alternative) => by
    have test := condition.heightsLe_nodes
    have body := Stmt.heightsLe_listNodes consequence
    have other := Stmt.heightsLe_listNodes alternative
    rw [Expr.nodes, HeightsLe.cons_iff, HeightsLe.append_iff, HeightsLe.append_iff]
    refine ⟨Nat.le_refl _, ⟨test.mono ?_, body.mono ?_⟩, other.mono ?_⟩ <;>
      rw [Expr.height] <;> omega
  | .fn parameters body => by
    have block := Stmt.heightsLe_listNodes body
    rw [Expr.nodes, HeightsLe.cons_iff]
    exact ⟨Nat.le_refl _, block.mono (Nat.le_succ _)⟩
  | .call callee arguments => by
    have function := callee.heightsLe_nodes
    have list := Expr.heightsLe_listNodes arguments
    rw [Expr.nodes, HeightsLe.cons_iff, HeightsLe.append_iff]
    refine ⟨Nat.le_refl _, function.mono ?_, list.mono ?_⟩ <;> rw [Expr.height] <;> omega

/-- No expression in some expressions is higher than the highest of them. -/
theorem Expr.heightsLe_listNodes :
    (trees : List Expr) → HeightsLe (Expr.listNodes trees) (Expr.listHeight trees)
  | [] => nofun
  | first :: rest => by
    rw [Expr.listNodes, Expr.listHeight, HeightsLe.append_iff]
    exact ⟨first.heightsLe_nodes.mono (Nat.le_max_left ..),
      (Expr.heightsLe_listNodes rest).mono (Nat.le_max_right ..)⟩

/-- No expression in a statement is higher than the statement, whose height is that of its
expression. -/
theorem Stmt.heightsLe_nodes : (tree : Stmt) → HeightsLe tree.nodes tree.height
  | .letStmt _ value | .returnStmt (some value) | .exprStmt value => value.heightsLe_nodes
  | .returnStmt none => nofun

/-- No expression in some statements is higher than the highest of them. -/
theorem Stmt.heightsLe_listNodes :
    (trees : List Stmt) → HeightsLe (Stmt.listNodes trees) (Stmt.listHeight trees)
  | [] => nofun
  | first :: rest => by
    rw [Stmt.listNodes, Stmt.listHeight, HeightsLe.append_iff]
    exact ⟨first.heightsLe_nodes.mono (Nat.le_max_left ..),
      (Stmt.heightsLe_listNodes rest).mono (Nat.le_max_right ..)⟩

end

/-- An expression is one of its own `nodes`. -/
theorem Expr.mem_nodes (tree : Expr) : tree ∈ tree.nodes := by
  unfold Expr.nodes
  split <;> exact List.mem_cons_self

/-! ## The height that a nesting allows -/

/-- The sum of the numbers up to a count, which is about half its square. -/
def triangle (count : Nat) : Nat := count * (count + 1) / 2

theorem triangle_succ (count : Nat) : triangle (count + 1) = triangle count + (count + 1) := by
  have expand : (count + 1) * (count + 2) = count * (count + 1) + (count + 1) * 2 := by
    rw [Nat.mul_add, Nat.mul_comm (count + 1) count]
  rw [triangle, triangle, expand, Nat.add_mul_div_right _ _ (by decide)]

theorem triangle_mono {few many : Nat} (le : few ≤ many) : triangle few ≤ triangle many :=
  Nat.div_le_div_right (Nat.mul_le_mul le (Nat.succ_le_succ le))

/-- The higher of two parts is as high as the deeper nesting allows, since `triangle` is monotone.
-/
theorem max_le_triangle {left right few many : Nat} (first : left ≤ triangle few)
    (second : right ≤ triangle many) : max left right ≤ triangle (max few many) :=
  Nat.max_le.2 ⟨Nat.le_trans first (triangle_mono (Nat.le_max_left ..)),
    Nat.le_trans second (triangle_mono (Nat.le_max_right ..))⟩

/-- How high a phrase may be. The operators of an expression make it higher one by one, in levels of
their own; all else in it stands at least one level deeper. -/
def Phrase.Bounded : Phrase → (spine nesting : Nat) → Prop
  | .expression _ tree, spine, nesting =>
    ∀ levels, nesting ≤ levels + 1 → tree.height ≤ triangle levels + spine
  | .arguments trees, _, nesting => Expr.listHeight trees ≤ triangle nesting
  | .statement tree, _, nesting => tree.height ≤ triangle nesting
  | .statements trees, _, nesting => Stmt.listHeight trees ≤ triangle nesting
  | .block trees, _, nesting => Stmt.listHeight trees ≤ triangle nesting

namespace Derivation

/-- An expression takes a level at least, and so does any phrase by its `spine`. -/
theorem spine_pos {phrase : Phrase} {symbols : List Symbol} (derivation : Derivation phrase symbols) :
    0 < derivation.spine := by
  induction derivation with
  | tighter _ ih => exact ih
  | _ => exact Nat.zero_lt_succ _

/-- An expression is at most as high as the sum of the levels that it may take, if it is `Bounded`.
-/
theorem height_le {level : Level} {tree : Expr} {symbols : List Symbol} {levels : Nat}
    (derivation : Derivation (.expression level tree) symbols)
    (bounded : Phrase.Bounded (.expression level tree) derivation.spine derivation.nesting)
    (enough : derivation.nesting ≤ levels) : tree.height ≤ triangle levels := by
  have own := derivation.spine_le_nesting
  have some_level := derivation.spine_pos
  -- The last of the levels is the spine's, and the others bound what stands below it.
  obtain ⟨fewer, rfl⟩ : ∃ fewer, levels = fewer + 1 := ⟨levels - 1, by omega⟩
  have height := bounded fewer enough
  rw [triangle_succ]
  omega

/-- **Whatever has a derivation is as high as its nesting allows**, by induction on the
`Derivation`. -/
theorem bounded {phrase : Phrase} {symbols : List Symbol} (derivation : Derivation phrase symbols) :
    phrase.Bounded derivation.spine derivation.nesting := by
  -- By induction on the derivation: whatever stands in parentheses, in a block or behind an operator
  -- has a level less left, and only callees and left operands have as many as the whole.
  induction derivation with
  | name | integer | trueWord | falseWord => exact fun levels _ => Nat.le_add_left 1 _
  | group _ _ inner ih =>
    intro levels enough
    have height : _ ≤ triangle levels := inner.height_le ih (Nat.le_of_succ_le_succ enough)
    exact Nat.le_trans height (Nat.le_add_right ..)
  | @condThen _ _ _ condition consequence _ _ test body testBounded bodyBounded =>
    intro levels enough
    change max test.nesting body.nesting + 1 ≤ levels + 1 at enough
    have first : condition.height ≤ triangle levels := test.height_le testBounded (by omega)
    have second : Stmt.listHeight consequence ≤ triangle levels :=
      Nat.le_trans bodyBounded (triangle_mono (by omega))
    rw [Expr.height]
    exact Nat.succ_le_succ (Nat.max_le.2 ⟨first, second⟩)
  | @condElse _ _ _ _ condition consequence alternative _ _ _ test body other testBounded bodyBounded
      otherBounded =>
    intro levels enough
    change max (max test.nesting body.nesting) other.nesting + 1 ≤ levels + 1 at enough
    have first : condition.height ≤ triangle levels := test.height_le testBounded (by omega)
    have second : Stmt.listHeight consequence ≤ triangle levels :=
      Nat.le_trans bodyBounded (triangle_mono (by omega))
    have third : Stmt.listHeight alternative ≤ triangle levels :=
      Nat.le_trans otherBounded (triangle_mono (by omega))
    rw [Expr.height]
    exact Nat.succ_le_succ (Nat.max_le.2 ⟨Nat.max_le.2 ⟨first, second⟩, third⟩)
  | function _ _ _ _ body bodyBounded =>
    intro levels enough
    exact Nat.succ_le_succ
      (Nat.le_trans bodyBounded (triangle_mono (Nat.le_of_succ_le_succ enough)))
  | @call _ _ callee arguments _ _ function list functionBounded listBounded =>
    intro levels enough
    change max function.nesting (function.spine + 1 + list.nesting) ≤ levels + 1 at enough
    -- The callee may take all the levels, but the call adds one to those that it takes by itself.
    have first := functionBounded levels (by omega)
    have second : Expr.listHeight arguments ≤ triangle levels :=
      Nat.le_trans listBounded (triangle_mono (by omega))
    show max callee.height (Expr.listHeight arguments) + 1 ≤ triangle levels + (function.spine + 1)
    omega
  | unary _ _ operand operandBounded =>
    intro levels enough
    have first : _ ≤ triangle levels :=
      operand.height_le operandBounded (Nat.le_of_succ_le_succ enough)
    exact Nat.succ_le_succ first
  | @binary op _ left right _ _ first second firstBounded secondBounded =>
    intro levels enough
    change max first.nesting (first.spine + 1 + second.nesting) ≤ levels + 1 at enough
    -- The same with the left operand; the right one starts below the level of the operator.
    have before := firstBounded levels (by omega)
    have behind : right.height ≤ triangle levels := second.height_le secondBounded (by omega)
    show max left.height right.height + 1 ≤ triangle levels + (first.spine + 1)
    omega
  | tighter _ ih => exact ih
  | noArgument | returnNone | noStatement => exact Nat.zero_le _
  | lastArgument argument ih =>
    exact Nat.max_le.2 ⟨argument.height_le ih (Nat.le_refl _), Nat.zero_le _⟩
  | moreArguments _ argument _ ih moreBounded =>
    exact max_le_triangle (argument.height_le ih (Nat.le_refl _)) moreBounded
  | letStmt _ _ _ value ih | returnSome _ value ih | exprStmt value ih =>
    exact value.height_le ih (Nat.le_refl _)
  | closed _ _ _ firstBounded restBounded => exact max_le_triangle firstBounded restBounded
  | unclosed _ _ _ _ _ firstBounded restBounded => exact max_le_triangle firstBounded restBounded
  | block _ _ _ ih => exact ih

end Derivation

/-- Statements are no higher than a bound if none of them is. -/
theorem Stmt.listHeight_le_iff {trees : List Stmt} {bound : Nat} :
    Stmt.listHeight trees ≤ bound ↔ ∀ tree ∈ trees, tree.height ≤ bound := by
  induction trees with
  | nil => exact iff_of_true (Nat.zero_le _) nofun
  | cons first rest ih => rw [Stmt.listHeight, Nat.max_le, ih, List.forall_mem_cons]

/-! ## The height that is reached -/

/-- So many calls without arguments around an expression, which is called first. -/
def Expr.called : Nat → Expr → Expr
  | 0, tree => tree
  | count + 1, tree => .call (tree.called count) []

/-- Functions in functions, each called as often as the levels around its body allow. -/
def tower : Nat → List Stmt
  | 0 => []
  | levels + 1 => [.exprStmt (Expr.called levels (.fn [] (tower levels)))]

namespace Expr

variable (count : Nat) (tree : Expr)

/-- Every call makes an expression higher by one. -/
theorem height_called : (tree.called count).height = tree.height + count := by
  induction count with
  | zero => rfl
  | succ count ih =>
    rw [called, height, ih, listHeight, Nat.max_zero]
    rfl

/-- Every call takes a level of its own, which the `spine` counts. -/
theorem spine_called : (tree.called count).spine = tree.spine + count := by
  induction count with
  | zero => rfl
  | succ count ih =>
    rw [called, spine, ih]
    rfl

/-- Calls take no level away from their callee, which is finished before they are read. -/
theorem nesting_called (enough : tree.spine ≤ tree.nesting) :
    (tree.called count).nesting = max tree.nesting (tree.spine + count) := by
  induction count with
  | zero => exact (Nat.max_eq_left enough).symm
  | succ count ih =>
    rw [called, nesting, ih, spine_called, listNesting]
    omega

/-- Calls of what can be written can be written: a call without arguments has no text of its own but
parentheses. -/
theorem writable_called {tree : Expr} (written : tree.Writable) : (tree.called count).Writable := by
  induction count with
  | zero => exact written
  | succ count ih => exact ⟨ih, trivial⟩

end Expr

/-- A `tower` nests as deep as it has levels, by induction on them. -/
theorem nesting_tower (levels : Nat) : Stmt.listNesting (tower levels) = levels := by
  induction levels with
  | zero => rfl
  | succ levels ih =>
    -- The function takes all the levels on its own, and the calls around it take no others.
    have function : (Expr.fn [] (tower levels)).nesting = levels + 1 := by
      rw [Expr.nesting, ih]
    have enough : (Expr.fn [] (tower levels)).spine ≤ (Expr.fn [] (tower levels)).nesting := by
      rw [function]
      exact Nat.le_add_left 1 levels
    have spine : (Expr.fn [] (tower levels)).spine = 1 := rfl
    rw [tower, Stmt.listNesting, Stmt.listNesting, Nat.max_zero, Stmt.nesting,
      Expr.nesting_called _ _ enough, function, spine]
    omega

/-- A `tower` is as high as the sum of its levels, by induction on them. -/
theorem height_tower (levels : Nat) : Stmt.listHeight (tower levels) = triangle levels := by
  induction levels with
  | zero => rfl
  | succ levels ih =>
    -- The function is one higher than its body, and each of the calls adds one more.
    rw [tower, Stmt.listHeight, Stmt.listHeight, Nat.max_zero, Stmt.height, Expr.height_called,
      Expr.height, ih, triangle_succ]
    omega

/-- A tower holds an expression of its height, the one that stands alone in it. -/
theorem exists_height_tower (levels : Nat) :
    ∃ tree ∈ Stmt.listNodes (tower (levels + 1)), tree.height = triangle (levels + 1) := by
  refine ⟨Expr.called levels (.fn [] (tower levels)), ?_, ?_⟩
  · exact List.mem_append_left _ (Expr.mem_nodes _)
  · rw [← height_tower, tower, Stmt.listHeight, Stmt.listHeight, Nat.max_zero, Stmt.height]

/-- A tower can be written, for it has neither names nor literals. -/
theorem writable_tower (levels : Nat) : Stmt.AllWritable (tower levels) := by
  induction levels with
  | zero => trivial
  | succ levels ih => exact ⟨Expr.writable_called levels ⟨nofun, ih⟩, trivial⟩

end Monkey
