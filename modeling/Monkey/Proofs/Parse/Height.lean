import Monkey.Proofs.Parse.Rendering
import Monkey.Proofs.Syntax.Height

/-! # The height of what is read

With a nesting limit no tree is read that is higher than the sum of the numbers up to the limit,
`triangle` (`heightsLe_triangle`), and a tree of that height is read, the `tower` (`parse_tower`).
So a limit bounds the height, but by about half its square: it bounds it by itself only if it is
one at most. The law is `heights_le_iff`; `exists_height_gt_limit` shows it at the limit of 1024. -/

namespace Monkey

open Parse

namespace Grammar

/-- Whatever the stream, no expression that is read is higher than the sum of the levels that the
limit allows: all that is read has a derivation within the limit, and that bounds its height. -/
theorem heightsLe_triangle (limit : Nat) (stream : TokenStream) :
    HeightsLe ((limited (some limit)).parse stream).program.expressions (triangle limit) := by
  refine (Stmt.heightsLe_listNodes _).mono (Stmt.listHeight_le_iff.2 fun tree mem => ?_)
  obtain ⟨symbols, derivation, -, within⟩ := exists_derivation stream mem
  exact Nat.le_trans derivation.bounded (triangle_mono (Within.some_iff.1 within))

/-- The canonical text of a `tower` is read as the tower when the limit allows its levels, so the
bound is reached. -/
theorem parse_tower (limit : Nat) :
    ((limited (some limit)).parse (.ofSource (Program.render ⟨tower limit⟩))).program =
      ⟨tower limit⟩ := by
  -- The tower has a derivation from its canonical text that takes just the levels of the limit.
  have written : Program.Writable ⟨tower limit⟩ := writable_tower limit
  obtain ⟨derivation, depth⟩ : ∃ derivation : Derivation (.statements (tower limit))
      (symbolsOf (Program.render ⟨tower limit⟩).toList),
      derivation.nesting = Stmt.listNesting (tower limit) := by
    rw [Program.symbolsOf_render written]
    exact Stmt.exists_derivation_list (tower limit) written
  rw [nesting_tower] at depth
  have accepts : ((limited (some limit)).parse (.ofSource (Program.render ⟨tower limit⟩))).Accepts
      (Within (some limit) derivation.nesting) (tower limit) := parse_accepts (.ofSource _) derivation
  exact congrArg Program.mk (accepts.eq_of_fits (Within.some_iff.2 (Nat.le_of_eq depth))).2

/-- **The height that a nesting limit allows**: a bound holds for the height of all expressions that
are read from sources just when it is at least the sum of the numbers up to the limit. -/
theorem heights_le_iff (limit bound : Nat) :
    (∀ source : String, ∀ tree ∈
        ((limited (some limit)).parse (.ofSource source)).program.expressions,
        tree.height ≤ bound) ↔ limit * (limit + 1) / 2 ≤ bound := by
  constructor
  · -- The tower with as many levels as are allowed is read, and it is as high as that.
    intro bounded
    have heights := bounded (Program.render ⟨tower limit⟩)
    rw [parse_tower] at heights
    cases limit with
    | zero => exact Nat.zero_le bound
    | succ levels =>
      obtain ⟨tree, mem, height⟩ := exists_height_tower levels
      have le := heights tree mem
      rwa [height] at le
  · -- Nothing that is read is higher than the sum of the levels.
    intro enough source
    exact (heightsLe_triangle limit _).mono enough

/-- A function whose body calls a name 512 times, itself called 511 times, is read although it is
higher than the nesting limit. -/
theorem exists_height_gt_limit :
    let function : Expr := .fn [] [.exprStmt (Expr.called 512 (.ident "a"))]
    let program : Program := ⟨[.exprStmt (Expr.called 511 function)]⟩
    Program.parse program.render = .ok program ∧
      ∃ tree ∈ program.expressions, 1024 < tree.height := by
  intro function program
  have written : program.Writable :=
    ⟨Expr.writable_called 511 ⟨nofun, Expr.writable_called 512 (by decide : IsName "a"), trivial⟩,
      trivial⟩
  -- The body takes 513 levels and the function one more; the 511 calls around it take no others.
  have depth : function.nesting = 514 := by
    rw [Expr.nesting, Stmt.listNesting, Stmt.listNesting, Stmt.nesting,
      Expr.nesting_called 512 (.ident "a") (Nat.le_refl 1)]
    rfl
  have height : function.height = 514 := by
    rw [Expr.height, Stmt.listHeight, Stmt.listHeight, Stmt.height, Expr.height_called]
    rfl
  have shallow : program.nesting ≤ 1024 := by
    have enough : function.spine ≤ function.nesting := by
      rw [depth]
      decide
    rw [Program.nesting, Stmt.listNesting, Stmt.listNesting, Stmt.nesting,
      Expr.nesting_called 511 function enough, depth]
    decide
  refine ⟨(Program.parse_render written).1 shallow, Expr.called 511 function, ?_, ?_⟩
  · exact List.mem_append_left _ (Expr.mem_nodes _)
  · rw [Expr.height_called, height]
    decide

end Grammar

end Monkey
