import ExprCompiler.Proofs.SourcePhrase

set_option autoImplicit false

namespace ExprCompiler

-- The expression as a tree that stands nowhere.
def Expr.unplaced : Expr → Tree
  | .num value => .num value none
  | .binary op left right => .binary op left.unplaced right.unplaced none

theorem Expr.unplaced_expr (expr : Expr) : expr.unplaced.expr = expr := by
  induction expr with
  | num value => rfl
  | binary op left right ihLeft ihRight => rw [unplaced, Tree.expr, ihLeft, ihRight]

namespace Tree

theorem code_unplaced (tree : Tree) : tree.expr.unplaced.code = tree.code := by
  induction tree with
  | num value span => rw [expr, Expr.unplaced, code_num, code_num]
  | binary op left right span ihLeft ihRight =>
      rw [expr, Expr.unplaced, code_binary, code_binary, ihLeft, ihRight]

theorem outline_lines_unplaced (tree : Tree) (indent : String) (level : Nat) :
    tree.expr.unplaced.outlineLines indent level = tree.outlineLines indent level := by
  induction tree generalizing level with
  | num value span => rfl
  | binary op left right span ihLeft ihRight =>
      rw [expr, Expr.unplaced, outlineLines, outlineLines, ihLeft, ihRight]
      rfl

theorem assembly_unplaced (tree : Tree) (entry : String) :
    tree.expr.unplaced.assembly entry = tree.assembly entry := by
  rw [assembly, assembly, assemblyLines, assemblyLines, body, body, code_unplaced]

theorem printable_unplaced (tree : Tree) : tree.expr.unplaced.Printable ↔ tree.Printable := by
  rw [Printable, Printable, tree.expr.unplaced_expr]

theorem listing_unplaced (tree : Tree) (entry : String) : tree.expr.unplaced.listing entry = tree.listing entry := by
  rw [listing, listing, listingLines, listingLines, code_unplaced]

theorem outline_unplaced (tree : Tree) (indent : String) : tree.expr.unplaced.outline indent = tree.outline indent := by
  by_cases printable : tree.Printable
  · rw [outline_shown _ _ (tree.printable_unplaced.mpr printable), tree.outline_shown _ printable, outline_lines_unplaced]
  · rw [outline_long _ _ (mt tree.printable_unplaced.mp printable), tree.outline_long _ printable]

end Tree

theorem compile_rendering (format : OutputFormat) (shown : format = .asm ∨ format = .ast) :
    ∃ render : Tree → String, (∀ tree : Tree, render tree.expr.unplaced = render tree) ∧
      ∀ file source, compile file source format = (Tree.ofSource file source).map render := by
  rcases shown with rfl | rfl
  · exact ⟨_, fun tree => tree.assembly_unplaced _, compile_listing⟩
  · refine ⟨_, ?_, compile_outline⟩
    intro tree
    rw [tree.outline_lines_unplaced]

end ExprCompiler
