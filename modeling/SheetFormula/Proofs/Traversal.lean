import SheetFormula.Expr
/-!
Traversals of expression trees. The depth-first traversal of a stack of trees, which takes the
top tree's root and stacks its branches in order, lists the pre-order of each tree of the stack
in turn. Main statement: for a single tree and any choice of branches it is the pre-order of the
tree, so the walk of a tree is its pre-order over all children and its references are the cells
of its pre-order over the branches that may hold references.
-/

namespace SheetFormula.Branching

theorem depthFirst_eq_flatMap (b : Branching) (stack : List Expr) :
    b.depthFirst stack = stack.flatMap b.preorder := by
  fun_induction b.depthFirst stack with
  | case1 => rfl
  | case2 e stack ih =>
    rw [ih, List.flatMap_cons, preorder]
    simp

theorem depthFirst_singleton_eq_preorder :
    (∀ (b : Branching) (root : Expr), b.depthFirst [root] = b.preorder root) ∧
    (∀ e : Expr, e.walk = Branching.all.preorder e) ∧
    (∀ e : Expr, e.references = (Branching.references.preorder e).filterMap Expr.cellName?) := by
  refine ⟨fun b root => ?_, fun e => ?_, fun e => ?_⟩
  · simp [depthFirst_eq_flatMap]
  · simp [Expr.walk, depthFirst_eq_flatMap]
  · simp [Expr.references, depthFirst_eq_flatMap]

end SheetFormula.Branching
