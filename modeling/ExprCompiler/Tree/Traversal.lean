import ExprCompiler.Tree

set_option autoImplicit false

namespace ExprCompiler

namespace Tree

def size : Tree → Nat
  | .num _ _ => 1
  | .binary _ left right _ => left.size + right.size + 1

end Tree

-- What a traversal has yet to do. A node is given out when its operands are done.
inductive Pending where
  | visit (tree : Tree)
  | emit (node : Tree)

namespace Pending

def weight : Pending → Nat
  | .visit tree => 2 * tree.size
  | .emit _ => 1

end Pending

namespace Tree

-- The nodes so far are in `found`, the last one first.
def postOrderFrom : List Pending → List Tree → List Tree
  | [], found => found.reverse
  | .emit node :: later, found => postOrderFrom later (node :: found)
  | .visit (.num value span) :: later, found => postOrderFrom later (.num value span :: found)
  | .visit (.binary op left right span) :: later, found =>
      let node := Tree.binary op left right span
      postOrderFrom (.visit left :: .visit right :: .emit node :: later) found
termination_by pending => (pending.map Pending.weight).foldr (· + ·) 0
decreasing_by
  all_goals simp [Pending.weight, size]
  all_goals omega

def postOrder (tree : Tree) : List Tree :=
  postOrderFrom [.visit tree] []

theorem postOrderFrom_visit (tree : Tree) (later : List Pending) (found : List Tree) :
    postOrderFrom (.visit tree :: later) found =
      postOrderFrom later ((postOrder tree).reverse ++ found) := by
  induction tree generalizing later found with
  | num value span => simp [postOrder, postOrderFrom]
  | binary op left right span ihLeft ihRight =>
      simp only [postOrder, postOrderFrom] at ihLeft ihRight ⊢
      rw [ihLeft, ihRight, ihLeft (.visit right :: _), ihRight (.emit _ :: _)]
      simp [postOrderFrom]

theorem postOrder_num (value : Int) (span : Option Span) :
    postOrder (.num value span) = [.num value span] := by
  simp [postOrder, postOrderFrom]

theorem postOrder_binary (op : Operator) (left right : Tree) (span : Option Span) :
    postOrder (.binary op left right span) =
      postOrder left ++ postOrder right ++ [.binary op left right span] := by
  rw [postOrder, postOrderFrom, postOrderFrom_visit, postOrderFrom_visit]
  simp [postOrderFrom]

end Tree

end ExprCompiler
