import ExprCompiler.Assembly.Instr
import ExprCompiler.Tree.Traversal

set_option autoImplicit false

namespace ExprCompiler

namespace Operator

def core : Operator → List Instr
  | .add => [.add]
  | .sub => [.sub]
  | .mul => [.imul]
  | .div => [.cqo, .idiv]
  | .equal => [.cmp, .set .equal, .movzb]
  | .notEqual => [.cmp, .set .notEqual, .movzb]
  | .lessThan => [.cmp, .set .less, .movzb]
  | .lessOrEqual => [.cmp, .set .lessOrEqual, .movzb]

end Operator

-- The right operand is on top of the stack.
def loadOperands : List Instr :=
  [.pop .rdi, .pop .rax]

-- `emitted` is what came before there was found to be no code.
structure NoJoiningCode where
  kind : NodeKind
  emitted : List Instr
deriving DecidableEq, Repr

namespace NoJoiningCode

def message (error : NoJoiningCode) : String :=
  s!"no code generation rule for {error.kind.qualified}"

end NoJoiningCode

def NodeKind.joiningCode : NodeKind → Except NoJoiningCode (List Instr)
  | .num => .error ⟨.num, loadOperands⟩
  | .binary op => .ok (loadOperands ++ op.core ++ [.push .rax])

def Operator.code (op : Operator) : List Instr :=
  settled (NodeKind.binary op).joiningCode rfl

theorem Operator.code_apply (op : Operator) : op.code = loadOperands ++ op.core ++ [.push .rax] := rfl

namespace Tree

def nodeCode : Tree → List Instr
  | .num value _ => [.pushValue value]
  | .binary op _ _ _ => op.code

-- What there is so far is in `found`, the last instruction first.
def codeFrom : List Pending → List Instr → List Instr
  | [], found => found.reverse
  | .emit node :: later, found => codeFrom later (node.nodeCode.reverse ++ found)
  | .visit (.num value _) :: later, found => codeFrom later (.pushValue value :: found)
  | .visit (.binary op left right span) :: later, found =>
      let node := Tree.binary op left right span
      codeFrom (.visit left :: .visit right :: .emit node :: later) found
termination_by pending => (pending.map Pending.weight).foldr (· + ·) 0
decreasing_by
  all_goals simp [Pending.weight, size]
  all_goals omega

def code (tree : Tree) : List Instr :=
  codeFrom [.visit tree] []

-- Both loops take their pending work in the same order: where one gives out a node, the other gives
-- out its code.
theorem codeFrom_nodes (pending : List Pending) (found : List Tree) :
    codeFrom pending (found.reverse.flatMap nodeCode).reverse = (postOrderFrom pending found).flatMap nodeCode := by
  fun_induction postOrderFrom pending found with
  | case1 found => rw [codeFrom, List.reverse_reverse]
  | case2 node later found ih =>
      rw [codeFrom, ← ih]
      simp
  | case3 value span later found ih =>
      rw [codeFrom, ← ih]
      simp [nodeCode]
  | case4 op left right span later found node ih => rw [codeFrom, ← ih]

theorem code_nodes (tree : Tree) : tree.code = tree.postOrder.flatMap nodeCode :=
  codeFrom_nodes [.visit tree] []

def defaultEntry : String := "main"

def listingLines (tree : Tree) (entry : String) : Except PrintError (List String) :=
  let body : List Instr := tree.code ++ [.pop .rax, .ret]
  (body.mapM Instr.text).map fun lines =>
    [".intel_syntax noprefix", s!".global {entry}", s!"{entry}:"] ++ lines.map fun line => s!"\t{line}"

def listing (tree : Tree) (entry : String) : Except PrintError String :=
  (tree.listingLines entry).map fun lines => "\n".intercalate lines ++ "\n"

end Tree

end ExprCompiler
