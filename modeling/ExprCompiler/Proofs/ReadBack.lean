import ExprCompiler.Proofs.AssemblyText
import ExprCompiler.Proofs.Rendering
import Mathlib.Tactic.TFAE

set_option autoImplicit false

namespace ExprCompiler

namespace Expr

end Expr

namespace Expr

def words : Expr → List (List Char)
  | .num value => ["Num".toList, (toString value).toList]
  | .binary op left right => op.label.toList :: (left.words ++ right.words)

end Expr

end ExprCompiler
