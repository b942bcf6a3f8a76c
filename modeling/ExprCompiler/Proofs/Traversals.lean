import ExprCompiler.Proofs.Rendering
import Mathlib.Data.List.Nodup

set_option autoImplicit false

namespace ExprCompiler

namespace Tree

def nodes : Tree → List Tree
  | .num value span => [.num value span]
  | .binary op left right span => left.nodes ++ right.nodes ++ [.binary op left right span]

end Tree

end ExprCompiler
