import ExprCompiler.Proofs.EarliestError
import ExprCompiler.Proofs.GrammarExact
import ExprCompiler.Proofs.ParserSession

set_option autoImplicit false

namespace ExprCompiler

namespace Progress

end Progress

namespace ParseState

end ParseState

section

variable {start : ParseState} (terminated : Terminated start.remaining) (fresh : start.depth = 0)

include terminated fresh

end

def resultOf {α : Type} : EStateM.Result SyntaxError ParseState α → Except SyntaxError α
  | .ok value _ => .ok value
  | .error error _ => .error error

end ExprCompiler
