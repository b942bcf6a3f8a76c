import ExprCompiler.Diagnostic
import ExprCompiler.Token

set_option autoImplicit false

namespace ExprCompiler

inductive SyntaxError where
  | missingSymbol (symbol : String) (found : Token)
  | missingNumber (found : Token)
  | trailingToken (found : Token)
  | tooDeep (found : Token) (limit : Int)
deriving DecidableEq, Repr

namespace SyntaxError

def token : SyntaxError → Token
  | .missingSymbol _ found => found
  | .missingNumber found => found
  | .trailingToken found => found
  | .tooDeep found _ => found

def code : SyntaxError → ErrorCode
  | .missingSymbol _ _ => .missingSymbol
  | .missingNumber _ => .missingNumber
  | .trailingToken _ => .trailingToken
  | .tooDeep _ _ => .tooDeep

def message : SyntaxError → String
  | .missingSymbol symbol found => s!"expected '{symbol}', found {found.phrase}"
  | .missingNumber found => s!"expected a number, found {found.phrase}"
  | .trailingToken found => s!"unexpected token {found.phrase} after expression"
  | .tooDeep _ limit =>
      s!"expression nested too deeply (more than {limit} levels of parentheses)"

def help : SyntaxError → String
  | .missingSymbol symbol _ => s!"The parser expected to see '{symbol}' at this position."
  | .missingNumber _ => "An operand must be an integer literal or a parenthesized expression."
  | .trailingToken _ => "The input must contain exactly one expression."
  | .tooDeep _ _ => "Split the expression or remove redundant parentheses."

def suggestions : SyntaxError → Option (List String)
  | .missingSymbol symbol _ =>
      some (if symbol = ")" then ["Add a closing parenthesis ')'"] else [])
  | .missingNumber _ => some ["Ensure all operators have operands"]
  | .trailingToken _ => some ["Check for an unbalanced ')' or a missing operator"]
  | .tooDeep _ _ => none

def report (error : SyntaxError) : Diagnostic where
  message := error.message
  location := error.token.location
  severity := "error"
  code := some error.code.tag
  help := some error.help
  suggestions := error.suggestions

end SyntaxError

end ExprCompiler
