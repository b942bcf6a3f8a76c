import ExprCompiler.Diagnostic
import ExprCompiler.Text.Letter
import ExprCompiler.Token

set_option autoImplicit false

namespace ExprCompiler

inductive ScanError where
  | invalidCharacter (text : String) (location : Location)
  | literalTooLong (digits : Nat)
  | pastEnd
deriving DecidableEq, Repr

namespace ScanError

def message : ScanError → String
  | .invalidCharacter _ _ => "invalid token"
  | .literalTooLong digits =>
      s!"Exceeds the limit ({Text.maxDigits} digits) for integer string conversion: " ++
        s!"value has {digits} digits; use sys.set_int_max_str_digits() to increase the limit"
  | .pastEnd => "string index out of range"

def suggestions (text : String) : List String :=
  if Text.isWord text || text == "_" then
    ["Identifiers are not supported; only integer literals may appear"]
  else if text == "=" then ["Use '==' for comparison"]
  else if text == "!" then ["Use '!=' for not equal"]
  else []

def invalidCharacterReport (text : String) (location : Location) : Diagnostic where
  message := message (.invalidCharacter text location)
  location := location
  severity := "error"
  code := some ErrorCode.invalidCharacter.tag
  help := some s!"The character {Text.quoted text} cannot start a token."
  suggestions := some (suggestions text)

def report? : ScanError → Option Diagnostic
  | .invalidCharacter text location => some (invalidCharacterReport text location)
  | .literalTooLong _ | .pastEnd => none

end ScanError

end ExprCompiler
