import ExprCompiler.Text.Printable

set_option autoImplicit false

namespace ExprCompiler

-- An integer may be too long to be written, and a stack may hold no text to be taken.
inductive PrintError where
  | tooManyDigits
  | emptyStack
deriving DecidableEq, Repr

namespace Text

def maxDigits : Nat := 4300

def digitCount (value : Int) : Nat :=
  (Nat.toDigits 10 value.natAbs).length

def decimal (value : Int) : Except PrintError String :=
  if digitCount value ≤ maxDigits then .ok (toString value) else .error .tooManyDigits

def apostrophe : Char := '\x27'

def doubleQuote : Char := '\x22'

def backslash : Char := '\x5c'

def enclosingQuote (text : List Char) : Char :=
  if apostrophe ∈ text ∧ doubleQuote ∉ text then doubleQuote else apostrophe

def hexadecimal (width code : Nat) : List Char :=
  let digits := Nat.toDigits 16 code
  List.replicate (width - digits.length) '0' ++ digits

-- The shortest of the three code point escapes that fits.
def codeEscape (code : Nat) : List Char :=
  if code < 0x100 then backslash :: 'x' :: hexadecimal 2 code
  else if code < 0x10000 then backslash :: 'u' :: hexadecimal 4 code
  else backslash :: 'U' :: hexadecimal 8 code

def quotedChar (quote c : Char) : List Char :=
  if c = backslash ∨ c = quote then [backslash, c]
  else if c = '\n' then [backslash, 'n']
  else if c = '\r' then [backslash, 'r']
  else if c = '\t' then [backslash, 't']
  else if isPrintable c then [c]
  else codeEscape c.toNat

def quotedChars (text : List Char) : List Char :=
  let quote := enclosingQuote text
  quote :: text.flatMap (quotedChar quote) ++ [quote]

def quoted (text : String) : String :=
  String.ofList (quotedChars text.toList)

end Text

def PrintError.message : PrintError → String
  | .tooManyDigits =>
      s!"Exceeds the limit ({Text.maxDigits} digits) for integer string conversion; " ++
        "use sys.set_int_max_str_digits() to increase the limit"
  | .emptyStack => "pop from empty list"

end ExprCompiler
