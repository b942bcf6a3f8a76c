import ExprCompiler.Source.Location

set_option autoImplicit false

namespace ExprCompiler

namespace Lexeme

def isBlank (c : Char) : Bool :=
  c == ' ' || c == '\t' || c == '\r' || c == '\n'

def isDigit (c : Char) : Bool :=
  '0' ≤ c && c ≤ '9'

def decimalValue (digits : List Char) : Nat :=
  digits.foldl (fun value digit => 10 * value + (digit.toNat - '0'.toNat)) 0

def longOperators : List String := ["==", "!=", "<=", ">="]

def shortOperators : List String := ["+", "-", "*", "/", "(", ")", "<", ">"]

-- A long operator is taken before a short one.
def operatorAt? (text : List Char) : Option String :=
  (longOperators ++ shortOperators).find? fun operator => operator.toList.isPrefixOf text

theorem operatorAt?_length_pos (text : List Char) (operator : String)
    (found : operatorAt? text = some operator) : 0 < operator.length := by
  have positive : ∀ operator ∈ longOperators ++ shortOperators, 0 < operator.length := by decide
  exact positive operator (List.mem_of_find?_eq_some found)

end Lexeme

inductive TokenKind where
  | reserved
  | number
  | endOfInput
deriving DecidableEq, Repr

namespace TokenKind

def all : List TokenKind := [.reserved, .number, .endOfInput]

def name : TokenKind → String
  | .reserved => "RESERVED"
  | .number => "NUMBER"
  | .endOfInput => "EOF"

def text (kind : TokenKind) (lexeme : String) (value : Option Int) : Except PrintError String :=
  match value with
  | some value => (Text.decimal value).map fun digits => s!"{kind.name}({Text.quoted lexeme} -> {digits})"
  | none => .ok s!"{kind.name}({Text.quoted lexeme})"

def details (kind : TokenKind) (lexeme : String) (value : Option Int) (place : Location) :
    Except PrintError String :=
  let digits := match value with
    | some value => Text.decimal value
    | none => .ok "None"
  digits.map fun digits => s!"Token({kind.name}, {Text.quoted lexeme}, {digits}, {place.details})"

def phrase (kind : TokenKind) (lexeme : String) : String :=
  if kind = .endOfInput then "end of input" else s!"'{lexeme}'"

theorem reserved_valued : TokenKind.reserved = .number → (none : Option Int).isSome = true :=
  nofun

theorem end_valued : TokenKind.endOfInput = .number → (none : Option Int).isSome = true :=
  nofun

end TokenKind

-- A token made by hand may hold any lexeme, and a value also if it is no number.
structure Token where
  kind : TokenKind
  lexeme : String
  value : Option Int
  location : Location
  valued : kind = .number → value.isSome = true := by
    first | exact fun _ => rfl | exact TokenKind.reserved_valued | exact TokenKind.end_valued
deriving DecidableEq, Repr

namespace Token

def onFirstLine (kind : TokenKind) (lexeme : String) (value : Option Int) (file : String) (offset : Int)
    (valued : kind = .number → value.isSome = true := by
      first | exact fun _ => rfl | exact TokenKind.reserved_valued | exact TokenKind.end_valued) : Token :=
  ⟨kind, lexeme, value, ⟨file, 1, offset + 1, offset⟩, valued⟩

def isReserved (token : Token) : Bool :=
  token.kind == .reserved

def isSymbol (token : Token) (symbol : String) : Bool :=
  token.isReserved && token.lexeme == symbol

def isNumber (token : Token) : Bool :=
  token.kind == .number

def isEnd (token : Token) : Bool :=
  token.kind == .endOfInput

def integer (token : Token) (numeral : token.isNumber = true) : Int :=
  token.value.get (token.valued (beq_iff_eq.mp numeral))

def stop (token : Token) : Location :=
  token.location.shift token.lexeme.length

def span (token : Token) : Span :=
  ⟨token.location, token.stop⟩

def phrase (token : Token) : String :=
  token.kind.phrase token.lexeme

def text (token : Token) : Except PrintError String :=
  token.kind.text token.lexeme token.value

def details (token : Token) : Except PrintError String :=
  token.kind.details token.lexeme token.value token.location

def dumpLine (token : Token) : Except PrintError String :=
  token.text.map fun text => s!"{token.location.text}\t{text}"

def dump (tokens : List Token) : Except PrintError String :=
  (tokens.mapM dumpLine).map "\n".intercalate

end Token

end ExprCompiler
