import ExprCompiler.Source.Location

set_option autoImplicit false

namespace ExprCompiler

inductive ErrorCode where
  | invalidCharacter
  | missingSymbol
  | missingNumber
  | trailingToken
  | tooDeep
deriving DecidableEq, Repr

namespace ErrorCode

def tag : ErrorCode → String
  | .invalidCharacter => "L001"
  | .missingSymbol => "P001"
  | .missingNumber => "P002"
  | .trailingToken => "P003"
  | .tooDeep => "P004"

def title : ErrorCode → String
  | .invalidCharacter => "Invalid character"
  | .missingSymbol => "Expected token not found"
  | .missingNumber => "Expected a number"
  | .trailingToken => "Unexpected token after expression"
  | .tooDeep => "Parentheses nested too deeply"

def lexical : List ErrorCode := [.invalidCharacter]

def grammatical : List ErrorCode := [.missingSymbol, .missingNumber, .trailingToken, .tooDeep]

end ErrorCode

def Text.isAscii (text : String) : Bool :=
  text.toList.all fun c => c.toNat < 128

theorem Text.error_ascii : Text.isAscii "error" = true := rfl

-- An empty code, help text or list of suggestions is shown as if it were missing.
structure Diagnostic where
  message : String
  location : Location
  severity : String
  code : Option String
  help : Option String
  suggestions : Option (List String)
  plain : Text.isAscii severity = true := by first | exact Text.error_ascii | rfl
deriving DecidableEq, Repr

namespace Diagnostic

def heading (report : Diagnostic) : String :=
  report.severity.map Char.toUpper

def helpLine (report : Diagnostic) : String :=
  match report.help with
  | none | some "" => ""
  | some help => s!"  help: {help}\n"

def suggestionLines (report : Diagnostic) : String :=
  match report.suggestions with
  | none | some [] => ""
  | some suggestions =>
      "  suggestions:\n" ++ String.join (suggestions.map fun advice => s!"    - {advice}\n")

def text (report : Diagnostic) : String :=
  s!"{report.heading}: {report.message}\n  --> {report.location.text}\n" ++
    report.helpLine ++ report.suggestionLines

def codeTag (report : Diagnostic) : String :=
  match report.code with
  | none | some "" => ""
  | some code => s!"[{code}]"

-- The offset, moved to the nearer end of the source where it lies outside.
def anchor (report : Diagnostic) (source : List Char) : Nat :=
  min report.location.offset.toNat source.length

-- The index of the last newline in front of `stop`; -1 if there is none.
def newlineBefore (source : List Char) (stop : Nat) : Int :=
  match (source.take stop).reverse.findIdx? (· == '\n') with
  | none => -1
  | some back => (source.take stop).length - 1 - back

-- The index of the first newline from `start` on; -1 if there is none.
def newlineFrom (source : List Char) (start : Nat) : Int :=
  match (source.drop start).findIdx? (· == '\n') with
  | none => -1
  | some ahead => start + ahead

def lineStart (report : Diagnostic) (source : List Char) : Nat :=
  (newlineBefore source (report.anchor source) + 1).toNat

def lineStop (report : Diagnostic) (source : List Char) : Nat :=
  let newline := newlineFrom source (report.anchor source)
  if newline = -1 then source.length else newline.toNat

def sourceLine (report : Diagnostic) (source : List Char) : List Char :=
  (source.take (report.lineStop source)).drop (report.lineStart source)

-- Tabs of the line are kept, so that the caret stands under its character at any tab width.
def caretMargin (report : Diagnostic) (source : List Char) : List Char :=
  ((report.sourceLine source).take (report.anchor source - report.lineStart source)).map fun c =>
    if c = '\t' then '\t' else ' '

def render (report : Diagnostic) (source : String) : String :=
  let line := String.ofList (report.sourceLine source.toList)
  let margin := String.ofList (report.caretMargin source.toList)
  s!"{report.heading}{report.codeTag}: {report.message}\n  --> {report.location.text}\n" ++
    s!"{line}\n{margin}^ {report.message}\n" ++ report.helpLine

end Diagnostic

end ExprCompiler
