import ExprCompiler.CommandLine.UsageError

set_option autoImplicit false

namespace ExprCompiler

inductive Switch where
  | file
  | output
  | emit
  | logLevel
  | version
  | help
deriving DecidableEq, Repr

namespace Switch

def all : List Switch := [.file, .output, .emit, .logLevel, .version, .help]

def long : Switch → String
  | .file => "--file"
  | .output => "--output"
  | .emit => "--emit"
  | .logLevel => "--log-level"
  | .version => "--version"
  | .help => "--help"

def letter? : Switch → Option Char
  | .file => some 'f'
  | .output => some 'o'
  | _ => none

def takesValue : Switch → Bool
  | .version | .help => false
  | _ => true

-- These are answered before any value is looked at.
def isInformation (switch : Switch) : Bool :=
  switch == .version || switch == .help

def hint (switch : Switch) : String :=
  match switch.letter? with
  | some letter => s!"'-{letter}' / '{switch.long}'"
  | none => s!"'{switch.long}'"

def ofLong? (name : String) : Option Switch :=
  all.find? fun switch => switch.long == name

def ofLetter? (letter : Char) : Option Switch :=
  all.find? fun switch => switch.letter? == some letter

end Switch

inductive Reading where
  | operand
  | information (switch : Switch)
  | setting (switch : Switch) (name : String) (value : Option String)
  | misuse (error : UsageError)
deriving DecidableEq, Repr

namespace Reading

def splitValue (text : List Char) : String × Option String :=
  let name := String.ofList (text.takeWhile (· != '='))
  match text.dropWhile (· != '=') with
  | [] => (name, none)
  | _ :: value => (name, some (String.ofList value))

def ofLetter (letter : Char) (value : List Char) : Reading :=
  let name := String.ofList ['-', letter]
  match Switch.ofLetter? letter with
  | none => .misuse (.noSuchOption name [])
  | some switch =>
      .setting switch name (if value.isEmpty then none else some (String.ofList value))

-- A long name is looked for first; what starts with one dash may also be a one-letter name.
def ofArgument (argument : String) : Reading :=
  match argument.toList with
  | '-' :: second :: rest =>
      let (name, value) := splitValue ('-' :: second :: rest)
      match Switch.ofLong? name with
      | some switch =>
          if switch.takesValue then .setting switch name value
          else if value.isSome then .misuse (.needlessValue name)
          else .information switch
      | none =>
          if second = '-' then
            .misuse (.noSuchOption name (Text.closeMatches name (Switch.all.map Switch.long)))
          else ofLetter second rest
  | _ => .operand

end Reading

-- Options come in the order given, each with its value or an empty text.
structure Arguments where
  switches : List (Switch × String)
  operands : List String
deriving DecidableEq, Repr

namespace Arguments

def addSwitch (arguments : Arguments) (switch : Switch) (value : String) : Arguments :=
  { arguments with switches := (switch, value) :: arguments.switches }

def addOperand (arguments : Arguments) (operand : String) : Arguments :=
  { arguments with operands := operand :: arguments.operands }

def split : List String → Except UsageError Arguments
  | [] => .ok ⟨[], []⟩
  | argument :: later =>
      if argument = "--" then .ok ⟨[], later⟩
      else
        match Reading.ofArgument argument with
        | .misuse error => .error error
        | .operand => (split later).map (·.addOperand argument)
        | .information switch => (split later).map (·.addSwitch switch "")
        | .setting switch _ (some value) => (split later).map (·.addSwitch switch value)
        | .setting switch name none =>
            match later with
            | [] => .error (.missingValue name)
            | value :: later => (split later).map (·.addSwitch switch value)

-- Each option once, in the order of first use, with its last value.
def settings (arguments : Arguments) : List (Switch × String) :=
  (arguments.switches.map Prod.fst).eraseDups.map fun switch =>
    (switch, ((arguments.switches.filter fun entry => entry.1 == switch).map Prod.snd).getLastD "")

end Arguments

end ExprCompiler
