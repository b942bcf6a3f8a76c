import ExprCompiler.Text.Display
import ExprCompiler.Text.Similarity

set_option autoImplicit false

namespace ExprCompiler

namespace Text

def isControlParameter (c : Char) : Bool :=
  c.isDigit || c == ';' || c == '?'

-- An escape character, a bracket, any number of parameters and one final letter.
def controlLength : List Char → Nat
  | '\x1b' :: '[' :: rest =>
      match rest.dropWhile isControlParameter with
      | final :: _ =>
          if final.isAlpha then (rest.takeWhile isControlParameter).length + 3 else 0
      | [] => 0
  | _ => 0

-- What a removed sequence joins is not looked at again.
def withoutControlsFrom : Nat → List Char → List Char
  | _, [] => []
  | skip + 1, _ :: rest => withoutControlsFrom skip rest
  | 0, c :: rest =>
      match controlLength (c :: rest) with
      | 0 => c :: withoutControlsFrom 0 rest
      | more + 1 => withoutControlsFrom more rest

def withoutControls (text : String) : String :=
  String.ofList (withoutControlsFrom 0 text.toList)

end Text

inductive UsageError where
  | noSuchOption (name : String) (similar : List String)
  | missingValue (name : String)
  | needlessValue (name : String)
  | badChoice (hint value : String) (choices : List String)
  | missingFile (hint path : String)
  | folderAsFile (hint path : String)
  | extraArguments (arguments : List String)
  | ofProgram (message : String)
deriving DecidableEq, Repr

namespace UsageError

def message : UsageError → String
  | .noSuchOption name [] => s!"No such option: {name}"
  | .noSuchOption name [option] => s!"No such option: {name} Did you mean {option}?"
  | .noSuchOption name options =>
      let listed := ", ".intercalate (options.mergeSort fun a b => a ≤ b)
      s!"No such option: {name} (Possible options: {listed})"
  | .missingValue name => s!"Option '{name}' requires an argument."
  | .needlessValue name => s!"Option '{name}' does not take a value."
  | .badChoice hint value choices =>
      let listed := ", ".intercalate (choices.map Text.quoted)
      s!"Invalid value for {hint}: {Text.quoted value} is not one of {listed}."
  | .missingFile hint path => s!"Invalid value for {hint}: File {Text.quoted path} does not exist."
  | .folderAsFile hint path => s!"Invalid value for {hint}: File {Text.quoted path} is a directory."
  | .extraArguments arguments =>
      let noun := if arguments.length = 1 then "argument" else "arguments"
      let listed := " ".intercalate arguments
      s!"Got unexpected extra {noun} ({listed})"
  | .ofProgram message => message

def remindsOfUsage : UsageError → Bool
  | .missingValue _ | .needlessValue _ => false
  | _ => true

end UsageError

namespace CommandLine

def usage : String := "Usage: exprcc [OPTIONS] [EXPRESSION]\n"

-- Arguments may stand in a message as they were given, so control sequences are taken out.
def usageErrorText (error : UsageError) : String :=
  let reminder :=
    if error.remindsOfUsage then usage ++ "Try 'exprcc --help' for help.\n\n" else ""
  reminder ++ Text.withoutControls s!"Error: {error.message}\n"

def version : String := "0.1.0"

def versionText : String := s!"exprcc, version {version}\n"

def helpText : String :=
  usage ++
  "\n" ++
  "  Compile an integer EXPRESSION to x86-64 assembly.\n" ++
  "\n" ++
  "Options:\n" ++
  "  -f, --file FILE                 Read the expression from a file instead of the\n" ++
  "                                  command line.\n" ++
  "  -o, --output FILENAME           Where to write the result (default: stdout).\n" ++
  "  --emit [asm|ast|tokens]         What to produce.  [default: asm]\n" ++
  "  --log-level [DEBUG|INFO|WARNING|ERROR]\n" ++
  "                                  Logging verbosity.  [default: WARNING]\n" ++
  "  --version                       Show the version and exit.\n" ++
  "  --help                          Show this message and exit.\n"

end CommandLine

end ExprCompiler
