import ExprCompiler.CommandLine.Log
import ExprCompiler.SourceFile

set_option autoImplicit false

namespace ExprCompiler

-- Without an output path the result goes to the standard output.
structure Settings where
  file : Option String
  output : Option String
  format : OutputFormat
  level : LogLevel
deriving DecidableEq, Repr

-- `written` tells the paths that hold a new text. An error that nobody handles is kept in `failure`,
-- and the trace of it is no part of `stderr`.
structure Outcome where
  status : Nat
  stdout : String
  stderr : String
  written : List (String × String)
  failure : Option Failure
deriving DecidableEq, Repr

namespace Outcome

def after (changed : List (String × String)) (outcome : Outcome) : Outcome :=
  { outcome with written := changed ++ outcome.written }

def behind (log : String) (outcome : Outcome) : Outcome :=
  { outcome with stderr := log ++ outcome.stderr }

end Outcome

-- What the arguments come to before the program itself starts, and the files changed by then.
inductive Invocation where
  | answered (outcome : Outcome)
  | failed (failure : Failure)
  | started (expression : Option String) (settings : Settings) (changed : List (String × String))

-- What the first write to a path comes to. A path that is opened is emptied.
inductive Opening where
  | opened
  | refused (outcome : Outcome)
  | failed (failure : Failure)

-- The program does not read its arguments, show messages or open files by itself. `display` is what
-- the error stream shows of a log, `echo` what it shows of a message.
structure Toolkit where
  invoke : FileSystem → Option String → List String → Invocation
  misuse : String → Outcome
  display : String → String
  echo : String → String
  shows : Char → Bool
  opens : FileSystem → String → Opening
  encodes : String → Bool

namespace CommandLine

variable (kit : Toolkit) (files : FileSystem)

-- The output file is opened only now, and only then does it show whether the text can be encoded.
def deliver (settings : Settings) (text : String) : Outcome :=
  match settings.output with
  | none =>
      if kit.encodes text then ⟨0, text, "", [], none⟩ else ⟨1, "", "", [], some .unencodable⟩
  | some path =>
      match kit.opens files path with
      | .refused outcome => outcome
      | .failed failure => ⟨1, "", "", [], some failure⟩
      | .opened =>
          if kit.encodes text then ⟨0, "", "", [(path, text)], none⟩
          else ⟨1, "", "", [(path, "")], some .unencodable⟩

def compileSource (settings : Settings) (name source : String) : Outcome :=
  let compilation := CompileM.output name source settings.format
  let log := kit.display (Event.log settings.level compilation.events)
  match compilation.result with
  | .ok text => (deliver kit files settings text).behind log
  | .error error =>
      match error.report? with
      | some report => ⟨1, "", log ++ kit.echo (report.render source), [], none⟩
      | none => ⟨1, "", log, [], some (.compile error)⟩

def expressionName : String := "<command-line>"

def start (expression : Option String) (settings : Settings) : Outcome :=
  match expression, settings.file with
  | some _, some _ => kit.misuse "give either EXPRESSION or --file, not both"
  | none, none => kit.misuse "missing EXPRESSION or --file"
  | some source, none => compileSource kit files settings expressionName source
  | none, some path =>
      match files.readText path with
      | .error error => ⟨1, "", "", [], some (.file error)⟩
      | .ok source => compileSource kit files settings path source

-- `environment` is the value of the variable `EXPRCC_LOG_LEVEL`.
def run (environment : Option String) (arguments : List String) : Outcome :=
  match kit.invoke files environment arguments with
  | .answered outcome => outcome
  | .failed failure => ⟨1, "", "", [], some failure⟩
  | .started expression settings changed => (start kit files expression settings).after changed

end CommandLine

end ExprCompiler
