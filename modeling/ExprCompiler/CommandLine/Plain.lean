import ExprCompiler.CommandLine.Arguments
import ExprCompiler.CommandLine.Run

set_option autoImplicit false

namespace ExprCompiler

-- A path that no file system could hold is no misuse.
inductive SettingError where
  | misuse (error : UsageError)
  | file (error : FileError)
deriving DecidableEq, Repr

namespace Settings

def initial : Settings := ⟨none, none, .asm, .warning⟩

def set (files : FileSystem) (settings : Settings) :
    Switch × String → Except SettingError Settings
  | (.file, path) =>
      match files.read path with
      | .ok _ => .ok { settings with file := some path }
      | .error .nullByte => .error (.file (.unopened .nullByte path))
      | .error .folder => .error (.misuse (.folderAsFile Switch.file.hint path))
      | .error _ => .error (.misuse (.missingFile Switch.file.hint path))
  | (.output, path) =>
      .ok { settings with output := if path = "-" then none else some path }
  | (.emit, label) =>
      match OutputFormat.ofLabel? label with
      | none =>
          let choices := OutputFormat.all.map OutputFormat.label
          .error (.misuse (.badChoice Switch.emit.hint label choices))
      | some format => .ok { settings with format := format }
  | (.logLevel, label) =>
      match LogLevel.ofLabel? label with
      | none =>
          let choices := LogLevel.all.map LogLevel.label
          .error (.misuse (.badChoice Switch.logLevel.hint label choices))
      | some level => .ok { settings with level := level }
  | (.version, _) | (.help, _) => .ok settings

-- The level of the environment stands in for a missing option, unless it is empty, and comes last.
def ofArguments (files : FileSystem) (environment : Option String) (arguments : Arguments) :
    Except SettingError Settings :=
  let given := arguments.settings
  let inherited :=
    match environment with
    | none | some "" => []
    | some label => if given.any (·.1 == .logLevel) then [] else [(.logLevel, label)]
  (given ++ inherited).foldlM (set files) initial

end Settings

namespace Toolkit

def answer (status : Nat) (stdout stderr : String) : Outcome :=
  ⟨status, stdout, stderr, [], none⟩

def refuse (error : UsageError) : Invocation :=
  .answered (answer 2 "" (CommandLine.usageErrorText error))

def read (files : FileSystem) (environment : Option String) (arguments : List String) : Invocation :=
  match Arguments.split arguments with
  | .error error => refuse error
  | .ok arguments =>
      match (arguments.switches.map Prod.fst).find? Switch.isInformation with
      | some .version => .answered (answer 0 CommandLine.versionText "")
      | some _ => .answered (answer 0 CommandLine.helpText "")
      | none =>
          match Settings.ofArguments files environment arguments with
          | .error (.misuse error) => refuse error
          | .error (.file error) => .failed (.file error)
          | .ok settings =>
              match arguments.operands with
              | _ :: extra :: more => refuse (.extraArguments (extra :: more))
              | [expression] => .started (some expression) settings []
              | [] => .started none settings []

def openTarget (files : FileSystem) (path : String) : Opening :=
  match files.writeFault path with
  | none => .opened
  | some .nullByte => .failed (.file (.unopened .nullByte path))
  | some fault =>
      .refused (answer 1 "" s!"Error: Could not open file {Text.quoted path}: {fault.reason}\n")

-- Streams that are no terminals and write every character.
def plain : Toolkit where
  invoke := read
  misuse message := answer 2 "" (CommandLine.usageErrorText (.ofProgram message))
  display log := log
  echo := Text.withoutControls
  shows _ := true
  opens := openTarget
  encodes _ := true

end Toolkit

end ExprCompiler
