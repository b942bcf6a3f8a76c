import ExprCompiler.CommandLine.Plain

set_option autoImplicit false

namespace ExprCompiler.CommandLine

def faultOf : IO.Error → PathFault
  | .noFileOrDirectory .. => .missing
  | .inappropriateType _ code _ => if code = 21 then .folder else .notFolder
  | .invalidArgument _ code details => if code = 36 then .nameTooLong else .other details
  | .permissionDenied _ _ details => .other details
  | error => .other (toString error)

def lookAt (path : String) : IO (Except PathFault ByteArray) := do
  match ← (IO.FS.readBinFile path).toBaseIO with
  | .ok content => return .ok content
  | .error error => return .error (faultOf error)

-- The file system as far as a run can see it: one path that may be read.
def view (arguments : List String) : IO (String → Except PathFault ByteArray) := do
  match Arguments.split arguments with
  | .error _ => return fun _ => .error .missing
  | .ok arguments =>
      match arguments.settings.find? (·.1 == .file) with
      | none => return fun _ => .error .missing
      | some (_, path) => do
          let content ← lookAt path
          return fun other => if other = path then content else .error .missing

def write (outcome : Outcome) : IO (Option PathFault) := do
  for (path, text) in outcome.written do
    match ← (IO.FS.writeFile path text).toBaseIO with
    | .ok () => pure ()
    | .error error => return some (faultOf error)
  return none

def report (outcome : Outcome) : IO UInt32 := do
  IO.print outcome.stdout
  IO.eprint outcome.stderr
  match outcome.failure with
  | some failure => IO.eprintln failure.message
  | none => pure ()
  return outcome.status.toUInt32

end ExprCompiler.CommandLine

open ExprCompiler ExprCompiler.CommandLine in
def main (arguments : List String) : IO UInt32 := do
  let environment ← IO.getEnv "EXPRCC_LOG_LEVEL"
  let read ← view arguments
  let outcome := run .plain ⟨read, fun _ => none⟩ environment arguments
  match ← write outcome with
  | none => report outcome
  | some fault => report (run .plain ⟨read, fun _ => some fault⟩ environment arguments)
