import ExprCompiler.Compile
import ExprCompiler.Files

set_option autoImplicit false

namespace ExprCompiler

inductive Failure where
  | file (error : FileError)
  | compile (error : CompileError)
  | unencodable
deriving DecidableEq, Repr

namespace Failure

def message : Failure → String
  | .file error => error.message
  | .compile error => error.message
  | .unencodable => "the result cannot be encoded"

end Failure

namespace SourceFile

def scan (files : FileSystem) (path : String) : Except Failure (List Token) :=
  match files.readText path with
  | .error error => .error (.file error)
  | .ok source => (Token.scan path source).mapError fun error => .compile (.scan error)

def compile (files : FileSystem) (path label : String) : Except Failure String :=
  match files.readText path with
  | .error error => .error (.file error)
  | .ok source => (compileAs path source label).mapError .compile

end SourceFile

end ExprCompiler
