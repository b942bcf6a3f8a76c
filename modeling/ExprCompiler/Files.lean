import ExprCompiler.Text.Display

set_option autoImplicit false

namespace ExprCompiler

namespace Text

-- A carriage return, alone or before a line feed, is read as a line feed.
def unifyNewlines : List Char → List Char
  | [] => []
  | '\r' :: '\n' :: rest => '\n' :: unifyNewlines rest
  | '\r' :: rest => '\n' :: unifyNewlines rest
  | c :: rest => c :: unifyNewlines rest

def decode? (bytes : ByteArray) : Option String :=
  (String.fromUTF8? bytes).map fun text => String.ofList (unifyNewlines text.toList)

end Text

inductive PathFault where
  | missing
  | notFolder
  | folder
  | nameTooLong
  | nullByte
  | other (reason : String)
deriving DecidableEq, Repr

namespace PathFault

def reason : PathFault → String
  | .missing => "No such file or directory"
  | .notFolder => "Not a directory"
  | .folder => "Is a directory"
  | .nameTooLong => "File name too long"
  | .nullByte => "embedded null byte"
  | .other reason => reason

def number? : PathFault → Option Nat
  | .missing => some 2
  | .notFolder => some 20
  | .folder => some 21
  | .nameTooLong => some 36
  | .nullByte | .other _ => none

def message (fault : PathFault) (path : String) : String :=
  match fault.number? with
  | some number => s!"[Errno {number}] {fault.reason}: {Text.quoted path}"
  | none => fault.reason

end PathFault

structure FileSystem where
  read : String → Except PathFault ByteArray
  writeFault : String → Option PathFault

inductive FileError where
  | unopened (fault : PathFault) (path : String)
  | undecodable (path : String)
deriving DecidableEq, Repr

namespace FileError

def message : FileError → String
  | .unopened fault path => fault.message path
  | .undecodable path => s!"{Text.quoted path} is not valid UTF-8"

end FileError

namespace FileSystem

def readText (files : FileSystem) (path : String) : Except FileError String :=
  match files.read path with
  | .error fault => .error (.unopened fault path)
  | .ok content =>
      match Text.decode? content with
      | none => .error (.undecodable path)
      | some text => .ok text

end FileSystem

end ExprCompiler
