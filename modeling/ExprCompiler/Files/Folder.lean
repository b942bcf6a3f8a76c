import ExprCompiler.Files

set_option autoImplicit false

namespace ExprCompiler

-- A folder that holds files only, seen from inside. Nothing outside is known but the folders above,
-- and those can be written to.
structure Folder where
  files : List (String × ByteArray)

namespace Folder

def content? (folder : Folder) (name : String) : Option ByteArray :=
  (folder.files.find? fun entry => entry.1 == name).map Prod.snd

inductive Standing where
  | inside
  | outside
deriving DecidableEq, Repr

-- A path that ends with a slash asks for a folder of that name.
inductive Place where
  | folder
  | entry (standing : Standing) (name : String) (asFolder : Bool)
deriving DecidableEq, Repr

-- Lengths count bytes in UTF-8.
def maxNameSize : Nat := 255

def maxPathSize : Nat := 4095

def find (folder : Folder) (standing : Standing) (name : String) : Except PathFault ByteArray :=
  if maxNameSize < name.utf8ByteSize then .error .nameTooLong
  else
    match standing with
    | .outside => .error .missing
    | .inside =>
        match folder.content? name with
        | none => .error .missing
        | some content => .ok content

-- Every name is a file's, so none can be walked through.
def step (folder : Folder) (standing : Standing) (name : String) : Except PathFault Standing :=
  if name = "." then .ok standing
  else if name = ".." then .ok .outside
  else
    match folder.find standing name with
    | .error fault => .error fault
    | .ok _ => .error .notFolder

def walk (folder : Folder) (path : String) : Except PathFault Place :=
  let steps := (path.splitOn "/").filter fun name => !name.isEmpty
  let start := if path.startsWith "/" then Standing.outside else .inside
  match steps.getLast? with
  | none => .ok .folder
  | some last =>
      match steps.dropLast.foldlM folder.step start with
      | .error fault => .error fault
      | .ok standing =>
          if last = "." || last = ".." then .ok .folder
          else .ok (.entry standing last (path.endsWith "/"))

def locate (folder : Folder) (path : String) : Except PathFault Place :=
  if '\x00' ∈ path.toList then .error .nullByte
  else if path.isEmpty then .error .missing
  else if maxPathSize < path.utf8ByteSize then .error .nameTooLong
  else folder.walk path

def read (folder : Folder) (path : String) : Except PathFault ByteArray :=
  match folder.locate path with
  | .error fault => .error fault
  | .ok .folder => .error .folder
  | .ok (.entry standing name asFolder) =>
      match folder.find standing name with
      | .error fault => .error fault
      | .ok content => if asFolder then .error .notFolder else .ok content

def writeFault (folder : Folder) (path : String) : Option PathFault :=
  match folder.locate path with
  | .error fault => some fault
  | .ok .folder | .ok (.entry _ _ true) => some .folder
  | .ok (.entry _ name false) =>
      if maxNameSize < name.utf8ByteSize then some .nameTooLong else none

def fileSystem (folder : Folder) : FileSystem :=
  ⟨folder.read, folder.writeFault⟩

def change? (folder : Folder) (path text : String) : Option (String × String) :=
  match folder.locate path with
  | .ok (.entry .inside name _) =>
      if folder.content? name == some text.toUTF8 then none else some (name, text)
  | _ => none

end Folder

end ExprCompiler
