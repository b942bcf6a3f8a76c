import ExprCompiler.Assembly.Listing
import ExprCompiler.Token.Scan
import ExprCompiler.Tree.Parser
import ExprCompiler.Tree.Printer

set_option autoImplicit false

namespace ExprCompiler

inductive OutputFormat where
  | asm
  | ast
  | tokens
deriving DecidableEq, Repr

namespace OutputFormat

def all : List OutputFormat := [.asm, .ast, .tokens]

def label : OutputFormat → String
  | .asm => "asm"
  | .ast => "ast"
  | .tokens => "tokens"

def ofLabel? (label : String) : Option OutputFormat :=
  all.find? fun format => format.label == label

end OutputFormat

inductive CompileError where
  | unknownFormat (label : String)
  | scan (error : ScanError)
  | parse (error : ParseError)
  | print (error : PrintError)
deriving DecidableEq, Repr

namespace CompileError

def message : CompileError → String
  | .unknownFormat label =>
      let formats := ", ".intercalate (OutputFormat.all.map OutputFormat.label)
      s!"unknown output format {Text.quoted label}, expected one of {formats}"
  | .scan error => error.message
  | .parse error => error.message
  | .print error => error.message

-- Errors that lie in the source text have a report.
def report? : CompileError → Option Diagnostic
  | .scan error => error.report?
  | .parse (.rejected error) => some error.report
  | .parse .unterminated | .unknownFormat _ | .print _ => none

end CompileError

inductive Event where
  | scanned (file : String) (tokens : Nat)
  | tokensReady (file : String) (tokens : Nat)
  | expressionParsed (text : String) (position : Nat)
  | treeReady (file : String)
  | assembled (lines : Nat)
  | assemblyReady (file : String)

abbrev CompileM := EStateM CompileError (List Event)

namespace CompileM

def tell (event : Event) : CompileM Unit :=
  modify (· ++ [event])

def print {α : Type} (shown : Except PrintError α) : CompileM α :=
  match shown with
  | .error error => throw (.print error)
  | .ok value => return value

def scan (file source : String) : CompileM (List Token) := do
  match Token.scan file source with
  | .error error => throw (.scan error)
  | .ok tokens =>
      tell (.scanned file tokens.length)
      return tokens

-- What cannot be shown is left out of the log, and the compilation goes on.
def tellParsed (tree : Tree) (position : Nat) : CompileM Unit :=
  match tree.text with
  | .error _ => return ()
  | .ok text => tell (.expressionParsed text position)

def parse (tokens : List Token) : CompileM Tree := do
  match Tree.parseStart tokens maxNesting with
  | .error error => throw (.parse error)
  | .ok (tree, after) =>
      tellParsed tree after.position
      match after.finish with
      | .error error => throw (.parse (.rejected error))
      | .ok () => return tree

def tree (file source : String) : CompileM Tree := do
  let tokens ← scan file source
  tell (.tokensReady file tokens.length)
  let tree ← parse tokens
  tell (.treeReady file)
  return tree

def output (file source : String) : OutputFormat → CompileM String
  | .tokens => do
      let tokens ← scan file source
      let dump ← print (Token.dump tokens)
      return dump ++ "\n"
  | .ast => do
      let tree ← tree file source
      let outline ← print (tree.outline Tree.defaultIndent)
      return outline ++ "\n"
  | .asm => do
      let tree ← tree file source
      let lines ← print (tree.listingLines Tree.defaultEntry)
      tell (.assembled lines.length)
      tell (.assemblyReady file)
      return "\n".intercalate lines ++ "\n"

def result {α : Type} (compilation : CompileM α) : Except CompileError α :=
  match compilation [] with
  | .ok value _ => .ok value
  | .error error _ => .error error

def events {α : Type} (compilation : CompileM α) : List Event :=
  match compilation [] with
  | .ok _ events => events
  | .error _ events => events

end CompileM

def Tree.ofSource (file source : String) : Except CompileError Tree :=
  (CompileM.tree file source).result

def compile (file source : String) (format : OutputFormat) : Except CompileError String :=
  (CompileM.output file source format).result

def compileAs (file source label : String) : Except CompileError String :=
  match OutputFormat.ofLabel? label with
  | none => .error (.unknownFormat label)
  | some format => compile file source format

end ExprCompiler
