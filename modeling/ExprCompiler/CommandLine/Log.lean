import ExprCompiler.Compile

set_option autoImplicit false

namespace ExprCompiler

inductive LogLevel where
  | debug
  | info
  | warning
  | error
deriving DecidableEq, Repr

namespace LogLevel

def all : List LogLevel := [.debug, .info, .warning, .error]

def label : LogLevel → String
  | .debug => "DEBUG"
  | .info => "INFO"
  | .warning => "WARNING"
  | .error => "ERROR"

def rank : LogLevel → Nat
  | .debug => 0
  | .info => 1
  | .warning => 2
  | .error => 3

-- Labels are read without regard to case. Only ASCII letters fold to theirs.
def ofLabel? (label : String) : Option LogLevel :=
  all.find? fun level => level.label == label.map Char.toUpper

end LogLevel

namespace Event

def level : Event → LogLevel
  | .scanned _ _ | .expressionParsed _ _ | .assembled _ => .debug
  | .tokensReady _ _ | .treeReady _ | .assemblyReady _ => .info

def speaker : Event → String
  | .scanned _ _ => "exprcc.lexer.lexer"
  | .expressionParsed _ _ => "exprcc.parser.parser"
  | .assembled _ => "exprcc.backend.x86_codegen"
  | .tokensReady _ _ | .treeReady _ | .assemblyReady _ => "exprcc.driver"

def message : Event → String
  | .scanned file tokens => s!"tokenized {file} into {tokens} tokens"
  | .tokensReady file tokens => s!"lexed {file}: {tokens} tokens"
  | .expressionParsed text position => s!"parsed expression {text}, cursor at token {position}"
  | .treeReady file => s!"parsed {file}"
  | .assembled lines => s!"generated {lines} lines of assembly"
  | .assemblyReady file => s!"generated assembly for {file}"

def logLine (event : Event) : String :=
  s!"{event.level.label} {event.speaker}: {event.message}\n"

def log (least : LogLevel) (events : List Event) : String :=
  String.join ((events.filter fun event => least.rank ≤ event.level.rank).map logLine)

end Event

end ExprCompiler
