import ExprCompiler.Tree.Parser.Grammar

set_option autoImplicit false

namespace ExprCompiler

def maxNesting : Int := 100

inductive ParseError where
  | unterminated
  | rejected (error : SyntaxError)
deriving DecidableEq, Repr

namespace ParseError

def message : ParseError → String
  | .unterminated => "token list must end with an EOF token"
  | .rejected error => error.message

end ParseError

structure Parser where
  tokens : List Token
  limit : Int
  state : ParseState

namespace Parser

def ofTokens (tokens : List Token) (limit : Int) : Except ParseError Parser :=
  match tokens with
  | [] => .error .unterminated
  | first :: ahead =>
      if (ahead.getLastD first).isEnd then .ok ⟨tokens, limit, ⟨0, first, ahead, 0⟩⟩
      else .error .unterminated

-- The state that a step leaves is kept, also when it fails.
def run {α : Type} (parser : Parser) (step : ParseM α) : Except SyntaxError α × Parser :=
  match step parser.state with
  | .ok value state => (.ok value, { parser with state := state })
  | .error error state => (.error error, { parser with state := state })

def parse (parser : Parser) (layer : Layer) : Except SyntaxError Tree × Parser :=
  parser.run (layer.parse parser.limit)

def seek (parser : Parser) (index : Nat) : Parser :=
  { parser with state := parser.state.seek parser.tokens index }

end Parser

namespace Tree

def parseStart (tokens : List Token) (limit : Int) : Except ParseError (Tree × ParseState) := do
  let parser ← Parser.ofTokens tokens limit
  match parser.parse .expression with
  | (.ok tree, after) => .ok (tree, after.state)
  | (.error error, _) => .error (.rejected error)

def ofTokens (tokens : List Token) : Except ParseError Tree := do
  let (tree, after) ← parseStart tokens maxNesting
  match after.finish with
  | .ok () => .ok tree
  | .error error => .error (.rejected error)

end Tree

end ExprCompiler
