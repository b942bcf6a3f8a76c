import ExprCompiler.Tree
import ExprCompiler.Tree.Parser.State

set_option autoImplicit false

namespace ExprCompiler

-- equality       = relational (("==" | "!=") relational)*
-- relational     = additive (("<=" | ">=" | "<" | ">") additive)*
-- additive       = multiplicative (("+" | "-") multiplicative)*
-- multiplicative = unary (("*" | "/") unary)*
-- unary          = ("+" | "-")? primary
-- primary        = "(" equality ")" | number
structure BinaryRule where
  symbol : String
  op : Operator
  swapped : Bool
deriving DecidableEq, Repr

namespace BinaryRule

def build (rule : BinaryRule) (left right : Tree) : Tree :=
  if rule.swapped then Tree.combine rule.op right left else Tree.combine rule.op left right

def equality : List BinaryRule :=
  [⟨"==", .equal, false⟩, ⟨"!=", .notEqual, false⟩]

def relational : List BinaryRule :=
  [⟨"<=", .lessOrEqual, false⟩, ⟨">=", .lessOrEqual, true⟩, ⟨"<", .lessThan, false⟩,
    ⟨">", .lessThan, true⟩]

def additive : List BinaryRule :=
  [⟨"+", .add, false⟩, ⟨"-", .sub, false⟩]

def multiplicative : List BinaryRule :=
  [⟨"*", .mul, false⟩, ⟨"/", .div, false⟩]

end BinaryRule

namespace ParseM

def acceptRule (rules : List BinaryRule) : ParseM (Option BinaryRule) := do
  let token ← peek
  match rules.find? fun rule => token.isSymbol rule.symbol with
  | none => return none
  | some rule =>
      modify ParseState.advance
      return some rule

-- Each turn passes a token, so `bound`, which is at least as long as the tokens ahead, never ends
-- before they do.
def chainFrom (rules : List BinaryRule) (operand : ParseM Tree) :
    (bound : List Token) → Tree → ParseM Tree
  | [], left => return left
  | _ :: bound, left => do
      match ← acceptRule rules with
      | none => return left
      | some rule =>
          let right ← operand
          chainFrom rules operand bound (rule.build left right)

def chain (rules : List BinaryRule) (operand : ParseM Tree) : ParseM Tree := do
  let left ← operand
  chainFrom rules operand (← get).ahead left

def unary (primary : ParseM Tree) : ParseM Tree := do
  let sign ← peek
  if ← accept "+" then
    let operand ← primary
    return operand.stretch sign none
  else if ← accept "-" then
    let operand ← primary
    return Tree.combine .sub (.num 0 (some sign.span)) operand
  else primary

def multiplicative (primary : ParseM Tree) : ParseM Tree :=
  chain BinaryRule.multiplicative (unary primary)

def additive (primary : ParseM Tree) : ParseM Tree :=
  chain BinaryRule.additive (multiplicative primary)

def relational (primary : ParseM Tree) : ParseM Tree :=
  chain BinaryRule.relational (additive primary)

def equality (primary : ParseM Tree) : ParseM Tree :=
  chain BinaryRule.equality (relational primary)

-- Without `inner` there is no room for another pair of parentheses.
def primaryWith (limit : Int) (inner : Option (ParseM Tree)) : ParseM Tree := do
  let token ← peek
  if ← accept "(" then
    match inner with
    | none => throw (.tooDeep token limit)
    | some expression =>
        modify ParseState.openParenthesis
        let tree ← expression
        let close ← require ")"
        modify ParseState.closeParenthesis
        return tree.stretch token (some close)
  else
    let value ← number
    return .num value (some token.span)

def primary (limit : Int) : (room : Nat) → ParseState → EStateM.Result SyntaxError ParseState Tree
  | 0, state => primaryWith limit none state
  | room + 1, state => primaryWith limit (some (equality (primary limit room))) state

end ParseM

inductive Layer where
  | expression
  | equality
  | relational
  | additive
  | multiplicative
  | unary
  | primary
deriving DecidableEq, Repr

namespace Layer

def builtOn (primary : ParseM Tree) : Layer → ParseM Tree
  | .expression => ParseM.equality primary
  | .equality => ParseM.equality primary
  | .relational => ParseM.relational primary
  | .additive => ParseM.additive primary
  | .multiplicative => ParseM.multiplicative primary
  | .unary => ParseM.unary primary
  | .primary => primary

def parse (layer : Layer) (limit : Int) : ParseM Tree := fun state =>
  layer.builtOn (ParseM.primary limit (limit - state.depth).toNat) state

end Layer

end ExprCompiler
