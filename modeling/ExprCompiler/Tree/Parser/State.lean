import ExprCompiler.Tree.SyntaxError

set_option autoImplicit false

namespace ExprCompiler

-- The cursor always stands on a token; `depth` counts the parentheses that are open.
structure ParseState where
  position : Nat
  current : Token
  ahead : List Token
  depth : Nat
deriving DecidableEq, Repr

namespace ParseState

def advance (state : ParseState) : ParseState :=
  match state.ahead with
  | [] => state
  | token :: ahead =>
      { state with position := state.position + 1, current := token, ahead := ahead }

def openParenthesis (state : ParseState) : ParseState :=
  { state with depth := state.depth + 1 }

def closeParenthesis (state : ParseState) : ParseState :=
  { state with depth := state.depth - 1 }

def finish (state : ParseState) : Except SyntaxError Unit :=
  if state.current.isEnd then .ok () else .error (.trailingToken state.current)

def seek (state : ParseState) (tokens : List Token) (index : Nat) : ParseState :=
  match tokens.drop index with
  | [] => state
  | token :: ahead => { state with position := index, current := token, ahead := ahead }

end ParseState

abbrev ParseM := EStateM SyntaxError ParseState

namespace ParseM

def peek : ParseM Token :=
  return (← get).current

def atEnd : ParseM Bool :=
  return (← peek).isEnd

def atSymbol (symbol : String) : ParseM Bool :=
  return (← peek).isSymbol symbol

def accept (symbol : String) : ParseM Bool := do
  if ← atSymbol symbol then
    modify ParseState.advance
    return true
  else return false

def require (symbol : String) : ParseM Token := do
  let token ← peek
  if ← accept symbol then return token
  else throw (.missingSymbol symbol token)

def number : ParseM Int := do
  let token ← peek
  if numeral : token.isNumber = true then
    modify ParseState.advance
    return token.integer numeral
  else throw (.missingNumber token)

theorem peek_apply (state : ParseState) : peek state = .ok state.current state := rfl

theorem modify_apply (change : ParseState → ParseState) (state : ParseState) :
    (modify change : ParseM PUnit) state = .ok ⟨⟩ (change state) := rfl

theorem accept_apply (symbol : String) (state : ParseState) :
    accept symbol state =
      if state.current.isSymbol symbol then .ok true state.advance else .ok false state := by
  change (if state.current.isSymbol symbol then _ else _ : ParseM Bool) state = _
  split <;> rfl

theorem require_apply (symbol : String) (state : ParseState) :
    require symbol state =
      if state.current.isSymbol symbol then .ok state.current state.advance
      else .error (.missingSymbol symbol state.current) state := by
  have peeked := peek_apply state
  have accepted := accept_apply symbol state
  by_cases same : state.current.isSymbol symbol
  · rw [if_pos same] at accepted ⊢
    simp [require, bind, EStateM.bind, pure, EStateM.pure, peeked, accepted]
  · rw [if_neg same] at accepted ⊢
    simp only [require, bind, EStateM.bind, peeked, accepted, Bool.false_eq_true, if_false]
    rfl

theorem number_apply (state : ParseState) :
    number state =
      if numeral : state.current.isNumber = true then .ok (state.current.integer numeral) state.advance
      else .error (.missingNumber state.current) state := by
  change (if numeral : state.current.isNumber = true then _ else _ : ParseM Int) state = _
  split <;> rfl

end ParseM

end ExprCompiler
