import ExprCompiler.Proofs.DepthLimit
import ExprCompiler.Proofs.ParseAlike
import ExprCompiler.Proofs.Rendering

set_option autoImplicit false

namespace ExprCompiler

structure Tree.SameProgram (one other : Tree) : Prop where
  expr : one.expr = other.expr
  outline : ∀ indent, one.outline indent = other.outline indent
  listing : ∀ entry, one.listing entry = other.listing entry

theorem Tree.same_program (one other : Tree) (same : one.expr = other.expr) : one.SameProgram other := by
  refine ⟨same, ?_, ?_⟩
  · intro indent
    rw [← one.outline_unplaced, same, other.outline_unplaced]
  · intro entry
    rw [← one.listing_unplaced, same, other.listing_unplaced]

-- Two runs come to one program, or to errors of one code at one index. This is where the cursor is
-- left, or in front of it if the token is a parenthesis that is too deep.
inductive SameOutcome (tokens others : List Token) (cursor : Nat) :
    Except SyntaxError Tree → Except SyntaxError Tree → Prop where
  | found (tree other : Tree) (same : tree.SameProgram other) : SameOutcome tokens others cursor (.ok tree) (.ok other)
  | refused (error complaint : SyntaxError) (code : error.code = complaint.code) (index : Nat)
      (place : cursor = index + if error.code = .tooDeep then 1 else 0) (here : tokens[index]? = some error.token)
      (there : others[index]? = some complaint.token) :
      SameOutcome tokens others cursor (.error error) (.error complaint)

theorem RunsAlike.outcome {state other : ParseState} {one second : EStateM.Result SyntaxError ParseState Tree}
    (runs : RunsAlike state other one second) (fresh : state.position = 0) :
    SameOutcome state.remaining other.remaining (Parser.endState one).position (resultOf one) (resultOf second) := by
  cases runs with
  | found tree again after stopped same => exact .found tree again (tree.same_program again same.symm)
  | refused error token after stopped states index place here there =>
      rw [fresh, Nat.zero_add] at place
      exact .refused error (error.about token) (error.about_code token).symm index place here
        (there.trans (congrArg some (error.about_token token).symm))

theorem RunsAlike.states {state other : ParseState} {one second : EStateM.Result SyntaxError ParseState Tree}
    (runs : RunsAlike state other one second) : (Parser.endState one).Alike (Parser.endState second) := by
  cases runs with
  | found tree again after stopped same states => exact states
  | refused error token after stopped states => exact states

end ExprCompiler
