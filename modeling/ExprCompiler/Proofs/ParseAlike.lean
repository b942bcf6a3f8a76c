import ExprCompiler.Proofs.Alike
import ExprCompiler.Proofs.EarliestError

set_option autoImplicit false

namespace ExprCompiler

namespace Token

variable {one other : Token}

theorem Alike.symm (alike : one.Alike other) : other.Alike one where
  kind := alike.kind.symm
  lexeme reserved := (alike.lexeme (alike.kind.trans reserved)).symm
  value numeral := (alike.value (alike.kind.trans numeral)).symm

theorem Alike.connective (alike : one.Alike other) : one.isConnective = other.isConnective := by
  simp only [isConnective, alike.symbol]

theorem Alike.ends (alike : one.Alike other) : one.isEnd = other.isEnd := by
  simp only [isEnd, alike.kind]

theorem alike_ends (last : one.isEnd = true) (otherLast : other.isEnd = true) : one.Alike other := by
  have kind : one.kind = .endOfInput := by simpa [isEnd] using last
  have otherKind : other.kind = .endOfInput := by simpa [isEnd] using otherLast
  exact ⟨kind.trans otherKind.symm, by simp [kind], by simp [kind]⟩

end Token

theorem alike_symm (tokens others : List Token) (alike : List.Forall₂ Token.Alike tokens others) :
    List.Forall₂ Token.Alike others tokens :=
  (alike.imp fun _ _ => Token.Alike.symm).flip

theorem terminated_alike (tokens others : List Token) (terminated : Terminated tokens)
    (alike : List.Forall₂ Token.Alike others tokens) : Terminated others := by
  obtain ⟨front, last, rfl, ends⟩ := terminated
  obtain ⟨before, back, rfl, _, final⟩ := alike_append others front [last] alike
  obtain ⟨mark, rest, same, empty, rfl⟩ := List.forall₂_cons_right_iff.mp final
  cases empty
  exact ⟨before, mark, rfl, same.ends.trans ends⟩

theorem alike_behind (front gone back rest : List Token) (length : front.length = gone.length)
    (alike : List.Forall₂ Token.Alike (front ++ back) (gone ++ rest)) : List.Forall₂ Token.Alike back rest := by
  have dropped := List.forall₂_drop front.length alike
  rw [List.drop_left, length, List.drop_left] at dropped
  exact dropped

def SyntaxError.about (error : SyntaxError) (token : Token) : SyntaxError :=
  match error with
  | .missingSymbol symbol _ => .missingSymbol symbol token
  | .missingNumber _ => .missingNumber token
  | .trailingToken _ => .trailingToken token
  | .tooDeep _ limit => .tooDeep token limit

theorem SyntaxError.about_code (error : SyntaxError) (token : Token) : (error.about token).code = error.code := by
  cases error <;> rfl

theorem SyntaxError.about_token (error : SyntaxError) (token : Token) : (error.about token).token = token := by
  cases error <;> rfl

namespace Progress

theorem step_alike (limit : Int) (progress : Progress) (one other : Token) (alike : one.Alike other) :
    progress.step limit one = progress.step limit other := by
  simp only [step, beginOperand, alike.symbol, alike.number, alike.connective]

theorem walk_alike (limit : Int) (progress : Progress) (tokens others : List Token)
    (alike : List.Forall₂ Token.Alike tokens others) : progress.walk limit tokens = progress.walk limit others := by
  induction alike generalizing progress with
  | nil => rfl
  | cons same _ ih => simp only [walk, step_alike limit progress _ _ same, ih]

theorem complaint_alike (limit : Int) (progress : Progress) (one other : Token) (alike : one.Alike other) :
    progress.complaint limit other = (progress.complaint limit one).about other := by
  obtain ⟨expects, depth⟩ := progress
  simp only [complaint, alike.symbol]
  cases expects <;> dsimp only <;> split <;> rfl

theorem stuck_alike (limit : Int) (before one other : Progress) (passed gone later rest : List Token)
    (token second : Token) (walked : before.walk limit passed = some one) (stuck : one.step limit token = none)
    (walkedOther : before.walk limit gone = some other) (stuckOther : other.step limit second = none)
    (alike : List.Forall₂ Token.Alike (passed ++ token :: later) (gone ++ second :: rest)) :
    passed.length = gone.length ∧ one = other ∧ token.Alike second := by
  obtain ⟨front, back, split, first, final⟩ := alike_append _ gone (second :: rest) alike
  obtain ⟨again, tail, same, _, rfl⟩ := List.forall₂_cons_right_iff.mp final
  have walkedFront : before.walk limit front = some other :=
    (walk_alike limit before front gone first).trans walkedOther
  have stuckFront : other.step limit again = none := (step_alike limit other again second same).trans stuckOther
  obtain ⟨rfl, rfl, rfl⟩ := stuck_unique _ _ _ _ _ _ _ _ _ _ walked stuck walkedFront stuckFront split
  exact ⟨first.length_eq, rfl, same⟩

end Progress

structure ParseState.Alike (one other : ParseState) : Prop where
  position : one.position = other.position
  depth : one.depth = other.depth
  remaining : List.Forall₂ Token.Alike one.remaining other.remaining

theorem ParseState.Alike.symm {one other : ParseState} (alike : one.Alike other) : other.Alike one :=
  ⟨alike.position.symm, alike.depth.symm, alike_symm _ _ alike.remaining⟩

theorem ParseState.Alike.current {one other : ParseState} (alike : one.Alike other) :
    one.current.Alike other.current :=
  (List.forall₂_cons.mp alike.remaining).1

theorem ParseState.Alike.passed {one other after stopped : ParseState} {tokens others : List Token}
    (alike : one.Alike other) (moved : one.Passed tokens after) (movedOther : other.Passed others stopped)
    (length : tokens.length = others.length) (depth : after.depth = stopped.depth) : after.Alike stopped := by
  refine ⟨?_, depth, ?_⟩
  · rw [moved.position, movedOther.position, alike.position, length]
  · have remaining := alike.remaining
    rw [moved.split, movedOther.split] at remaining
    exact alike_behind tokens others _ _ length remaining

-- What two runs come to: trees of one expression, or one error about the tokens at one index. The
-- parenthesis that is too deep is the only such token that has been passed.
inductive RunsAlike (state other : ParseState) :
    EStateM.Result SyntaxError ParseState Tree → EStateM.Result SyntaxError ParseState Tree → Prop where
  | found (tree again : Tree) (after stopped : ParseState) (same : again.expr = tree.expr)
      (states : after.Alike stopped) (index : Nat) (place : after.position = state.position + index)
      (here : state.remaining[index]? = some after.current) (there : other.remaining[index]? = some stopped.current) :
      RunsAlike state other (.ok tree after) (.ok again stopped)
  | refused (error : SyntaxError) (token : Token) (after stopped : ParseState) (states : after.Alike stopped)
      (index : Nat) (place : after.position = state.position + index + if error.code = .tooDeep then 1 else 0)
      (here : state.remaining[index]? = some error.token) (there : other.remaining[index]? = some token) :
      RunsAlike state other (.error error after) (.error (error.about token) stopped)

theorem ParseState.passed_current (before after : ParseState) (tokens : List Token)
    (passed : before.Passed tokens after) : before.remaining[tokens.length]? = some after.current := by
  rw [passed.split]
  simp [remaining]

section

variable {state other : ParseState} (layer : Layer) (limit : Int) (alike : state.Alike other)

include alike

-- The phrase that one of the two is read as can be written with the tokens of the other.
theorem found_alike (terminated : Terminated state.remaining) (tree : Tree) (after : ParseState)
    (parsed : layer.parse limit state = .ok tree after) :
    ∃ again stopped, layer.parse limit other = .ok again stopped ∧
      RunsAlike state other (.ok tree after) (.ok again stopped) := by
  have outcome := parse_outcome layer limit state terminated
  rw [parsed] at outcome
  obtain ⟨⟨phrase, rfl, fits, passed⟩, depth, stops⟩ := outcome
  have back := alike.symm.remaining
  rw [passed.split] at back
  obtain ⟨front, rest, split, first, final⟩ := alike_append other.remaining phrase.tokens after.remaining back
  obtain ⟨next, ahead, same, _, rfl⟩ := List.forall₂_cons_right_iff.mp final
  obtain ⟨again, rfl, rewritten⟩ := phrase.rewrite_alike front first
  have otherStops : layer.Stops next := fun connective reached => (same.symbol _).trans (stops connective reached)
  have otherFits : again.nesting ≤ (limit - other.depth).toNat := by
    rw [rewritten.nesting, ← alike.depth]
    exact fits
  have expr : again.tree.expr = phrase.tree.expr := by rw [again.tree_expr, phrase.tree_expr, rewritten.expr]
  have length : phrase.tokens.length = again.tokens.length := first.length_eq.symm
  have otherPassed : other.Passed again.tokens (other.behind again.tokens next ahead) := ⟨split, rfl⟩
  have states := alike.passed passed otherPassed length (depth.trans alike.depth)
  have there := ParseState.passed_current _ _ _ otherPassed
  refine ⟨again.tree, _, again.parsed limit other next ahead split otherFits otherStops, ?_⟩
  exact .found _ _ _ _ expr states _ passed.position (ParseState.passed_current _ _ _ passed) (length ▸ there)

theorem refused_alike (error complaint : SyntaxError) (after stopped : ParseState)
    (refused : Refused layer.start limit state error after)
    (otherRefused : Refused layer.start limit other complaint stopped) :
    RunsAlike state other (.error error after) (.error complaint stopped) := by
  obtain ⟨passed, progress, token, rest, failure⟩ := refused
  obtain ⟨gone, reached, second, later, otherFailure⟩ := otherRefused
  have remaining := alike.remaining
  rw [failure.split, otherFailure.split] at remaining
  obtain ⟨length, rfl, same⟩ := Progress.stuck_alike limit _ _ _ _ _ _ _ _ _ failure.walked failure.stuck
    (alike.depth ▸ otherFailure.walked) otherFailure.stuck remaining
  obtain rfl : complaint = error.about second := by
    rw [otherFailure.complaint, failure.complaint]
    exact progress.complaint_alike limit token second same
  have known : error.token = token := by rw [failure.complaint, progress.complaint_token]
  have cursor := failure.cursor
  have otherCursor := otherFailure.cursor
  rw [error.about_code] at otherCursor
  refine .refused error second after stopped ?_ passed.length ?_ ?_ ?_
  · apply alike.passed cursor otherCursor
    · by_cases deep : error.code = .tooDeep <;> simp [deep, length]
    · rw [failure.depth, otherFailure.depth]
  · rw [cursor.position]
    by_cases deep : error.code = .tooDeep <;> simp [deep, Nat.add_assoc]
  · rw [failure.split, known]
    simp
  · rw [otherFailure.split, length]
    simp

theorem parse_alike (terminated : Terminated state.remaining) :
    RunsAlike state other (layer.parse limit state) (layer.parse limit other) := by
  have ended := terminated_alike _ _ terminated alike.symm.remaining
  have outcome := parse_outcome layer limit state terminated
  have otherOutcome := parse_outcome layer limit other ended
  cases ran : layer.parse limit state with
  | ok tree after =>
      obtain ⟨again, stopped, parsed, runs⟩ := found_alike layer limit alike terminated tree after ran
      rw [parsed]
      exact runs
  | error error after =>
      cases reran : layer.parse limit other with
      | ok again stopped =>
          obtain ⟨_, _, parsed, _⟩ := found_alike layer limit alike.symm ended again stopped reran
          rw [ran] at parsed
          cases parsed
      | error complaint stopped =>
          rw [ran] at outcome
          rw [reran] at otherOutcome
          exact refused_alike layer limit alike error complaint after stopped outcome otherOutcome

end

def wholeRun : EStateM.Result SyntaxError ParseState Tree → EStateM.Result SyntaxError ParseState Tree
  | .ok tree after => if after.current.isEnd then .ok tree after else .error (.trailingToken after.current) after
  | .error error after => .error error after

theorem RunsAlike.whole {state other : ParseState} {one second : EStateM.Result SyntaxError ParseState Tree}
    (runs : RunsAlike state other one second) : RunsAlike state other (wholeRun one) (wholeRun second) := by
  cases runs with
  | refused error token after stopped states index place here there =>
      exact .refused error token after stopped states index place here there
  | found tree again after stopped same states index place here there =>
      have ends := states.current.ends
      by_cases last : after.current.isEnd = true
      · rw [wholeRun, wholeRun, if_pos last, if_pos (ends ▸ last)]
        exact .found tree again after stopped same states index place here there
      · rw [wholeRun, wholeRun, if_neg last, if_neg (ends ▸ last)]
        exact .refused (.trailingToken after.current) stopped.current after stopped states index place here there

theorem of_tokens_whole (token : Token) (ahead : List Token) (terminated : Terminated (token :: ahead)) :
    Tree.ofTokens (token :: ahead) =
      match wholeRun (Layer.expression.parse maxNesting (.first token ahead)) with
      | .ok tree _ => .ok tree
      | .error error _ => .error (.rejected error) := by
  rw [of_tokens_apply, parse_start_apply token ahead maxNesting terminated]
  cases Layer.expression.parse maxNesting (.first token ahead) with
  | error error after => rfl
  | ok tree after =>
      simp only [wholeRun]
      by_cases last : after.current.isEnd = true
      · rw [if_pos last, if_pos last]
      · rw [if_neg last, if_neg last]

theorem of_tokens_alike (tokens others : List Token) (terminated : Terminated tokens)
    (alike : List.Forall₂ Token.Alike tokens others) :
    (∃ tree other, Tree.ofTokens tokens = .ok tree ∧ Tree.ofTokens others = .ok other ∧ tree.expr = other.expr) ∨
      ∃ (error : SyntaxError) (token : Token) (index : Nat), Tree.ofTokens tokens = .error (.rejected error) ∧
        Tree.ofTokens others = .error (.rejected (error.about token)) ∧
        tokens[index]? = some error.token ∧ others[index]? = some token := by
  have ended := terminated_alike _ _ terminated (alike_symm _ _ alike)
  obtain ⟨token, ahead, rfl⟩ := terminated_filled tokens terminated
  obtain ⟨second, rest, rfl⟩ := terminated_filled others ended
  have states : (ParseState.first token ahead).Alike (.first second rest) := ⟨rfl, rfl, alike⟩
  have runs := (parse_alike .expression maxNesting states terminated).whole
  rw [of_tokens_whole token ahead terminated, of_tokens_whole second rest ended]
  generalize wholeRun (Layer.expression.parse maxNesting (.first token ahead)) = one at runs ⊢
  generalize wholeRun (Layer.expression.parse maxNesting (.first second rest)) = other at runs ⊢
  cases runs with
  | found tree again _ _ same => exact .inl ⟨tree, again, rfl, rfl, same.symm⟩
  | refused error found _ _ _ index _ here there => exact .inr ⟨error, found, index, rfl, rfl, here, there⟩

end ExprCompiler
