import ExprCompiler.Proofs.ParserComplete
import ExprCompiler.Proofs.ParserOutcome

set_option autoImplicit false

namespace ExprCompiler

def ParseState.first (token : Token) (ahead : List Token) : ParseState :=
  ⟨0, token, ahead, 0⟩

theorem terminated_last (token : Token) (ahead : List Token) (terminated : Terminated (token :: ahead)) :
    (ahead.getLastD token).isEnd = true := by
  obtain ⟨front, last, split, final⟩ := terminated
  have same : (token :: ahead).getLast? = some last := by rw [split]; simp
  rw [List.getLast?_cons] at same
  cases same
  simpa [List.getLastD_eq_getLast?] using final

theorem parse_start_apply (token : Token) (ahead : List Token) (limit : Int)
    (terminated : Terminated (token :: ahead)) :
    Tree.parseStart (token :: ahead) limit =
      match Layer.expression.parse limit (.first token ahead) with
      | .ok tree after => .ok (tree, after)
      | .error error _ => .error (.rejected error) := by
  have last := terminated_last token ahead terminated
  simp only [Tree.parseStart, Parser.ofTokens, last, if_true, bind, Except.bind, Parser.parse, Parser.run,
    ParseState.first]
  cases Layer.expression.parse limit ⟨0, token, ahead, 0⟩ <;> rfl

theorem terminated_filled (tokens : List Token) (terminated : Terminated tokens) :
    ∃ token ahead, tokens = token :: ahead := by
  obtain ⟨front, last, rfl, _⟩ := terminated
  cases front with
  | nil => exact ⟨last, [], rfl⟩
  | cons token later => exact ⟨token, later ++ [last], rfl⟩

theorem parse_start_found (tokens : List Token) (limit : Int) (tree : Tree) (after : ParseState)
    (terminated : Terminated tokens) (parsed : Tree.parseStart tokens limit = .ok (tree, after)) :
    ∃ phrase : Phrase .expression, phrase.tree = tree ∧ phrase.nesting ≤ limit.toNat ∧
      tokens = phrase.tokens ++ after.current :: after.ahead ∧ after.position = phrase.tokens.length ∧
      after.current.isConnective = false := by
  obtain ⟨token, ahead, rfl⟩ := terminated_filled tokens terminated
  have outcome := parse_outcome .expression limit (.first token ahead) terminated
  rw [parse_start_apply token ahead limit terminated] at parsed
  cases ran : Layer.expression.parse limit (.first token ahead) with
  | error error stopped =>
      rw [ran] at parsed
      cases parsed
  | ok found stopped =>
      rw [ran] at parsed outcome
      cases parsed
      obtain ⟨⟨phrase, same, fits, passed⟩, _, stops⟩ := outcome
      have place : after.position = phrase.tokens.length := passed.position.trans (Nat.zero_add _)
      refine ⟨phrase, same, ?_, passed.split, place, (Layer.expression_stops_iff _).mp stops⟩
      simpa [ParseState.first] using fits

theorem parse_start_refused (tokens : List Token) (limit : Int) (error : ParseError)
    (terminated : Terminated tokens) (failed : Tree.parseStart tokens limit = .error error) :
    ∃ (passed rest : List Token) (progress : Progress) (token : Token), tokens = passed ++ token :: rest ∧
      Progress.walk limit ⟨.operand, 0⟩ passed = some progress ∧ progress.step limit token = none ∧
      (progress.expects = .continuation → 0 < progress.depth) ∧
      error = .rejected (progress.complaint limit token) := by
  obtain ⟨token, ahead, rfl⟩ := terminated_filled tokens terminated
  have outcome := parse_outcome .expression limit (.first token ahead) terminated
  rw [parse_start_apply token ahead limit terminated] at failed
  cases ran : Layer.expression.parse limit (.first token ahead) with
  | ok found stopped =>
      rw [ran] at failed
      cases failed
  | error complaint stopped =>
      rw [ran] at failed outcome
      cases failed
      obtain ⟨passed, progress, offending, rest, refused⟩ := outcome
      exact ⟨passed, rest, progress, offending, refused.split, refused.walked, refused.stuck, refused.inside,
        congrArg ParseError.rejected refused.complaint⟩

theorem parse_start_phrase (phrase : Phrase .expression) (limit : Int) (next : Token) (ahead : List Token)
    (terminated : Terminated (phrase.tokens ++ next :: ahead)) (fits : phrase.nesting ≤ limit.toNat)
    (stops : next.isConnective = false) :
    Tree.parseStart (phrase.tokens ++ next :: ahead) limit =
      .ok (phrase.tree, ⟨phrase.tokens.length, next, ahead, 0⟩) := by
  obtain ⟨token, later, split⟩ := terminated_filled _ terminated
  have parsed := phrase.parsed limit (.first token later) next ahead split.symm
    (by simpa [ParseState.first] using fits) ((Layer.expression_stops_iff next).mpr stops)
  rw [split] at terminated ⊢
  rw [parse_start_apply token later limit terminated, parsed]
  simp [ParseState.behind, ParseState.first]

theorem of_tokens_apply (tokens : List Token) :
    Tree.ofTokens tokens =
      match Tree.parseStart tokens maxNesting with
      | .error error => .error error
      | .ok (tree, after) =>
          if after.current.isEnd then .ok tree else .error (.rejected (.trailingToken after.current)) := by
  simp only [Tree.ofTokens, bind, Except.bind]
  cases Tree.parseStart tokens maxNesting with
  | error error => rfl
  | ok result =>
      simp only [ParseState.finish]
      by_cases last : result.2.current.isEnd = true
      · simp only [last, if_true]
      · simp only [last, Bool.false_eq_true, if_false]

theorem of_tokens_found (tokens : List Token) (tree : Tree) (terminated : Terminated tokens)
    (parsed : Tree.ofTokens tokens = .ok tree) :
    ∃ (phrase : Phrase .expression) (last : Token) (ahead : List Token), phrase.tree = tree ∧
      phrase.nesting ≤ maxNesting.toNat ∧ tokens = phrase.tokens ++ last :: ahead ∧ last.isEnd = true := by
  rw [of_tokens_apply] at parsed
  cases started : Tree.parseStart tokens maxNesting with
  | error error =>
      rw [started] at parsed
      cases parsed
  | ok result =>
      obtain ⟨found, after⟩ := result
      obtain ⟨phrase, same, fits, split, _⟩ := parse_start_found tokens maxNesting found after terminated started
      simp only [started] at parsed
      by_cases last : after.current.isEnd = true
      · rw [if_pos last] at parsed
        cases parsed
        exact ⟨phrase, after.current, after.ahead, same, fits, split, last⟩
      · rw [if_neg last] at parsed
        cases parsed

theorem of_tokens_phrase (phrase : Phrase .expression) (last : Token) (ahead : List Token)
    (terminated : Terminated (phrase.tokens ++ last :: ahead)) (fits : phrase.nesting ≤ maxNesting.toNat)
    (ends : last.isEnd = true) : Tree.ofTokens (phrase.tokens ++ last :: ahead) = .ok phrase.tree := by
  have stops : last.isConnective = false := by
    simp [Token.isConnective, last.end_no_symbol _ ends]
  rw [of_tokens_apply, parse_start_phrase phrase maxNesting last ahead terminated fits stops]
  simp only [ends, if_true]

-- In an accepting state only the mark at the end may come next.
theorem of_tokens_refused (tokens : List Token) (error : ParseError) (terminated : Terminated tokens)
    (failed : Tree.ofTokens tokens = .error error) :
    ∃ (passed rest : List Token) (progress : Progress) (token : Token), tokens = passed ++ token :: rest ∧
      Progress.walk maxNesting ⟨.operand, 0⟩ passed = some progress ∧ progress.step maxNesting token = none ∧
      (progress = ⟨.continuation, 0⟩ → token.isEnd = false) ∧
      error = .rejected (progress.complaint maxNesting token) := by
  rw [of_tokens_apply] at failed
  cases started : Tree.parseStart tokens maxNesting with
  | error refusal =>
      rw [started] at failed
      cases failed
      obtain ⟨passed, rest, progress, token, split, walked, stuck, inside, same⟩ :=
        parse_start_refused tokens maxNesting error terminated started
      refine ⟨passed, rest, progress, token, split, walked, stuck, ?_, same⟩
      rintro rfl
      exact absurd (inside rfl) (Nat.lt_irrefl 0)
  | ok result =>
      obtain ⟨tree, after⟩ := result
      obtain ⟨phrase, _, fits, split, _, stops⟩ := parse_start_found tokens maxNesting tree after terminated started
      simp only [started] at failed
      by_cases last : after.current.isEnd = true
      · rw [if_pos last] at failed
        cases failed
      · rw [if_neg last] at failed
        cases failed
        have walked := phrase.walked maxNesting 0 (by simpa using fits)
        rw [Layer.start_compound .expression (by decide)] at walked
        refine ⟨phrase.tokens, after.ahead, ⟨.continuation, 0⟩, after.current, split, walked, ?_, ?_, ?_⟩
        · simp [Progress.step, stops]
        · intro _
          exact Bool.not_eq_true _ ▸ last
        · simp [Progress.complaint]

end ExprCompiler
