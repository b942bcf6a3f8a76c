import ExprCompiler.Proofs.ParseList

set_option autoImplicit false

namespace ExprCompiler

theorem Phrase.walked_whole (phrase : Phrase .expression) (fits : phrase.nesting ≤ maxNesting.toNat) :
    Progress.walk maxNesting ⟨.operand, 0⟩ phrase.tokens = some ⟨.continuation, 0⟩ :=
  phrase.walked maxNesting 0 (by simpa using fits)

theorem Progress.walk_stuck (limit : Int) (before progress : Progress) (passed later : List Token) (token : Token)
    (walked : before.walk limit passed = some progress) (stuck : progress.step limit token = none) :
    before.walk limit (passed ++ token :: later) = none := by
  rw [walk_after _ _ _ _ _ walked, walk, stuck]
  rfl

theorem Progress.stuck_unique (limit : Int) (before one other : Progress) (passed gone later rest : List Token)
    (token second : Token) (walked : before.walk limit passed = some one) (stuck : one.step limit token = none)
    (walkedOther : before.walk limit gone = some other) (stuckOther : other.step limit second = none)
    (same : passed ++ token :: later = gone ++ second :: rest) : passed = gone ∧ one = other ∧ token = second := by
  rcases List.append_eq_append_iff.mp same with ⟨middle, longer, tail⟩ | ⟨middle, shorter, tail⟩
  · cases middle with
    | nil =>
        rw [List.append_nil] at longer
        rw [longer, walked] at walkedOther
        exact ⟨longer.symm, Option.some.inj walkedOther, (List.cons.inj tail).1⟩
    | cons next middle =>
        obtain ⟨rfl, _⟩ := List.cons.inj tail
        rw [longer, walk_stuck _ _ _ _ _ _ walked stuck] at walkedOther
        cases walkedOther
  · cases middle with
    | nil =>
        rw [List.append_nil] at shorter
        rw [shorter, walkedOther] at walked
        exact ⟨shorter, (Option.some.inj walked).symm, (List.cons.inj tail).1.symm⟩
    | cons next middle =>
        obtain ⟨rfl, _⟩ := List.cons.inj tail
        rw [shorter, walk_stuck _ _ _ _ _ _ walkedOther stuckOther] at walked
        cases walked

-- Nothing mends a token that may not come next.
theorem stuck_rejected (passed later : List Token) (token : Token) (progress : Progress) (tree : Tree)
    (walked : Progress.walk maxNesting ⟨.operand, 0⟩ passed = some progress)
    (stuck : progress.step maxNesting token = none)
    (unfinished : progress = ⟨.continuation, 0⟩ → token.isEnd = false)
    (terminated : Terminated (passed ++ token :: later)) :
    Tree.ofTokens (passed ++ token :: later) ≠ .ok tree := by
  intro parsed
  obtain ⟨phrase, last, ahead, _, fits, split, ends⟩ := of_tokens_found _ tree terminated parsed
  obtain ⟨_, accepting, rfl⟩ := Progress.stuck_unique _ _ _ _ _ _ _ _ _ _ walked stuck (phrase.walked_whole fits)
    (Progress.step_end _ _ _ ends) split
  rw [unfinished accepting] at ends
  cases ends

theorem walked_accepted (tokens : List Token) (last : Token) (ends : last.isEnd = true)
    (walked : Progress.walk maxNesting ⟨.operand, 0⟩ tokens = some ⟨.continuation, 0⟩) :
    ∃ tree, Tree.ofTokens (tokens ++ [last]) = .ok tree := by
  cases parsed : Tree.ofTokens (tokens ++ [last]) with
  | ok tree => exact ⟨tree, rfl⟩
  | error error =>
      obtain ⟨passed, rest, progress, token, split, reached, stuck, unfinished, _⟩ :=
        of_tokens_refused _ error ⟨tokens, last, rfl, ends⟩ parsed
      obtain ⟨_, accepting, rfl⟩ := Progress.stuck_unique _ _ _ _ _ _ _ _ _ _ walked
        (Progress.step_end _ _ _ ends) reached stuck split
      rw [unfinished accepting.symm] at ends
      cases ends

namespace Progress

def numeral : Token := .onFirstLine .number "0" (some 0) "" 0

def closing : Token := .onFirstLine .reserved ")" none "" 0

def completion (progress : Progress) : List Token :=
  match progress.expects with
  | .operand | .unsignedOperand => numeral :: List.replicate progress.depth closing
  | .continuation => List.replicate progress.depth closing

theorem closings_walked (limit : Int) (depth : Nat) :
    walk limit ⟨.continuation, depth⟩ (List.replicate depth closing) = some ⟨.continuation, 0⟩ := by
  induction depth with
  | zero => rfl
  | succ depth ih =>
      rw [List.replicate_succ, walk_step _ _ _ _ _ (step_closing limit depth closing rfl)]
      exact ih

theorem completion_walked (limit : Int) (progress : Progress) :
    progress.walk limit progress.completion = some ⟨.continuation, 0⟩ := by
  obtain ⟨expects, depth⟩ := progress
  cases expects with
  | operand =>
      have begun := step_number limit .expression depth numeral rfl
      exact (walk_step _ _ _ _ _ begun).trans (closings_walked limit depth)
  | unsignedOperand =>
      have begun := step_number limit .primary depth numeral rfl
      exact (walk_step _ _ _ _ _ begun).trans (closings_walked limit depth)
  | continuation => exact closings_walked limit depth

end Progress

theorem complaint_code (limit : Int) (passed : List Token) (token : Token) (progress : Progress)
    (walked : Progress.walk limit ⟨.operand, 0⟩ passed = some progress) :
    (progress.complaint limit token).code =
      if passed.getLast?.any Token.endsOperand then
        if (passed.countP fun token => token.isSymbol ")") < passed.countP fun token => token.isSymbol "(" then
          .missingSymbol
        else .trailingToken
      else if token.isSymbol "(" then .tooDeep else .missingNumber := by
  have depth := Progress.walk_depth limit _ _ _ walked
  rw [Token.weight_sum] at depth
  have context : progress.expects = .continuation ↔ passed.getLast?.any Token.endsOperand = true := by
    rcases List.eq_nil_or_concat passed with rfl | ⟨front, last, rfl⟩
    · cases walked
      simp
    · rw [List.concat_eq_append] at walked ⊢
      rw [Progress.walk_expects limit _ _ front last walked]
      simp
  obtain ⟨expects, level⟩ := progress
  cases expects with
  | continuation =>
      rw [if_pos (context.mp rfl)]
      simp only [Progress.complaint]
      by_cases deep : 0 < level
      · rw [if_pos deep, if_pos (by simp only at depth; omega)]
        rfl
      · rw [if_neg deep, if_neg (by simp only at depth; omega)]
        rfl
  | operand =>
      rw [if_neg (fun ended => by cases context.mpr ended)]
      simp only [Progress.complaint]
      split <;> rfl
  | unsignedOperand =>
      rw [if_neg (fun ended => by cases context.mpr ended)]
      simp only [Progress.complaint]
      split <;> rfl

theorem previous_token (tokens : List Token) (index : Nat) (positive : 0 < index) (within : index < tokens.length) :
    (tokens.take index).getLast? = tokens[index - 1]? := by
  have previous : tokens[index - 1]? = some tokens[index - 1] := List.getElem?_eq_getElem (by omega)
  rw [List.getLast?_take, if_neg (by omega), previous]
  rfl

-- In front of the error the tokens can still become an expression, with it they cannot. After an
-- operator, or at the start, an operand is missing or too deep; after an operand, something else
-- than its continuation has come.
theorem syntax_error_earliest (tokens : List Token) (terminated : Terminated tokens) (error : SyntaxError)
    (failed : Tree.ofTokens tokens = .error (.rejected error)) :
    ∃ index : Nat, tokens[index]? = some error.token ∧
      (∀ last : Token, last.isEnd = true →
        ∃ later tree, Tree.ofTokens (tokens.take index ++ later ++ [last]) = .ok tree) ∧
      (∀ (later : List Token) (last : Token) (tree : Tree), last.isEnd = true →
        Tree.ofTokens (tokens.take (index + 1) ++ later ++ [last]) ≠ .ok tree) ∧
      ((index = 0 ∨ ∀ previous, tokens[index - 1]? = some previous →
          previous.isNumber = false ∧ previous.isSymbol ")" = false) →
        error.code.tag = if error.token.isSymbol "(" then "P004" else "P002") ∧
      (∀ previous, 0 < index → tokens[index - 1]? = some previous →
        previous.isNumber = true ∨ previous.isSymbol ")" = true →
        error.code.tag =
          if (((tokens.take index).countP fun token => token.isSymbol ")") <
            (tokens.take index).countP fun token => token.isSymbol "(") then "P001" else "P003") := by
  obtain ⟨passed, rest, progress, token, rfl, walked, stuck, unfinished, same⟩ :=
    of_tokens_refused tokens _ terminated failed
  cases same
  have front : (passed ++ token :: rest).take passed.length = passed := by simp
  have here : (passed ++ token :: rest).take (passed.length + 1) = passed ++ [token] := by
    rw [List.take_length_add_append]
    rfl
  have code := complaint_code maxNesting passed token progress walked
  have known := Progress.complaint_token maxNesting progress token
  refine ⟨passed.length, ?_, ?_, ?_, ?_, ?_⟩
  · rw [known]
    simp
  · intro last ends
    have finished := Progress.walk_after maxNesting _ _ _ progress.completion walked
    rw [progress.completion_walked] at finished
    obtain ⟨tree, accepted⟩ := walked_accepted _ last ends finished
    exact ⟨progress.completion, tree, by rw [front]; exact accepted⟩
  · intro later last tree ends
    rw [here, List.append_assoc, List.append_assoc, List.singleton_append]
    apply stuck_rejected passed (later ++ [last]) token progress tree walked stuck unfinished
    exact ⟨passed ++ token :: later, last, by simp, ends⟩
  · intro start
    have noOperand : passed.getLast?.any Token.endsOperand = false := by
      rcases start with empty | other
      · simp [List.length_eq_zero_iff.mp empty]
      · rcases List.eq_nil_or_concat passed with rfl | ⟨before, previous, rfl⟩
        · rfl
        · have plain := other previous (by simp)
          simp [Token.endsOperand, plain]
    rw [code, noOperand, known]
    simp only [Bool.false_eq_true, if_false]
    split <;> rfl
  · intro previous positive stands ended
    have operand : passed.getLast?.any Token.endsOperand = true := by
      rw [← front, previous_token _ _ positive (by simp), stands]
      simpa [Token.endsOperand] using ended
    rw [code, operand, front]
    simp only [if_true]
    split <;> rfl

theorem missing_closing_parenthesis_earliest :
    let two := Token.onFirstLine .number "2" (some 2) "" 3
    let last := Token.onFirstLine .endOfInput "" none "" 4
    let tokens := [Token.onFirstLine .reserved "(" none "" 0, .onFirstLine .number "1" (some 1) "" 1, two, last]
    Tree.ofTokens tokens = .error (.rejected (.missingSymbol ")" two)) ∧
      ∃ index : Nat, tokens[index]? = some two ∧
        ∃ later tree, Tree.ofTokens (tokens.take index ++ later ++ [last]) = .ok tree := by
  intro two last tokens
  have failed : Tree.ofTokens tokens = .error (.rejected (.missingSymbol ")" two)) := rfl
  obtain ⟨index, found, viable, _⟩ := syntax_error_earliest tokens ⟨tokens.take 3, last, rfl, rfl⟩ _ failed
  exact ⟨failed, index, found, viable last rfl⟩

end ExprCompiler
