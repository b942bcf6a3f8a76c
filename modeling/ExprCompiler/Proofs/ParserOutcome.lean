import ExprCompiler.Proofs.ParserSteps
import ExprCompiler.Proofs.Progress

set_option autoImplicit false

namespace ExprCompiler

structure Found (layer : Layer) (limit : Int) (before : ParseState) (tree : Tree)
    (after : ParseState) : Prop where
  phrase : ∃ phrase : Phrase layer, phrase.tree = tree ∧ phrase.nesting ≤ (limit - before.depth).toNat ∧
    before.Passed phrase.tokens after
  depth : after.depth = before.depth
  stops : layer.Stops after.current

-- Parentheses that are too deep have been passed when they are refused; no other token has.
structure RefusedAt (expects : Expectation) (limit : Int) (before : ParseState) (error : SyntaxError)
    (after : ParseState) (passed : List Token) (progress : Progress) (token : Token)
    (rest : List Token) : Prop where
  split : before.remaining = passed ++ token :: rest
  walked : Progress.walk limit ⟨expects, before.depth⟩ passed = some progress
  stuck : progress.step limit token = none
  inside : progress.expects = .continuation → before.depth < progress.depth
  complaint : error = progress.complaint limit token
  cursor : before.Passed (passed ++ if error.code = .tooDeep then [token] else []) after
  depth : after.depth = progress.depth

def Refused (expects : Expectation) (limit : Int) (before : ParseState) (error : SyntaxError)
    (after : ParseState) : Prop :=
  ∃ passed progress token rest, RefusedAt expects limit before error after passed progress token rest

def ParseOutcome (layer : Layer) (limit : Int) (before : ParseState) :
    EStateM.Result SyntaxError ParseState Tree → Prop
  | .ok tree after => Found layer limit before tree after
  | .error error after => Refused layer.start limit before error after

def Meets (layer : Layer) (limit : Int) (depth : Nat) (parser : ParseM Tree) : Prop :=
  ∀ state : ParseState, Terminated state.remaining → state.depth = depth →
    ParseOutcome layer limit state (parser state)

theorem refused_behind (expects later : Expectation) (limit : Int) (before middle after : ParseState)
    (front : List Token) (error : SyntaxError) (passed : before.Passed front middle)
    (walked : Progress.walk limit ⟨expects, before.depth⟩ front = some ⟨later, middle.depth⟩)
    (deeper : before.depth ≤ middle.depth) (refused : Refused later limit middle error after) :
    Refused expects limit before error after := by
  obtain ⟨rest, progress, token, unread, failure⟩ := refused
  refine ⟨front ++ rest, progress, token, unread, ?_⟩
  constructor
  · rw [passed.split, failure.split, List.append_assoc]
  · rw [Progress.walk_after _ _ _ _ _ walked]
    exact failure.walked
  · exact failure.stuck
  · intro continued
    have deep := failure.inside continued
    omega
  · exact failure.complaint
  · rw [List.append_assoc]
    exact ParseState.passed_append _ _ _ _ _ passed failure.cursor
  · exact failure.depth

-- The loop ends in front of a token that is no operator of its layer. Otherwise it has read an
-- operator and an operand more, or fails as the operand does.
theorem chain_from_outcome (layer : Layer) (compound : layer ≠ .primary) (signless : layer ≠ .unary)
    (limit : Int) (operand : ParseM Tree) (before state : ParseState) (phrase : Phrase layer)
    (bound : List Token) (meets : Meets layer.tighter limit before.depth operand)
    (terminated : Terminated before.remaining) (passed : before.Passed phrase.tokens state)
    (level : state.depth = before.depth) (fits : phrase.nesting ≤ (limit - before.depth).toNat)
    (stops : layer.tighter.Stops state.current) (enough : state.ahead.length ≤ bound.length) :
    ParseOutcome layer limit before (ParseM.chainFrom layer.rules operand bound phrase.tree state) := by
  have start := layer.start_compound compound
  have operandStart := Layer.start_compound _ (layer.tighter_compound compound signless)
  induction bound generalizing state phrase with
  | nil =>
      have ends : layer.Stops state.current := by
        apply layer.stops_of_tighter state.current stops
        intro connective inLayer
        cases written : state.current.isSymbol connective.symbol with
        | false => rfl
        | true =>
            have unread := ParseState.passed_terminated _ _ _ passed terminated
            obtain ⟨next, later, filled⟩ := state.ahead_filled unread (state.current.symbol_inside _ written)
            simp [filled] at enough
      exact ⟨⟨phrase, rfl, fits, passed⟩, level, ends⟩
  | cons token bound ih =>
      cases found : layer.rules.find? fun rule => state.current.isSymbol rule.symbol with
      | none =>
          rw [ParseM.chainFrom_stop _ _ _ _ _ found]
          have ends := layer.stops_of_tighter state.current stops (layer.no_rule_found state.current found)
          exact ⟨⟨phrase, rfl, fits, passed⟩, level, ends⟩
      | some rule =>
          obtain ⟨connective, inLayer, rfl, written⟩ := layer.rule_found _ _ found
          rw [ParseM.chainFrom_turn _ _ _ _ _ _ _ found]
          have unread := ParseState.passed_terminated _ _ _ passed terminated
          have stepped := state.advance_passed unread (state.current.symbol_inside _ written)
          have moved := ParseState.passed_append _ _ _ _ _ passed stepped
          have sameDepth : state.advance.depth = before.depth := by rw [state.advance_depth, level]
          have outcome := meets state.advance (ParseState.passed_terminated _ _ _ moved terminated) sameDepth
          cases ran : operand state.advance with
          | error error after =>
              rw [ran, ParseOutcome, operandStart] at outcome
              have walked := phrase.walked limit before.depth fits
              rw [start] at walked
              rw [ParseOutcome, start]
              apply refused_behind _ _ _ _ _ _ _ _ moved _ (by omega) outcome
              rw [Progress.walk_after _ _ _ _ _ walked, sameDepth]
              exact Progress.walk_step _ _ _ _ _
                (Progress.step_connective limit before.depth connective state.current written)
          | ok right after =>
              rw [ran] at outcome
              obtain ⟨⟨part, rfl, partFits, partPassed⟩, partLevel, partStops⟩ := outcome
              let whole : Phrase layer := .joined connective inLayer state.current written phrase part
              have wholeTokens : whole.tokens = phrase.tokens ++ [state.current] ++ part.tokens := by
                simp [whole, Phrase.tokens]
              have wholePassed : before.Passed whole.tokens after := by
                rw [wholeTokens]
                exact ParseState.passed_append _ _ _ _ _ moved partPassed
              have wholeFits : whole.nesting ≤ (limit - before.depth).toNat := by
                rw [sameDepth] at partFits
                simp only [whole, Phrase.nesting]
                omega
              have shorter := ParseState.passed_shorter _ _ _ stepped
              have notLonger := ParseState.passed_shorter _ _ _ partPassed
              simp only [List.length_cons, List.length_nil] at enough shorter
              exact ih after whole wholePassed (by omega) wholeFits partStops (by omega)

theorem chain_outcome (layer : Layer) (compound : layer ≠ .primary) (signless : layer ≠ .unary)
    (limit : Int) (depth : Nat) (operand : ParseM Tree) (meets : Meets layer.tighter limit depth operand) :
    Meets layer limit depth (ParseM.chain layer.rules operand) := by
  intro state terminated level
  subst level
  have outcome := meets state terminated rfl
  rw [ParseM.chain_apply]
  cases ran : operand state with
  | error error after =>
      rw [ran, ParseOutcome, Layer.start_compound _ (layer.tighter_compound compound signless)] at outcome
      rw [ParseOutcome, layer.start_compound compound]
      exact outcome
  | ok left after =>
      rw [ran] at outcome
      obtain ⟨⟨part, rfl, fits, passed⟩, partLevel, stops⟩ := outcome
      exact chain_from_outcome layer compound signless limit operand state after (.single compound part)
        after.ahead meets terminated passed partLevel fits stops (Nat.le_refl _)

theorem signed_outcome (limit : Int) (primary : ParseM Tree) (state : ParseState)
    (build : Tree → Tree) (wrap : Phrase .primary → Phrase .unary)
    (meets : Meets .primary limit state.depth primary) (terminated : Terminated state.remaining)
    (sign : state.current.isSymbol "+" = true ∨ state.current.isSymbol "-" = true)
    (applied : ParseM.unary primary state =
      match primary state.advance with
      | .ok operand after => .ok (build operand) after
      | .error error after => .error error after)
    (wrapped : ∀ operand, (wrap operand).tree = build operand.tree ∧
      (wrap operand).tokens = state.current :: operand.tokens ∧ (wrap operand).nesting = operand.nesting) :
    ParseOutcome .unary limit state (ParseM.unary primary state) := by
  have inside : state.current.isEnd = false := by
    rcases sign with plus | minus
    · exact state.current.symbol_inside _ plus
    · exact state.current.symbol_inside _ minus
  have stepped := state.advance_passed terminated inside
  have outcome := meets state.advance (ParseState.passed_terminated _ _ _ stepped terminated) state.advance_depth
  rw [applied]
  cases ran : primary state.advance with
  | error error after =>
      rw [ran] at outcome
      apply refused_behind _ _ _ _ _ _ _ _ stepped _ (Nat.le_of_eq state.advance_depth.symm) outcome
      rw [state.advance_depth]
      exact Progress.walk_step _ _ _ _ _ (Progress.step_sign limit state.depth state.current sign)
  | ok operand after =>
      rw [ran] at outcome
      obtain ⟨⟨part, rfl, fits, passed⟩, level, stops⟩ := outcome
      obtain ⟨tree, tokens, nesting⟩ := wrapped part
      rw [state.advance_depth] at fits level
      refine ⟨⟨wrap part, tree, by omega, ?_⟩, level, ?_⟩
      · rw [tokens]
        exact ParseState.passed_append _ _ _ _ _ stepped passed
      · exact Layer.operand_stops .unary (.inl rfl) after.current

-- Without a sign to tell them apart, an operand fails as a single one does.
theorem refused_unsigned (limit : Int) (before after : ParseState) (error : SyntaxError)
    (unsigned : before.current.isSymbol "+" = false ∧ before.current.isSymbol "-" = false)
    (refused : Refused .unsignedOperand limit before error after) :
    Refused .operand limit before error after := by
  obtain ⟨passed, progress, token, rest, failure⟩ := refused
  cases passed with
  | nil =>
      have current : before.current = token := (List.cons.inj failure.split).1
      have same : progress = ⟨.unsignedOperand, before.depth⟩ := (Option.some.inj failure.walked).symm
      subst current same
      refine ⟨[], ⟨.operand, before.depth⟩, before.current, rest, ?_⟩
      constructor
      · exact failure.split
      · rfl
      · rw [← failure.stuck]
        exact Progress.step_start limit .unary before.depth before.current unsigned
      · intro continued
        cases continued
      · exact failure.complaint
      · exact failure.cursor
      · exact failure.depth
  | cons first later =>
      have current : before.current = first := (List.cons.inj failure.split).1
      subst current
      refine ⟨before.current :: later, progress, token, rest, ?_⟩
      have walked := failure.walked
      rw [← Progress.walk_start limit .unary before.depth before.current later unsigned] at walked
      exact { failure with walked := walked }

theorem unary_outcome (limit : Int) (depth : Nat) (primary : ParseM Tree)
    (meets : Meets .primary limit depth primary) : Meets .unary limit depth (ParseM.unary primary) := by
  intro state terminated level
  subst level
  by_cases plus : state.current.isSymbol "+" = true
  · exact signed_outcome limit primary state _ (.positive state.current plus) meets terminated (.inl plus)
      (ParseM.unary_plus primary state plus) (fun _ => ⟨rfl, rfl, rfl⟩)
  · by_cases minus : state.current.isSymbol "-" = true
    · exact signed_outcome limit primary state _ (.negative state.current minus) meets terminated (.inr minus)
        (ParseM.unary_minus primary state minus) (fun _ => ⟨rfl, rfl, rfl⟩)
    · have unsigned : state.current.isSymbol "+" = false ∧ state.current.isSymbol "-" = false := by
        simp [plus, minus]
      have outcome := meets state terminated rfl
      rw [ParseM.unary_plain primary state unsigned]
      cases ran : primary state with
      | error error after =>
          rw [ran] at outcome
          exact refused_unsigned limit state after error unsigned outcome
      | ok operand after =>
          rw [ran] at outcome
          obtain ⟨⟨part, rfl, fits, passed⟩, level, _⟩ := outcome
          have compound : Layer.unary ≠ .primary := by decide
          exact ⟨⟨.single compound part, rfl, fits, passed⟩, level,
            Layer.operand_stops .unary (.inl rfl) after.current⟩

theorem layer_outcome (limit : Int) (depth : Nat) (primary : ParseM Tree)
    (meets : Meets .primary limit depth primary) (layer : Layer) :
    Meets layer limit depth (layer.builtOn primary) := by
  have unary := unary_outcome limit depth primary meets
  have multiplicative := chain_outcome .multiplicative (by decide) (by decide) limit depth _ unary
  have additive := chain_outcome .additive (by decide) (by decide) limit depth _ multiplicative
  have relational := chain_outcome .relational (by decide) (by decide) limit depth _ additive
  have equality := chain_outcome .equality (by decide) (by decide) limit depth _ relational
  cases layer with
  | equality => exact equality
  | relational => exact relational
  | additive => exact additive
  | multiplicative => exact multiplicative
  | unary => exact unary
  | primary => exact meets
  | expression =>
      intro state terminated level
      have outcome := equality state terminated level
      change ParseOutcome .expression limit state (ParseM.equality primary state)
      change ParseOutcome .equality limit state (ParseM.equality primary state) at outcome
      cases ran : ParseM.equality primary state with
      | error error after =>
          rw [ran] at outcome
          exact outcome
      | ok tree after =>
          rw [ran] at outcome
          obtain ⟨⟨part, rfl, fits, passed⟩, level, stops⟩ := outcome
          have compound : Layer.expression ≠ .primary := by decide
          refine ⟨⟨.single compound part, rfl, fits, passed⟩, level, ?_⟩
          apply Layer.stops_of_tighter .expression _ stops
          intro connective inLayer
          cases connective <;> cases inLayer

theorem primary_number_outcome (limit : Int) (room : Nat) (state : ParseState)
    (terminated : Terminated state.remaining) (plain : state.current.isSymbol "(" = false) :
    ParseOutcome .primary limit state (ParseM.primary limit room state) := by
  rw [ParseM.primary_number limit room state plain]
  by_cases numeral : state.current.isNumber = true
  · rw [dif_pos numeral]
    have stepped := state.advance_passed terminated (state.current.number_inside numeral)
    exact ⟨⟨.number state.current numeral, rfl, Nat.zero_le _, stepped⟩, state.advance_depth,
      Layer.operand_stops .primary (.inr rfl) _⟩
  · rw [dif_neg numeral]
    refine ⟨[], ⟨.unsignedOperand, state.depth⟩, state.current, state.ahead, ?_⟩
    constructor
    · rfl
    · rfl
    · simp [Progress.step, Progress.beginOperand, numeral, plain]
    · intro continued
      cases continued
    · simp [Progress.complaint, plain]
    · exact state.passed_nothing
    · rfl

theorem primary_full_outcome (limit : Int) (state : ParseState) (terminated : Terminated state.remaining)
    (opens : state.current.isSymbol "(" = true) (full : (limit - state.depth).toNat = 0) :
    ParseOutcome .primary limit state (ParseM.primary limit 0 state) := by
  rw [ParseM.primary_full limit state opens]
  have inside := state.current.symbol_inside _ opens
  have reserved : state.current.isNumber = false := by
    cases numeral : state.current.isNumber with
    | false => rfl
    | true => rw [state.current.number_no_symbol _ numeral] at opens; cases opens
  have noRoom : ¬ (state.depth : Int) < limit := by omega
  refine ⟨[], ⟨.unsignedOperand, state.depth⟩, state.current, state.ahead, ?_⟩
  constructor
  · rfl
  · rfl
  · simp [Progress.step, Progress.beginOperand, reserved, noRoom]
  · intro continued
    cases continued
  · simp [Progress.complaint, opens]
  · exact state.advance_passed terminated inside
  · exact state.advance_depth

theorem primary_group_outcome (limit : Int) (room : Nat) (state : ParseState)
    (terminated : Terminated state.remaining) (opens : state.current.isSymbol "(" = true)
    (roomy : (limit - state.depth).toNat = room + 1)
    (meets : Meets .expression limit (state.depth + 1) (ParseM.equality (ParseM.primary limit room))) :
    ParseOutcome .primary limit state (ParseM.primary limit (room + 1) state) := by
  rw [ParseM.primary_group limit room state opens]
  have opened : state.Passed [state.current] state.advance.openParenthesis := by
    have stepped := state.advance_passed terminated (state.current.symbol_inside _ opens)
    exact ⟨stepped.split, stepped.position⟩
  have deeper : state.advance.openParenthesis.depth = state.depth + 1 := by
    rw [ParseState.openParenthesis, state.advance_depth]
  have openedWalk : Progress.walk limit ⟨Layer.primary.start, state.depth⟩ [state.current] =
      some ⟨.operand, state.depth + 1⟩ :=
    Progress.walk_step _ _ _ _ _ (Progress.step_opening limit .primary state.depth state.current opens (by omega))
  have unread := ParseState.passed_terminated _ _ _ opened terminated
  have outcome := meets _ unread deeper
  cases ran : ParseM.equality (ParseM.primary limit room) state.advance.openParenthesis with
  | error error after =>
      rw [ran] at outcome
      apply refused_behind _ _ _ _ _ _ _ _ opened _ (by omega) outcome
      rw [deeper]
      exact openedWalk
  | ok tree after =>
      rw [ran] at outcome
      obtain ⟨⟨inner, rfl, fits, passed⟩, level, stops⟩ := outcome
      have innerPassed := ParseState.passed_append _ _ _ _ _ opened passed
      dsimp only
      by_cases closes : after.current.isSymbol ")" = true
      · rw [if_pos closes]
        have closed := after.advance_passed (ParseState.passed_terminated _ _ _ innerPassed terminated)
          (after.current.symbol_inside _ closes)
        let whole : Phrase .primary := .group state.current after.current opens closes inner
        have wholePassed : state.Passed whole.tokens after.advance.closeParenthesis := by
          have all := ParseState.passed_append _ _ _ _ _ innerPassed closed
          exact ⟨all.split, all.position⟩
        refine ⟨⟨whole, rfl, ?_, wholePassed⟩, ?_, Layer.operand_stops .primary (.inr rfl) _⟩
        · simp only [whole, Phrase.nesting]
          rw [deeper] at fits
          omega
        · simp only [ParseState.closeParenthesis, after.advance_depth, level, deeper]
          omega
      · rw [if_neg closes]
        have plain := (Layer.expression_stops_iff after.current).mp stops
        have innerWalk := inner.walked limit _ fits
        rw [deeper, Layer.start_compound .expression (by decide)] at innerWalk
        refine ⟨[state.current] ++ inner.tokens, ⟨.continuation, state.depth + 1⟩, after.current, after.ahead, ?_⟩
        constructor
        · exact innerPassed.split
        · rw [Progress.walk_after _ _ _ _ _ openedWalk]
          exact innerWalk
        · simp [Progress.step, plain, closes]
        · intro continued
          exact Nat.lt_succ_self _
        · simp [Progress.complaint]
        · simpa [SyntaxError.code] using innerPassed
        · rw [level, deeper]

theorem primary_outcome (limit : Int) (room depth : Nat) (roomy : (limit - depth).toNat = room) :
    Meets .primary limit depth (ParseM.primary limit room) := by
  induction room generalizing depth with
  | zero =>
      intro state terminated level
      subst level
      by_cases opens : state.current.isSymbol "(" = true
      · exact primary_full_outcome limit state terminated opens roomy
      · exact primary_number_outcome limit 0 state terminated (Bool.not_eq_true _ ▸ opens)
  | succ room ih =>
      intro state terminated level
      subst level
      by_cases opens : state.current.isSymbol "(" = true
      · have inner := ih (state.depth + 1) (by omega)
        have meets := layer_outcome limit (state.depth + 1) (ParseM.primary limit room) inner .expression
        exact primary_group_outcome limit room state terminated opens roomy meets
      · exact primary_number_outcome limit (room + 1) state terminated (Bool.not_eq_true _ ▸ opens)

theorem parse_outcome (layer : Layer) (limit : Int) (state : ParseState)
    (terminated : Terminated state.remaining) : ParseOutcome layer limit state (layer.parse limit state) :=
  layer_outcome limit state.depth _ (primary_outcome limit _ state.depth rfl) layer state terminated rfl

end ExprCompiler
