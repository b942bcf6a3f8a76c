import ExprCompiler.Proofs.ParseList

set_option autoImplicit false

namespace ExprCompiler

inductive ParserCall where
  | atSymbol (symbol : String)
  | accept (symbol : String)
  | require (symbol : String)
  | number
  | atEnd
  | current
  | parse (layer : Layer)
deriving DecidableEq, Repr

namespace Parser

def perform (parser : Parser) : ParserCall → Parser
  | .atSymbol symbol => (parser.run (ParseM.atSymbol symbol)).2
  | .accept symbol => (parser.run (ParseM.accept symbol)).2
  | .require symbol => (parser.run (ParseM.require symbol)).2
  | .number => (parser.run ParseM.number).2
  | .atEnd => (parser.run ParseM.atEnd).2
  | .current => (parser.run ParseM.peek).2
  | .parse layer => (parser.parse layer).2

def session (parser : Parser) (calls : List ParserCall) : Parser :=
  calls.foldl perform parser

end Parser

-- The parenthesis that is one too many has been consumed, but does not count as open.
def overrun : Except SyntaxError Tree → Int
  | .error error => if error.code = .tooDeep then 1 else 0
  | .ok _ => 0

def tokensBetween (tokens : List Token) (first last : Nat) : List Token :=
  (tokens.take last).drop first

theorem Phrase.tokens_filled {layer : Layer} (phrase : Phrase layer) : phrase.tokens ≠ [] := by
  induction phrase with
  | number | group | positive | negative => simp [tokens]
  | single compound part ih => exact ih
  | joined => simp [tokens]

namespace ParseState

structure Consumes (before : ParseState) (consumed : List Token) (after : ParseState) : Prop where
  passed : before.Passed consumed after
  inside : ∀ token ∈ consumed, token.isEnd = false

theorem consumes_nothing (state : ParseState) : state.Consumes [] state :=
  ⟨state.passed_nothing, by simp⟩

theorem consumes_token (state : ParseState) (terminated : Terminated state.remaining)
    (inside : state.current.isEnd = false) : state.Consumes [state.current] state.advance :=
  ⟨state.advance_passed terminated inside, by simpa using inside⟩

end ParseState

theorem found_consumes {layer : Layer} {limit : Int} {before after : ParseState} {tree : Tree}
    (found : Found layer limit before tree after) :
    ∃ consumed, before.Consumes consumed after ∧ consumed ≠ [] ∧ (consumed.map Token.weight).sum = 0 := by
  obtain ⟨phrase, _, fits, passed⟩ := found.phrase
  have walked := phrase.walked limit before.depth fits
  have depth := Progress.walk_depth limit _ _ _ walked
  refine ⟨phrase.tokens, ⟨passed, Progress.walk_inside limit _ _ _ walked⟩, phrase.tokens_filled, ?_⟩
  simp only at depth
  omega

theorem refused_error {expects : Expectation} {limit : Int} {before after : ParseState} {error : SyntaxError}
    {passed rest : List Token} {progress : Progress} {token : Token}
    (refused : RefusedAt expects limit before error after passed progress token rest) :
    error.token = token ∧
      if error.code = .tooDeep then token.isSymbol "(" = true
      else error.code = .missingSymbol ∨ error.code = .missingNumber := by
  have complaint := refused.complaint
  have deeper := refused.inside
  obtain ⟨expected, depth⟩ := progress
  cases expected with
  | continuation =>
      have opened := deeper rfl
      have positive : 0 < depth := Nat.lt_of_le_of_lt (Nat.zero_le _) opened
      rw [Progress.complaint, if_pos positive] at complaint
      subst complaint
      exact ⟨rfl, .inl rfl⟩
  | operand | unsignedOperand =>
      simp only [Progress.complaint] at complaint
      by_cases opens : token.isSymbol "(" = true
      · rw [if_pos opens] at complaint
        subst complaint
        exact ⟨rfl, opens⟩
      · rw [if_neg opens] at complaint
        subst complaint
        exact ⟨rfl, .inr rfl⟩

theorem refused_consumes {expects : Expectation} {limit : Int} {before after : ParseState} {error : SyntaxError}
    (refused : Refused expects limit before error after) (bounded : (before.depth : Int) ≤ max limit 0) :
    (after.depth : Int) ≤ max limit 0 ∧ ∃ consumed, before.Consumes consumed after ∧
      (after.depth : Int) - before.depth = (consumed.map Token.weight).sum - overrun (.error error) ∧
      (((error.code = .missingSymbol ∨ error.code = .missingNumber) ∧ after.current = error.token) ∨
        (error.code = .tooDeep ∧ consumed.getLast? = some error.token)) := by
  obtain ⟨passed, progress, token, rest, failure⟩ := refused
  have walked := failure.walked
  have depth := Progress.walk_depth limit _ _ _ walked
  have inside := Progress.walk_inside limit _ _ _ walked
  have cursor := failure.cursor
  obtain ⟨rfl, kind⟩ := refused_error failure
  simp only [← failure.depth] at depth
  refine ⟨failure.depth ▸ Progress.walk_bounded limit _ _ _ walked bounded, ?_⟩
  by_cases deep : error.code = .tooDeep
  · rw [if_pos deep] at cursor kind
    refine ⟨passed ++ [error.token], ⟨cursor, ?_⟩, ?_, .inr ⟨deep, List.getLast?_concat⟩⟩
    · intro token member
      rcases List.mem_append.mp member with front | last
      · exact inside token front
      · rw [List.mem_singleton.mp last]
        exact error.token.symbol_inside _ kind
    · have weight : error.token.weight = 1 := if_pos kind
      rw [List.map_append, List.sum_append, List.map_singleton, List.sum_singleton, weight, overrun, if_pos deep]
      omega
  · rw [if_neg deep, List.append_nil] at cursor
    rw [if_neg deep] at kind
    have unread := cursor.split
    rw [failure.split] at unread
    have current := (List.cons.inj (List.append_cancel_left unread)).1
    refine ⟨passed, ⟨cursor, inside⟩, ?_, .inl ⟨kind, current.symm⟩⟩
    rw [overrun, if_neg deep]
    omega

namespace Parser

structure Sound (tokens : List Token) (limit : Int) (parser : Parser) : Prop where
  sameLimit : parser.limit = limit
  consumed : ∃ consumed, tokens = consumed ++ parser.state.remaining ∧
    parser.state.position = consumed.length ∧ ∀ token ∈ consumed, token.isEnd = false
  depth : (parser.state.depth : Int) ≤ max limit 0

variable {tokens : List Token} {limit : Int} {parser : Parser}

theorem Sound.terminated (sound : parser.Sound tokens limit) (terminated : Terminated tokens) :
    Terminated parser.state.remaining := by
  obtain ⟨consumed, rfl, _⟩ := sound.consumed
  exact terminated_append consumed _ (by simp [ParseState.remaining]) terminated

theorem Sound.current (sound : parser.Sound tokens limit) :
    tokens[parser.state.position]? = some parser.state.current := by
  obtain ⟨consumed, rfl, place, _⟩ := sound.consumed
  simp [place, ParseState.remaining]

theorem Sound.between (sound : parser.Sound tokens limit) (consumed : List Token) (after : ParseState)
    (consumes : parser.state.Consumes consumed after) :
    tokensBetween tokens parser.state.position after.position = consumed := by
  obtain ⟨front, rfl, place, _⟩ := sound.consumed
  rw [tokensBetween, consumes.passed.position, place, consumes.passed.split, ← List.append_assoc, ← List.length_append,
    List.take_left, List.drop_left]

theorem Sound.after (sound : parser.Sound tokens limit) (consumed : List Token) (after : ParseState)
    (consumes : parser.state.Consumes consumed after) (bounded : (after.depth : Int) ≤ max limit 0) :
    Sound tokens limit { parser with state := after } := by
  obtain ⟨front, rfl, place, inside⟩ := sound.consumed
  refine ⟨sound.sameLimit, ⟨front ++ consumed, ?_, ?_, ?_⟩, bounded⟩
  · rw [consumes.passed.split, List.append_assoc]
  · rw [consumes.passed.position, place, List.length_append]
  · intro token member
    rcases List.mem_append.mp member with before | now
    · exact inside token before
    · exact consumes.inside token now

def endState {α : Type} : EStateM.Result SyntaxError ParseState α → ParseState
  | .ok _ state => state
  | .error _ state => state

theorem run_state {α : Type} (parser : Parser) (step : ParseM α) :
    (parser.run step).2 = { parser with state := endState (step parser.state) } := by
  rw [run]
  cases step parser.state <;> rfl

-- A step on one token passes it or leaves the state alone, and does not pass the mark at the end.
def OneToken {α : Type} (step : ParseM α) : Prop :=
  ∀ state : ParseState, endState (step state) = state ∨
    (state.current.isEnd = false ∧ endState (step state) = state.advance)

theorem accept_one_token (symbol : String) : OneToken (ParseM.accept symbol) := by
  intro state
  rw [ParseM.accept_apply]
  by_cases fit : state.current.isSymbol symbol = true
  · rw [if_pos fit]
    exact .inr ⟨state.current.symbol_inside symbol fit, rfl⟩
  · rw [if_neg fit]
    exact .inl rfl

def AsksFor {α : Type} (step : ParseM α) (fits : Token → Bool) : Prop :=
  ∀ state : ParseState, (fits state.current = true ∧ ∃ value, step state = .ok value state.advance) ∨
    ∃ error, step state = .error error state

theorem require_asks (symbol : String) : AsksFor (ParseM.require symbol) (·.isSymbol symbol) := by
  intro state
  rw [ParseM.require_apply]
  by_cases fit : state.current.isSymbol symbol = true
  · rw [if_pos fit]
    exact .inl ⟨fit, _, rfl⟩
  · rw [if_neg fit]
    exact .inr ⟨_, rfl⟩

theorem number_asks : AsksFor ParseM.number Token.isNumber := by
  intro state
  rw [ParseM.number_apply]
  by_cases numeral : state.current.isNumber = true
  · rw [dif_pos numeral]
    exact .inl ⟨numeral, _, rfl⟩
  · rw [dif_neg numeral]
    exact .inr ⟨_, rfl⟩

theorem asks_one_token {α : Type} (step : ParseM α) (fits : Token → Bool) (asks : AsksFor step fits)
    (inside : ∀ token, fits token = true → token.isEnd = false) : OneToken step := by
  intro state
  rcases asks state with ⟨fit, value, passed⟩ | ⟨error, stayed⟩
  · rw [passed]
    exact .inr ⟨inside _ fit, rfl⟩
  · rw [stayed]
    exact .inl rfl

structure Moves (limit : Int) (before after : Parser) (consumed : List Token) : Prop where
  same : after = { before with state := after.state }
  consumes : before.state.Consumes consumed after.state
  depth : (after.state.depth : Int) ≤ max limit 0

theorem one_token_moves {α : Type} (step : ParseM α) (oneToken : OneToken step)
    (terminated : Terminated parser.state.remaining) (bounded : (parser.state.depth : Int) ≤ max limit 0) :
    ∃ consumed, Moves limit parser (parser.run step).2 consumed := by
  rw [run_state]
  rcases oneToken parser.state with stays | ⟨inside, passes⟩
  · rw [stays]
    exact ⟨[], rfl, parser.state.consumes_nothing, bounded⟩
  · rw [passes]
    refine ⟨[parser.state.current], rfl, parser.state.consumes_token terminated inside, ?_⟩
    rw [parser.state.advance_depth]
    exact bounded

theorem layer_moves (layer : Layer) (sameLimit : parser.limit = limit)
    (terminated : Terminated parser.state.remaining) (bounded : (parser.state.depth : Int) ≤ max limit 0) :
    ∃ consumed, Moves limit parser (parser.parse layer).2 consumed := by
  subst sameLimit
  have outcome := parse_outcome layer parser.limit parser.state terminated
  rw [parse, run_state]
  cases ran : layer.parse parser.limit parser.state with
  | ok tree after =>
      rw [ran] at outcome
      obtain ⟨consumed, consumes, _⟩ := found_consumes outcome
      refine ⟨consumed, rfl, consumes, ?_⟩
      rw [endState, outcome.depth]
      exact bounded
  | error error after =>
      rw [ran] at outcome
      obtain ⟨limited, consumed, consumes, _⟩ := refused_consumes outcome bounded
      exact ⟨consumed, rfl, consumes, limited⟩

theorem perform_moves (call : ParserCall) (terminated : Terminated tokens) (sound : parser.Sound tokens limit) :
    ∃ consumed, Moves limit parser (parser.perform call) consumed := by
  have unread := sound.terminated terminated
  cases call with
  | atSymbol symbol => exact ⟨[], rfl, parser.state.consumes_nothing, sound.depth⟩
  | accept symbol => exact one_token_moves _ (accept_one_token symbol) unread sound.depth
  | require symbol =>
      have oneToken := asks_one_token _ _ (require_asks symbol) fun token => token.symbol_inside symbol
      exact one_token_moves _ oneToken unread sound.depth
  | number => exact one_token_moves _ (asks_one_token _ _ number_asks Token.number_inside) unread sound.depth
  | atEnd => exact ⟨[], rfl, parser.state.consumes_nothing, sound.depth⟩
  | current => exact ⟨[], rfl, parser.state.consumes_nothing, sound.depth⟩
  | parse layer => exact layer_moves layer sound.sameLimit unread sound.depth

theorem perform_sound (call : ParserCall) (terminated : Terminated tokens) (sound : parser.Sound tokens limit) :
    (parser.perform call).Sound tokens limit := by
  obtain ⟨consumed, moves⟩ := perform_moves call terminated sound
  rw [moves.same]
  exact sound.after consumed _ moves.consumes moves.depth

theorem session_sound (calls : List ParserCall) (terminated : Terminated tokens)
    (sound : parser.Sound tokens limit) : (parser.session calls).Sound tokens limit := by
  induction calls generalizing parser with
  | nil => exact sound
  | cons call calls ih => exact ih (perform_sound call terminated sound)

theorem fresh_sound (terminated : Terminated tokens) (limit : Int) :
    ∃ fresh, ofTokens tokens limit = .ok fresh ∧ fresh.Sound tokens limit := by
  obtain ⟨token, ahead, rfl⟩ := terminated_filled tokens terminated
  refine ⟨⟨token :: ahead, limit, .first token ahead⟩, ?_, rfl, ⟨[], rfl, rfl, by simp⟩, Int.le_max_right limit 0⟩
  rw [ofTokens, if_pos (terminated_last token ahead terminated)]
  rfl

end Parser

end ExprCompiler
