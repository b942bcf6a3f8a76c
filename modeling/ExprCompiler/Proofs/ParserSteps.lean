import ExprCompiler.Proofs.Phrase

set_option autoImplicit false

namespace ExprCompiler

namespace ParseM

theorem acceptRule_apply (rules : List BinaryRule) (state : ParseState) :
    acceptRule rules state =
      match rules.find? fun rule => state.current.isSymbol rule.symbol with
      | none => .ok none state
      | some rule => .ok (some rule) state.advance := by
  have peeked := peek_apply state
  simp only [acceptRule, bind, EStateM.bind, peeked]
  cases rules.find? fun rule => state.current.isSymbol rule.symbol <;> rfl

theorem chainFrom_stop (rules : List BinaryRule) (operand : ParseM Tree) (bound : List Token)
    (left : Tree) (state : ParseState)
    (missing : (rules.find? fun rule => state.current.isSymbol rule.symbol) = none) :
    chainFrom rules operand bound left state = .ok left state := by
  cases bound with
  | nil => rfl
  | cons token bound =>
      have refused := acceptRule_apply rules state
      rw [missing] at refused
      simp [chainFrom, bind, EStateM.bind, refused, pure, EStateM.pure]

theorem chainFrom_turn (rules : List BinaryRule) (operand : ParseM Tree) (token : Token)
    (bound : List Token) (left : Tree) (state : ParseState) (rule : BinaryRule)
    (found : (rules.find? fun rule => state.current.isSymbol rule.symbol) = some rule) :
    chainFrom rules operand (token :: bound) left state =
      match operand state.advance with
      | .ok right after => chainFrom rules operand bound (rule.build left right) after
      | .error error after => .error error after := by
  have accepted := acceptRule_apply rules state
  rw [found] at accepted
  simp only [chainFrom, bind, EStateM.bind, accepted]
  cases operand state.advance <;> rfl

theorem chain_apply (rules : List BinaryRule) (operand : ParseM Tree) (state : ParseState) :
    chain rules operand state =
      match operand state with
      | .ok left after => chainFrom rules operand after.ahead left after
      | .error error after => .error error after := by
  simp only [chain, bind, EStateM.bind]
  cases operand state <;> rfl

theorem unary_plus (primary : ParseM Tree) (state : ParseState)
    (written : state.current.isSymbol "+" = true) :
    unary primary state =
      match primary state.advance with
      | .ok operand after => .ok (operand.stretch state.current none) after
      | .error error after => .error error after := by
  have peeked := peek_apply state
  have accepted := accept_apply "+" state
  rw [if_pos written] at accepted
  simp only [unary, bind, EStateM.bind, peeked, accepted, if_true]
  cases primary state.advance <;> rfl

theorem unary_minus (primary : ParseM Tree) (state : ParseState)
    (written : state.current.isSymbol "-" = true) :
    unary primary state =
      match primary state.advance with
      | .ok operand after => .ok (Tree.combine .sub (.num 0 (some state.current.span)) operand) after
      | .error error after => .error error after := by
  have noPlus : state.current.isSymbol "+" = false := by simp [state.current.symbol_unique _ _ written]
  have peeked := peek_apply state
  have refused := accept_apply "+" state
  have accepted := accept_apply "-" state
  rw [if_pos written] at accepted
  rw [noPlus] at refused
  simp only [unary, bind, EStateM.bind, peeked, refused, accepted, Bool.false_eq_true, if_false, if_true]
  cases primary state.advance <;> rfl

theorem unary_plain (primary : ParseM Tree) (state : ParseState)
    (unsigned : state.current.isSymbol "+" = false ∧ state.current.isSymbol "-" = false) :
    unary primary state = primary state := by
  have peeked := peek_apply state
  have noPlus := accept_apply "+" state
  have noMinus := accept_apply "-" state
  rw [unsigned.1] at noPlus
  rw [unsigned.2] at noMinus
  simp only [unary, bind, EStateM.bind, peeked, noPlus, noMinus, Bool.false_eq_true, if_false]

theorem primary_number (limit : Int) (room : Nat) (state : ParseState)
    (plain : state.current.isSymbol "(" = false) :
    primary limit room state =
      if numeral : state.current.isNumber = true then
        .ok (.num (state.current.integer numeral) (some state.current.span)) state.advance
      else .error (.missingNumber state.current) state := by
  have peeked := peek_apply state
  have refused := accept_apply "(" state
  have read := number_apply state
  rw [plain] at refused
  have either (inner : Option (ParseM Tree)) : primaryWith limit inner state =
      if numeral : state.current.isNumber = true then
        .ok (.num (state.current.integer numeral) (some state.current.span)) state.advance
      else .error (.missingNumber state.current) state := by
    simp only [primaryWith, bind, EStateM.bind, peeked, refused, Bool.false_eq_true, if_false, read]
    by_cases numeral : state.current.isNumber = true
    · rw [dif_pos numeral, dif_pos numeral]
      rfl
    · rw [dif_neg numeral, dif_neg numeral]
  cases room with
  | zero => exact either none
  | succ room => exact either _

theorem primary_full (limit : Int) (state : ParseState) (opens : state.current.isSymbol "(" = true) :
    primary limit 0 state = .error (.tooDeep state.current limit) state.advance := by
  have peeked := peek_apply state
  have accepted := accept_apply "(" state
  rw [if_pos opens] at accepted
  simp only [primary, primaryWith, bind, EStateM.bind, peeked, accepted, if_true]
  rfl

theorem primary_group (limit : Int) (room : Nat) (state : ParseState)
    (opens : state.current.isSymbol "(" = true) :
    primary limit (room + 1) state =
      match equality (primary limit room) state.advance.openParenthesis with
      | .error error after => .error error after
      | .ok tree after =>
          if after.current.isSymbol ")" then
            .ok (tree.stretch state.current (some after.current)) after.advance.closeParenthesis
          else .error (.missingSymbol ")" after.current) after := by
  have peeked := peek_apply state
  have accepted := accept_apply "(" state
  rw [if_pos opens] at accepted
  simp only [primary, primaryWith, bind, EStateM.bind, peeked, accepted, if_true, modify_apply]
  cases equality (primary limit room) state.advance.openParenthesis with
  | error error after => rfl
  | ok tree after =>
      have required := require_apply ")" after
      simp only [required]
      by_cases closes : after.current.isSymbol ")"
      · simp only [closes, if_true]
        rfl
      · simp only [closes, if_false, Bool.false_eq_true]

end ParseM

-- The last token, and maybe others, is the mark at the end of the input.
def Terminated (tokens : List Token) : Prop :=
  ∃ front last, tokens = front ++ [last] ∧ last.isEnd = true

theorem terminated_append (front tokens : List Token) (filled : tokens ≠ [])
    (terminated : Terminated (front ++ tokens)) : Terminated tokens := by
  obtain ⟨before, last, split, final⟩ := terminated
  obtain ⟨middle, other, rfl⟩ : ∃ middle other, tokens = middle ++ [other] :=
    ⟨tokens.dropLast, tokens.getLast filled, (List.dropLast_concat_getLast filled).symm⟩
  rw [← List.append_assoc] at split
  obtain ⟨_, same⟩ := List.append_inj' split rfl
  cases same
  exact ⟨middle, last, rfl, final⟩

namespace ParseState

def remaining (state : ParseState) : List Token :=
  state.current :: state.ahead

structure Passed (before : ParseState) (tokens : List Token) (after : ParseState) : Prop where
  split : before.remaining = tokens ++ after.remaining
  position : after.position = before.position + tokens.length

theorem passed_nothing (state : ParseState) : state.Passed [] state :=
  ⟨rfl, rfl⟩

theorem passed_append (before middle after : ParseState) (first second : List Token)
    (start : before.Passed first middle) (rest : middle.Passed second after) :
    before.Passed (first ++ second) after := by
  constructor
  · rw [start.split, rest.split, List.append_assoc]
  · rw [rest.position, start.position, List.length_append, Nat.add_assoc]

theorem passed_terminated (before after : ParseState) (tokens : List Token)
    (passed : before.Passed tokens after) (terminated : Terminated before.remaining) :
    Terminated after.remaining := by
  rw [passed.split] at terminated
  exact terminated_append tokens _ (by simp [remaining]) terminated

theorem advance_depth (state : ParseState) : state.advance.depth = state.depth := by
  unfold advance
  split <;> rfl

theorem advance_cons (state : ParseState) (next : Token) (later : List Token)
    (filled : state.ahead = next :: later) :
    state.advance = ⟨state.position + 1, next, later, state.depth⟩ := by
  rw [advance, filled]

theorem ahead_filled (state : ParseState) (terminated : Terminated state.remaining)
    (inside : state.current.isEnd = false) : ∃ next later, state.ahead = next :: later := by
  cases filled : state.ahead with
  | cons next later => exact ⟨next, later, rfl⟩
  | nil =>
      obtain ⟨front, last, split, final⟩ := terminated
      rw [remaining, filled, ← List.nil_append [state.current]] at split
      obtain ⟨_, same⟩ := List.append_inj' split rfl
      cases same
      rw [inside] at final
      cases final

theorem advance_passed (state : ParseState) (terminated : Terminated state.remaining)
    (inside : state.current.isEnd = false) : state.Passed [state.current] state.advance := by
  obtain ⟨next, later, filled⟩ := state.ahead_filled terminated inside
  rw [state.advance_cons next later filled]
  exact ⟨by simp [remaining, filled], rfl⟩

theorem passed_shorter (before after : ParseState) (tokens : List Token)
    (passed : before.Passed tokens after) :
    before.ahead.length = tokens.length + after.ahead.length := by
  have lengths := congrArg List.length passed.split
  simp only [remaining, List.length_append, List.length_cons] at lengths
  omega

end ParseState

theorem Token.symbol_inside (token : Token) (symbol : String) (written : token.isSymbol symbol = true) :
    token.isEnd = false := by
  cases last : token.isEnd with
  | false => rfl
  | true => rw [token.end_no_symbol _ last] at written; cases written

theorem Token.number_inside (token : Token) (numeral : token.isNumber = true) : token.isEnd = false := by
  cases last : token.isEnd with
  | false => rfl
  | true => rw [token.end_no_number last] at numeral; cases numeral

end ExprCompiler
