import ExprCompiler.Proofs.Phrase
import Mathlib.Algebra.Ring.Int.Defs

set_option autoImplicit false

namespace ExprCompiler

namespace Token

def weight (token : Token) : Int :=
  if token.isSymbol "(" then 1 else if token.isSymbol ")" then -1 else 0

theorem weight_plain (token : Token) (plain : token.isSymbol "(" = false ∧ token.isSymbol ")" = false) :
    token.weight = 0 := by
  simp [weight, plain]

theorem weight_sum (tokens : List Token) :
    (tokens.map weight).sum =
      (tokens.countP fun token => token.isSymbol "(") - (tokens.countP fun token => token.isSymbol ")") := by
  induction tokens with
  | nil => rfl
  | cons token later ih =>
      rw [List.map_cons, List.sum_cons, ih, weight, List.countP_cons, List.countP_cons]
      by_cases opens : token.isSymbol "(" = true
      · have plain : token.isSymbol ")" = false := by simp [token.symbol_unique _ _ opens]
        simp only [opens, plain, if_true, Bool.false_eq_true, if_false]
        omega
      · by_cases closes : token.isSymbol ")" = true
        · simp only [opens, closes, if_true, Bool.false_eq_true, if_false]
          omega
        · simp only [opens, closes, Bool.false_eq_true, if_false]
          omega

def endsOperand (token : Token) : Bool :=
  token.isNumber || token.isSymbol ")"

end Token

theorem Connective.plain (connective : Connective) (token : Token)
    (written : token.isSymbol connective.symbol = true) :
    token.isSymbol "(" = false ∧ token.isSymbol ")" = false := by
  simp [token.symbol_unique _ _ written, connective.symbol_no_parenthesis]

inductive Expectation where
  | operand
  | unsignedOperand
  | continuation
deriving DecidableEq, Repr

structure Progress where
  expects : Expectation
  depth : Nat
deriving DecidableEq, Repr

namespace Progress

def beginOperand (limit : Int) (depth : Nat) (token : Token) : Option Progress :=
  if token.isNumber then some ⟨.continuation, depth⟩
  else if token.isSymbol "(" && depth < limit then some ⟨.operand, depth + 1⟩
  else none

def step (limit : Int) (progress : Progress) (token : Token) : Option Progress :=
  match progress.expects with
  | .operand =>
      if token.isSymbol "+" || token.isSymbol "-" then some ⟨.unsignedOperand, progress.depth⟩
      else beginOperand limit progress.depth token
  | .unsignedOperand => beginOperand limit progress.depth token
  | .continuation =>
      if token.isConnective then some ⟨.operand, progress.depth⟩
      else if token.isSymbol ")" && 0 < progress.depth then some ⟨.continuation, progress.depth - 1⟩
      else none

def walk (limit : Int) : Progress → List Token → Option Progress
  | progress, [] => some progress
  | progress, token :: later => (progress.step limit token).bind fun next => walk limit next later

def complaint (limit : Int) (progress : Progress) (token : Token) : SyntaxError :=
  match progress.expects with
  | .operand | .unsignedOperand =>
      if token.isSymbol "(" then .tooDeep token limit else .missingNumber token
  | .continuation => if 0 < progress.depth then .missingSymbol ")" token else .trailingToken token

theorem complaint_token (limit : Int) (progress : Progress) (token : Token) :
    (progress.complaint limit token).token = token := by
  obtain ⟨expects, depth⟩ := progress
  cases expects <;> simp only [complaint] <;> split <;> rfl

theorem walk_append (limit : Int) (progress : Progress) (first second : List Token) :
    progress.walk limit (first ++ second) =
      (progress.walk limit first).bind fun next => next.walk limit second := by
  induction first generalizing progress with
  | nil => rfl
  | cons token later ih =>
      rw [List.cons_append, walk, walk]
      cases progress.step limit token with
      | none => rfl
      | some next => exact ih next

theorem walk_after (limit : Int) (progress middle : Progress) (first second : List Token)
    (walked : progress.walk limit first = some middle) :
    progress.walk limit (first ++ second) = middle.walk limit second := by
  rw [walk_append, walked]
  rfl

theorem walk_step (limit : Int) (progress next : Progress) (token : Token) (later : List Token)
    (stepped : progress.step limit token = some next) :
    progress.walk limit (token :: later) = next.walk limit later := by
  rw [walk, stepped]
  rfl

theorem step_connective (limit : Int) (depth : Nat) (connective : Connective) (token : Token)
    (written : token.isSymbol connective.symbol = true) :
    step limit ⟨.continuation, depth⟩ token = some ⟨.operand, depth⟩ := by
  have joins : token.isConnective = true := token.isConnective_iff.mpr ⟨connective, written⟩
  rw [step, if_pos joins]

theorem step_closing (limit : Int) (depth : Nat) (token : Token) (closes : token.isSymbol ")" = true) :
    step limit ⟨.continuation, depth + 1⟩ token = some ⟨.continuation, depth⟩ := by
  have plain : token.isConnective = false := by
    rw [← Bool.not_eq_true, token.isConnective_iff]
    rintro ⟨connective, written⟩
    rw [token.symbol_unique _ _ closes, decide_eq_true_iff] at written
    exact connective.symbol_no_parenthesis.2 written.symm
  simp [step, plain, closes]

theorem step_sign (limit : Int) (depth : Nat) (token : Token)
    (sign : token.isSymbol "+" = true ∨ token.isSymbol "-" = true) :
    step limit ⟨.operand, depth⟩ token = some ⟨.unsignedOperand, depth⟩ := by
  simp [step, sign]

end Progress

def Layer.start (layer : Layer) : Expectation :=
  if layer = .primary then .unsignedOperand else .operand

namespace Progress

theorem step_start (limit : Int) (layer : Layer) (depth : Nat) (token : Token)
    (unsigned : token.isSymbol "+" = false ∧ token.isSymbol "-" = false) :
    step limit ⟨layer.start, depth⟩ token = beginOperand limit depth token := by
  unfold Layer.start
  split <;> simp [step, unsigned]

theorem step_number (limit : Int) (layer : Layer) (depth : Nat) (token : Token)
    (numeral : token.isNumber = true) :
    step limit ⟨layer.start, depth⟩ token = some ⟨.continuation, depth⟩ := by
  rw [step_start limit layer depth token ⟨token.number_no_symbol _ numeral, token.number_no_symbol _ numeral⟩,
    beginOperand, if_pos numeral]

theorem step_opening (limit : Int) (layer : Layer) (depth : Nat) (token : Token)
    (opens : token.isSymbol "(" = true) (room : (depth : Int) < limit) :
    step limit ⟨layer.start, depth⟩ token = some ⟨.operand, depth + 1⟩ := by
  have unsigned : token.isSymbol "+" = false ∧ token.isSymbol "-" = false := by
    simp [token.symbol_unique _ _ opens]
  have reserved : token.isNumber = false := by
    cases numeral : token.isNumber with
    | false => rfl
    | true => rw [token.number_no_symbol _ numeral] at opens; cases opens
  rw [step_start limit layer depth token unsigned]
  simp [beginOperand, reserved, opens, room]

-- Only a sign tells the two expectations of an operand apart.
theorem walk_start (limit : Int) (layer : Layer) (depth : Nat) (token : Token) (later : List Token)
    (unsigned : token.isSymbol "+" = false ∧ token.isSymbol "-" = false) :
    walk limit ⟨layer.start, depth⟩ (token :: later) =
      walk limit ⟨.unsignedOperand, depth⟩ (token :: later) := by
  rw [walk, walk, step_start limit layer depth token unsigned]
  rfl

theorem begin_operand_effect (limit : Int) (depth : Nat) (after : Progress) (token : Token)
    (begun : beginOperand limit depth token = some after) :
    (after.expects = .continuation ↔ token.endsOperand = true) ∧ (after.depth : Int) = depth + token.weight := by
  unfold beginOperand at begun
  by_cases numeral : token.isNumber = true
  · rw [if_pos numeral] at begun
    cases begun
    have plain := And.intro (token.number_no_symbol "(" numeral) (token.number_no_symbol ")" numeral)
    simp [Token.endsOperand, numeral, token.weight_plain plain]
  · rw [if_neg numeral] at begun
    split at begun
    · rename_i opening
      cases begun
      simp only [Bool.and_eq_true, decide_eq_true_eq] at opening
      simp [Token.endsOperand, numeral, Token.weight, opening.1, token.symbol_unique _ _ opening.1]
    · cases begun

theorem step_effect (limit : Int) (before after : Progress) (token : Token)
    (stepped : before.step limit token = some after) :
    (after.expects = .continuation ↔ token.endsOperand = true) ∧
      (after.depth : Int) = before.depth + token.weight := by
  obtain ⟨expects, depth⟩ := before
  have joining (connective : Connective) (written : token.isSymbol connective.symbol = true) :
      token.endsOperand = false ∧ token.weight = 0 := by
    have plain := connective.plain token written
    have reserved : token.isNumber = false := by
      cases numeral : token.isNumber with
      | false => rfl
      | true => rw [token.number_no_symbol _ numeral] at written; cases written
    exact ⟨by simp [Token.endsOperand, reserved, plain], token.weight_plain plain⟩
  cases expects with
  | unsignedOperand => exact begin_operand_effect limit depth after token stepped
  | operand =>
      by_cases sign : (token.isSymbol "+" || token.isSymbol "-") = true
      · simp only [step, sign, if_true] at stepped
        cases stepped
        have effect : token.endsOperand = false ∧ token.weight = 0 := by
          rw [Bool.or_eq_true] at sign
          rcases sign with plus | minus
          · exact joining .plus plus
          · exact joining .minus minus
        simp [effect]
      · simp only [step, sign, Bool.false_eq_true, if_false] at stepped
        exact begin_operand_effect limit depth after token stepped
  | continuation =>
      by_cases joins : token.isConnective = true
      · simp only [step, joins, if_true] at stepped
        cases stepped
        obtain ⟨connective, written⟩ := token.isConnective_iff.mp joins
        simp [joining connective written]
      · simp only [step, joins, Bool.false_eq_true, if_false] at stepped
        split at stepped
        · rename_i closing
          cases stepped
          simp only [Bool.and_eq_true, decide_eq_true_eq] at closing
          have notOpening : token.isSymbol "(" = false := by simp [token.symbol_unique _ _ closing.1]
          refine ⟨by simp [Token.endsOperand, closing.1], ?_⟩
          simp only [Token.weight, notOpening, closing.1, if_true, Bool.false_eq_true, if_false]
          omega
        · cases stepped

theorem step_end (limit : Int) (progress : Progress) (token : Token) (last : token.isEnd = true) :
    progress.step limit token = none := by
  obtain ⟨expects, depth⟩ := progress
  have plain : token.isConnective = false := by simp [Token.isConnective, token.end_no_symbol _ last]
  cases expects <;>
    simp [step, beginOperand, token.end_no_symbol _ last, token.end_no_number last, plain]

theorem walk_inside (limit : Int) (before after : Progress) (tokens : List Token)
    (walked : before.walk limit tokens = some after) (token : Token) (member : token ∈ tokens) :
    token.isEnd = false := by
  induction tokens generalizing before with
  | nil => cases member
  | cons first later ih =>
      rw [walk] at walked
      obtain ⟨next, stepped, rest⟩ := Option.bind_eq_some_iff.mp walked
      rcases List.mem_cons.mp member with rfl | inside
      · cases last : token.isEnd with
        | false => rfl
        | true =>
            rw [step_end limit before token last] at stepped
            cases stepped
      · exact ih next rest inside

theorem walk_depth (limit : Int) (before after : Progress) (tokens : List Token)
    (walked : before.walk limit tokens = some after) :
    (after.depth : Int) = before.depth + (tokens.map Token.weight).sum := by
  induction tokens generalizing before with
  | nil =>
      cases walked
      simp
  | cons token later ih =>
      rw [walk] at walked
      obtain ⟨next, stepped, rest⟩ := Option.bind_eq_some_iff.mp walked
      have effect := (step_effect limit before next token stepped).2
      rw [ih next rest, effect, List.map_cons, List.sum_cons, Int.add_assoc]

theorem step_bounded (limit : Int) (before after : Progress) (token : Token)
    (stepped : before.step limit token = some after) (bounded : (before.depth : Int) ≤ max limit 0) :
    (after.depth : Int) ≤ max limit 0 := by
  obtain ⟨expects, depth⟩ := before
  have begun (start : beginOperand limit depth token = some after) : (after.depth : Int) ≤ max limit 0 := by
    unfold beginOperand at start
    split at start
    · cases start
      exact bounded
    · split at start
      · rename_i opening
        cases start
        simp only [Bool.and_eq_true, decide_eq_true_eq] at opening
        dsimp only
        omega
      · cases start
  cases expects with
  | unsignedOperand => exact begun stepped
  | operand =>
      simp only [step] at stepped
      split at stepped
      · cases stepped
        exact bounded
      · exact begun stepped
  | continuation =>
      simp only [step] at stepped
      split at stepped
      · cases stepped
        exact bounded
      · split at stepped
        · cases stepped
          dsimp only at bounded ⊢
          omega
        · cases stepped

theorem walk_bounded (limit : Int) (before after : Progress) (tokens : List Token)
    (walked : before.walk limit tokens = some after) (bounded : (before.depth : Int) ≤ max limit 0) :
    (after.depth : Int) ≤ max limit 0 := by
  induction tokens generalizing before with
  | nil =>
      cases walked
      exact bounded
  | cons token later ih =>
      rw [walk] at walked
      obtain ⟨next, stepped, rest⟩ := Option.bind_eq_some_iff.mp walked
      exact ih next rest (step_bounded limit before next token stepped bounded)

theorem walk_expects (limit : Int) (before after : Progress) (front : List Token) (last : Token)
    (walked : before.walk limit (front ++ [last]) = some after) :
    after.expects = .continuation ↔ last.endsOperand = true := by
  rw [walk_append] at walked
  obtain ⟨middle, _, final⟩ := Option.bind_eq_some_iff.mp walked
  rw [walk] at final
  obtain ⟨next, stepped, rest⟩ := Option.bind_eq_some_iff.mp final
  cases rest
  exact (step_effect limit middle after last stepped).1

end Progress

theorem Layer.start_compound (layer : Layer) (compound : layer ≠ .primary) : layer.start = .operand := by
  simp [Layer.start, compound]

-- Reading a phrase, within its limit, comes back to the depth where it started.
theorem Phrase.walked {layer : Layer} (phrase : Phrase layer) (limit : Int) (depth : Nat)
    (fits : phrase.nesting ≤ (limit - depth).toNat) :
    Progress.walk limit ⟨layer.start, depth⟩ phrase.tokens = some ⟨.continuation, depth⟩ := by
  induction phrase generalizing depth with
  | number token numeral =>
      exact Progress.walk_step _ _ _ _ _ (Progress.step_number limit .primary depth token numeral)
  | group opening closing opens closes inner ih =>
      rw [nesting] at fits
      have room : (depth : Int) < limit := by omega
      rw [tokens, Progress.walk_step _ _ _ _ _ (Progress.step_opening limit .primary depth opening opens room)]
      have inside := ih (depth + 1) (by omega)
      rw [Layer.start_compound .expression (by decide)] at inside
      rw [Progress.walk_after _ _ _ _ _ inside]
      exact Progress.walk_step _ _ _ _ _ (Progress.step_closing limit depth closing closes)
  | positive sign written operand ih =>
      rw [tokens, Layer.start_compound .unary (by decide),
        Progress.walk_step _ _ _ _ _ (Progress.step_sign limit depth sign (.inl written))]
      exact ih depth fits
  | negative sign written operand ih =>
      rw [tokens, Layer.start_compound .unary (by decide),
        Progress.walk_step _ _ _ _ _ (Progress.step_sign limit depth sign (.inr written))]
      exact ih depth fits
  | @single layer compound part ih =>
      have walked := ih depth fits
      by_cases signable : layer = .unary
      · subst signable
        obtain ⟨first, rest, split, unsigned⟩ :
            ∃ first rest, part.tokens = first :: rest ∧ first.isSymbol "+" = false ∧
              first.isSymbol "-" = false := primary_first part
        rw [tokens, split, Progress.walk_start limit .unary depth first rest unsigned, ← split]
        exact walked
      · have loose := layer.tighter_compound compound signable
        rw [Layer.start_compound _ compound, ← Layer.start_compound _ loose]
        exact walked
  | @joined layer connective inLayer symbol written left right ihLeft ihRight =>
      rw [nesting] at fits
      have loose : layer.tighter ≠ .primary := by
        rw [← inLayer]
        cases connective <;> decide
      have leftWalked := ihLeft depth (by omega)
      have rightWalked := ihRight depth (by omega)
      rw [Layer.start_compound _ loose] at rightWalked
      rw [tokens, Progress.walk_after _ _ _ _ _ leftWalked,
        Progress.walk_step _ _ _ _ _ (Progress.step_connective limit depth connective symbol written)]
      exact rightWalked

end ExprCompiler
