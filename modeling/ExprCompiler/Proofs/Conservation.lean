import ExprCompiler.Proofs.ParseList
import ExprCompiler.Proofs.Printable

set_option autoImplicit false

namespace ExprCompiler

def Expr.uses (op : Operator) : Expr → Nat
  | .num _ => 0
  | .binary other left right => left.uses op + right.uses op + if other = op then 1 else 0

def Operator.spellings : Operator → List String
  | .lessThan => ["<", ">"]
  | .lessOrEqual => ["<=", ">="]
  | op => [op.symbol]

namespace Tree

theorem literals_expr (tree : Tree) : tree.postOrder.filterMap Tree.value? = tree.expr.literals := by
  induction tree with
  | num value span => simp [postOrder_num, value?, expr, Expr.literals]
  | binary op left right span ihLeft ihRight =>
      simp [postOrder_binary, ihLeft, ihRight, value?, expr, Expr.literals]

theorem uses_expr (tree : Tree) (op : Operator) :
    (tree.postOrder.countP fun node => node.kind == .binary op) = tree.expr.uses op := by
  induction tree with
  | num value span => simp [postOrder_num, kind, expr, Expr.uses]
  | binary other left right span ihLeft ihRight =>
      rw [postOrder_binary, List.countP_append, List.countP_append, ihLeft, ihRight, expr, Expr.uses,
        List.countP_singleton]
      simp [kind]

end Tree

namespace Token

def spells (op : Operator) (token : Token) : Bool :=
  op.spellings.any token.isSymbol

variable {token : Token}

theorem spells_symbol (op : Operator) (symbol : String) (written : token.isSymbol symbol = true) :
    token.spells op = decide (symbol ∈ op.spellings) := by
  rw [Bool.eq_iff_iff, spells, List.any_eq_true, decide_eq_true_iff]
  simp only [token.symbol_unique _ _ written, decide_eq_true_iff, exists_eq_right']

theorem spells_number (op : Operator) (numeral : token.isNumber = true) : token.spells op = false := by
  simp [spells, token.number_no_symbol _ numeral]

theorem count_spelled_once (op : Operator) (symbol : String) (only : op.spellings = [symbol]) (tokens : List Token) :
    tokens.countP (spells op) = tokens.countP fun token => token.isSymbol symbol := by
  apply List.countP_congr
  intro token _
  simp [spells, only]

theorem count_spelled_twice (op : Operator) (one other : String) (both : op.spellings = [one, other])
    (apart : one ≠ other) (tokens : List Token) :
    tokens.countP (spells op) =
      (tokens.countP fun token => token.isSymbol one) + tokens.countP fun token => token.isSymbol other := by
  induction tokens with
  | nil => rfl
  | cons token later ih =>
      have either : token.spells op = (token.isSymbol one || token.isSymbol other) := by simp [spells, both]
      simp only [List.countP_cons, ih, either]
      by_cases first : token.isSymbol one = true
      · have second : token.isSymbol other = false := by simp [token.symbol_unique _ _ first, apart]
        simp only [first, second, Bool.or_false, if_true, Bool.false_eq_true, if_false]
        omega
      · simp only [first, Bool.false_or, Bool.false_eq_true, if_false]
        omega

theorem symbol_no_number (symbol : String) (written : token.isSymbol symbol = true) : token.isNumber = false := by
  cases numeral : token.isNumber with
  | false => rfl
  | true =>
      rw [token.number_no_symbol _ numeral] at written
      cases written

theorem symbol_no_numeral (symbol : String) (written : token.isSymbol symbol = true) : token.numeral? = none := by
  simp [numeral?, symbol_no_number symbol written]

end Token

theorem Connective.spells_rule (connective : Connective) (op : Operator) (token : Token)
    (written : token.isSymbol connective.symbol = true) :
    token.spells op = true ↔ connective.rule.op = op := by
  rw [Token.spells_symbol op _ written, decide_eq_true_iff]
  cases connective <;> cases op <;> decide

theorem Connective.join_uses (connective : Connective) (op : Operator) (left right : Expr) :
    (connective.join left right).uses op =
      left.uses op + right.uses op + if connective.rule.op = op then 1 else 0 := by
  rcases connective.join_either left right with inOrder | reversed
  · rw [inOrder, Expr.uses]
  · rw [reversed, Expr.uses, Nat.add_comm (right.uses op)]

theorem Connective.join_literals (connective : Connective) (left right : Expr) :
    (connective.join left right).literals.Perm (left.literals ++ right.literals) := by
  rcases connective.join_either left right with inOrder | reversed
  · rw [inOrder, Expr.literals]
  · rw [reversed, Expr.literals]
    exact List.perm_append_comm

theorem Connective.not_ends (connective : Connective) (token : Token)
    (written : token.isSymbol connective.symbol = true) : token.endsOperand = false := by
  simp [Token.endsOperand, Token.symbol_no_number _ written, connective.plain token written]

-- How often the symbol stands where no operand has ended: at the start, or behind a token that is
-- neither a number nor a closing parenthesis. `ended` tells this of the token in front.
def unarySigns (symbol : String) : (ended : Bool) → List Token → Nat
  | _, [] => 0
  | ended, token :: later =>
      (if token.isSymbol symbol && !ended then 1 else 0) + unarySigns symbol token.endsOperand later

namespace Phrase

variable {layer : Layer}

def signs (symbol : String) : {layer : Layer} → Phrase layer → Nat
  | _, .number _ _ => 0
  | _, .group _ _ _ _ inner => inner.signs symbol
  | _, .positive sign _ operand => (if sign.isSymbol symbol then 1 else 0) + operand.signs symbol
  | _, .negative sign _ operand => (if sign.isSymbol symbol then 1 else 0) + operand.signs symbol
  | _, .single _ part => part.signs symbol
  | _, .joined _ _ _ _ left right => left.signs symbol + right.signs symbol

theorem unary_signs (phrase : Phrase layer) (symbol : String) (plain : symbol ≠ "(") (later : List Token) :
    unarySigns symbol false (phrase.tokens ++ later) = phrase.signs symbol + unarySigns symbol true later := by
  induction phrase generalizing later with
  | number token numeral =>
      simp [tokens, signs, unarySigns, token.number_no_symbol _ numeral, Token.endsOperand, numeral]
  | group opening closing opens closes inner ih =>
      have noSign : opening.isSymbol symbol = false := by
        rw [opening.symbol_unique _ _ opens, decide_eq_false_iff_not]
        exact plain.symm
      have opened : opening.endsOperand = false := by
        simp [Token.endsOperand, Token.symbol_no_number _ opens, opening.symbol_unique _ _ opens]
      have closed : closing.endsOperand = true := by simp [Token.endsOperand, closes]
      simp [tokens, signs, unarySigns, noSign, opened, ih, closed]
  | positive sign written operand ih =>
      simp [tokens, signs, unarySigns, Connective.not_ends .plus sign written, ih, Nat.add_assoc]
  | negative sign written operand ih =>
      simp [tokens, signs, unarySigns, Connective.not_ends .minus sign written, ih, Nat.add_assoc]
  | single compound part ih => exact ih later
  | joined connective inLayer symbol written left right ihLeft ihRight =>
      simp [tokens, signs, unarySigns, ihLeft, connective.not_ends symbol written, ihRight, Nat.add_assoc]

theorem unary_signs_whole (phrase : Phrase layer) (symbol : String) (plain : symbol ≠ "(") :
    unarySigns symbol false phrase.tokens = phrase.signs symbol := by
  simpa [unarySigns] using phrase.unary_signs symbol plain []

theorem uses_conserved (phrase : Phrase layer) (op : Operator) :
    phrase.expr.uses op + (if op = .add then phrase.signs "+" else 0) = phrase.tokens.countP (Token.spells op) := by
  induction phrase with
  | number token numeral => simp [expr, Expr.uses, signs, tokens, Token.spells_number op numeral]
  | group opening closing opens closes inner ih =>
      have noOpening : opening.spells op = false := by
        rw [Token.spells_symbol op _ opens]
        cases op <;> rfl
      have noClosing : closing.spells op = false := by
        rw [Token.spells_symbol op _ closes]
        cases op <;> rfl
      simp [expr, signs, tokens, noOpening, noClosing, ← ih]
  | positive sign written operand ih =>
      have spelled := Connective.spells_rule .plus op sign written
      rw [tokens, List.countP_cons, ← ih, expr, signs, if_pos written]
      by_cases add : op = .add
      · rw [if_pos add, if_pos add, if_pos (spelled.mpr add.symm)]
        omega
      · rw [if_neg add, if_neg add, if_neg fun also => add (spelled.mp also).symm]
  | negative sign written operand ih =>
      have spelled := Connective.spells_rule .minus op sign written
      have noPlus : sign.isSymbol "+" = false := by simp [sign.symbol_unique _ _ written]
      rw [tokens, List.countP_cons, ← ih, expr, Expr.uses, signs, noPlus]
      by_cases sub : op = .sub
      · subst sub
        simp [spelled, Connective.rule, Expr.uses]
      · have other : ¬ sign.spells op = true := fun also => sub (spelled.mp also).symm
        simp [other, Ne.symm sub, Expr.uses]
  | single compound part ih => exact ih
  | joined connective inLayer symbol written left right ihLeft ihRight =>
      have spelled := connective.spells_rule op symbol written
      rw [tokens, List.countP_append, List.countP_cons, ← ihLeft, ← ihRight, expr, connective.join_uses, signs]
      have signed : (if op = .add then left.signs "+" + right.signs "+" else 0) =
          (if op = .add then left.signs "+" else 0) + if op = .add then right.signs "+" else 0 := by
        split <;> rfl
      by_cases same : connective.rule.op = op
      · rw [if_pos same, if_pos (spelled.mpr same), signed]
        omega
      · rw [if_neg same, if_neg fun also => same (spelled.mp also), signed]
        omega

-- A minus sign subtracts its operand from a zero that no token stands for.
theorem literals_conserved (phrase : Phrase layer) :
    phrase.expr.literals.Perm (phrase.tokens.filterMap Token.numeral? ++ List.replicate (phrase.signs "-") 0) := by
  induction phrase with
  | number token numeral => simp [expr, Expr.literals, tokens, token.numeral_integer numeral, signs]
  | group opening closing opens closes inner ih =>
      simpa [expr, tokens, Token.symbol_no_numeral _ opens, Token.symbol_no_numeral _ closes, signs] using ih
  | positive sign written operand ih =>
      have noMinus : sign.isSymbol "-" = false := by simp [sign.symbol_unique _ _ written]
      simpa [expr, tokens, Token.symbol_no_numeral _ written, signs, noMinus] using ih
  | negative sign written operand ih =>
      simp only [expr, Expr.literals, tokens, List.filterMap_cons, Token.symbol_no_numeral _ written, signs, written,
        if_true, Nat.add_comm 1, List.replicate_succ, List.singleton_append]
      exact (ih.cons 0).trans List.perm_middle.symm
  | single compound part ih => exact ih
  | joined connective inLayer symbol written left right ihLeft ihRight =>
      rw [List.perm_iff_count] at ihLeft ihRight ⊢
      intro value
      have joined := (connective.join_literals left.expr right.expr).count_eq value
      have first := ihLeft value
      have second := ihRight value
      simp only [List.count_append] at joined first second
      simp only [expr, joined, first, second, tokens, List.filterMap_append, List.filterMap_cons,
        Token.symbol_no_numeral _ written, signs, ← List.replicate_append_replicate, List.count_append]
      omega

theorem balanced (phrase : Phrase .expression) (limit : Int) (fits : phrase.nesting ≤ limit.toNat) :
    (phrase.tokens.countP fun token => token.isSymbol "(") = phrase.tokens.countP fun token => token.isSymbol ")" := by
  have walked := phrase.walked limit 0 (by simpa using fits)
  have depth := Progress.walk_depth limit _ _ _ walked
  rw [Token.weight_sum] at depth
  simp only at depth
  omega

end Phrase

-- The tree uses up the tokens that it was read from. Signs are told from operators by the token in
-- front of them: a plus sign leaves no node, and a minus sign makes one more zero.
theorem parse_conserves (tokens : List Token) (terminated : Terminated tokens) (limit : Int) (tree : Tree)
    (after : ParseState) (parsed : Tree.parseStart tokens limit = .ok (tree, after)) :
    let read := tokens.take after.position
    let written (symbol : String) := read.countP fun token => token.isSymbol symbol
    let nodes (op : Operator) := tree.postOrder.countP fun node => node.kind == .binary op
    (tree.postOrder.filterMap Tree.value?).Perm
        (read.filterMap Token.numeral? ++ List.replicate (unarySigns "-" false read) 0) ∧
      nodes .equal = written "==" ∧ nodes .notEqual = written "!=" ∧
      nodes .lessOrEqual = written "<=" + written ">=" ∧ nodes .lessThan = written "<" + written ">" ∧
      nodes .sub = written "-" ∧ nodes .add + unarySigns "+" false read = written "+" ∧
      nodes .mul = written "*" ∧ nodes .div = written "/" ∧ written "(" = written ")" := by
  intro read written nodes
  obtain ⟨phrase, rfl, fits, split, place, _⟩ := parse_start_found tokens limit tree after terminated parsed
  have front : read = phrase.tokens := by
    show tokens.take after.position = phrase.tokens
    rw [place, split, List.take_left]
  have used (op : Operator) : nodes op + (if op = .add then unarySigns "+" false read else 0) =
      read.countP (Token.spells op) := by
    simp only [nodes]
    rw [Tree.uses_expr, phrase.tree_expr, front, phrase.unary_signs_whole "+" (by decide), phrase.uses_conserved]
  have once (op : Operator) (symbol : String) (only : op.spellings = [symbol]) :
      nodes op + (if op = .add then unarySigns "+" false read else 0) = written symbol :=
    (used op).trans (Token.count_spelled_once op symbol only read)
  have minus := phrase.unary_signs_whole "-" (by decide)
  refine ⟨?_, once .equal "==" rfl, once .notEqual "!=" rfl, ?_, ?_, once .sub "-" rfl, once .add "+" rfl,
    once .mul "*" rfl, once .div "/" rfl, ?_⟩
  · rw [Tree.literals_expr, phrase.tree_expr, front, minus]
    exact phrase.literals_conserved
  · exact (used .lessOrEqual).trans (Token.count_spelled_twice .lessOrEqual "<=" ">=" rfl (by decide) read)
  · exact (used .lessThan).trans (Token.count_spelled_twice .lessThan "<" ">" rfl (by decide) read)
  · simp only [written, front]
    exact phrase.balanced limit fits

theorem signed_difference_conserved :
    let number (offset : Int) := Token.onFirstLine .number "7" (some 7) "" offset
    let symbol (text : String) (offset : Int) := Token.onFirstLine .reserved text none "" offset
    let tokens := [symbol "-" 0, symbol "(" 1, number 2, symbol "-" 3, symbol "+" 4, number 5, symbol ")" 6,
      symbol ">" 7, number 8, symbol ")" 9, .onFirstLine .endOfInput "" none "" 10]
    ∃ tree after, Tree.parseStart tokens 1 = .ok (tree, after) ∧ after.position = 9 ∧
      (tree.postOrder.filterMap Tree.value?).Perm [7, 7, 7, 0] ∧
      (tree.postOrder.countP fun node => node.kind == .binary .sub) = 2 ∧
      (tree.postOrder.countP fun node => node.kind == .binary .add) = 0 := by
  intro number symbol tokens
  have terminated : Terminated tokens := ⟨tokens.take 10, .onFirstLine .endOfInput "" none "" 10, rfl, rfl⟩
  obtain ⟨values, _, _, _, _, sub, add, _⟩ := parse_conserves tokens terminated 1 _ _ rfl
  refine ⟨_, _, rfl, rfl, ?_, ?_, ?_⟩
  · exact values
  · exact sub
  · exact Nat.add_right_cancel (m := 1) add

end ExprCompiler
