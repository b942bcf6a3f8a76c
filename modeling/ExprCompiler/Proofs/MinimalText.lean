import ExprCompiler.Proofs.AssemblyText
import ExprCompiler.Proofs.LayoutFree
import Mathlib.Data.List.Infix

set_option autoImplicit false

namespace ExprCompiler

theorem Layer.rank_tighter (layer : Layer) (compound : layer ≠ .primary) : layer.tighter.rank = layer.rank + 1 := by
  revert compound
  cases layer <;> decide

namespace Operator

def level : Operator → Nat
  | .equal | .notEqual => 1
  | .lessThan | .lessOrEqual => 2
  | .add | .sub => 3
  | .mul | .div => 4

def connective : Operator → Connective
  | .equal => .equal
  | .notEqual => .notEqual
  | .lessThan => .less
  | .lessOrEqual => .lessOrEqual
  | .add => .plus
  | .sub => .minus
  | .mul => .times
  | .div => .divide

theorem connective_symbol (op : Operator) : op.connective.symbol = op.symbol := by
  cases op <;> rfl

theorem connective_join (op : Operator) (left right : Expr) :
    op.connective.join left right = .binary op left right := by
  cases op <;> rfl

theorem level_rank (op : Operator) : op.level = op.connective.layer.rank := by
  cases op <;> rfl

theorem symbol_listed (op : Operator) : op.symbol ∈ Lexeme.operators := by
  cases op <;> decide

end Operator

namespace Expr

def level : Expr → Nat
  | .num _ => 5
  | .binary op _ _ => op.level

def enclosed (needed : Bool) (lexemes : List String) : List String :=
  if needed then "(" :: (lexemes ++ [")"]) else lexemes

-- Chains of operators of one level group to the left, so only the right operand must be above it.
def lexemes : Expr → List String
  | .num value => [toString value]
  | .binary op left right =>
      enclosed (left.level < op.level) left.lexemes ++
        op.symbol :: enclosed (right.level ≤ op.level) right.lexemes

def source (expr : Expr) : String :=
  String.join expr.lexemes

def layer : Expr → Layer
  | .num _ => .primary
  | .binary op _ _ => op.connective.layer

theorem level_layer (expr : Expr) : expr.level ≤ expr.layer.rank := by
  cases expr with
  | num value => exact Nat.le_succ 5
  | binary op left right => exact op.level_rank.le

end Expr

theorem literal_numeral (value : Int) (natural : 0 ≤ value) (short : (toString value).length ≤ 4300) :
    Lexeme.IsNumeral (toString value) ∧ (Lexeme.positionalValue (toString value).toList : Int) = value := by
  have text : (toString value).toList = Nat.toDigits 10 value.natAbs := by
    rw [Instr.value_text, if_neg (Int.not_lt.mpr natural)]
  refine ⟨⟨?_, short, ?_⟩, ?_⟩
  · rw [← String.length_toList, text]
    exact Nat.length_toDigits_pos
  · rw [text]
    exact Instr.digits_of value.natAbs
  · have digits : Lexeme.decimalValue (Nat.toDigits 10 value.natAbs) = value.natAbs :=
      Nat.ofDigitChars_ten_toDigits
    rw [← Lexeme.decimal_value_positional, text, digits]
    omega

theorem symbol_token (symbol : String) (listed : symbol ∈ Lexeme.operators) :
    ∃ token : Token, token.ReadAs symbol ∧ token.isSymbol symbol = true :=
  ⟨.onFirstLine .reserved symbol none "" 0, .operator listed rfl rfl rfl, (Token.isSymbol_iff _ _).mpr ⟨rfl, rfl⟩⟩

def Spells (layer : Layer) (lexemes : List String) (expr : Expr) : Prop :=
  ∃ phrase : Phrase layer, List.Forall₂ Token.ReadAs phrase.tokens lexemes ∧ phrase.expr = expr

namespace Spells

variable {layer : Layer} {lexemes : List String} {expr : Expr}

theorem number (value : Int) (natural : 0 ≤ value) (short : (toString value).length ≤ 4300) :
    Spells .primary [toString value] (.num value) := by
  obtain ⟨numeral, same⟩ := literal_numeral value natural short
  refine ⟨.number (.onFirstLine .number (toString value) (some value) "" 0) rfl, .cons ?_ .nil, rfl⟩
  exact .number numeral rfl rfl (congrArg some same.symm)

theorem group (spells : Spells .expression lexemes expr) : Spells .primary ("(" :: (lexemes ++ [")"])) expr := by
  obtain ⟨inner, read, same⟩ := spells
  obtain ⟨opening, readOpening, opens⟩ := symbol_token "(" (by decide)
  obtain ⟨closing, readClosing, closes⟩ := symbol_token ")" (by decide)
  refine ⟨.group opening closing opens closes inner, ?_, same⟩
  exact .cons readOpening (List.rel_append read (.cons readClosing .nil))

theorem loosen (inner outer : Layer) (looser : outer.rank ≤ inner.rank) (spells : Spells inner lexemes expr) :
    Spells outer lexemes expr := by
  induction steps : inner.rank - outer.rank generalizing outer with
  | zero =>
      have same : outer = inner := by
        have rank : outer.rank = inner.rank := by omega
        revert rank
        cases outer <;> cases inner <;> decide
      exact same ▸ spells
  | succ count ih =>
      have compound : outer ≠ .primary := by
        rintro rfl
        cases inner <;> cases steps
      have next := outer.rank_tighter compound
      obtain ⟨part, read, same⟩ := ih outer.tighter (by omega) (by omega)
      exact ⟨.single compound part, read, same⟩

theorem operand (outer : Layer) (needed : Bool) (fits : needed = false → outer.rank ≤ layer.rank)
    (spells : Spells layer lexemes expr) : Spells outer (Expr.enclosed needed lexemes) expr := by
  cases needed with
  | false => exact loosen layer outer (fits rfl) spells
  | true =>
      have inner : Spells .expression lexemes expr := loosen layer .expression (Nat.zero_le _) spells
      have bounded : outer.rank ≤ Layer.primary.rank := by cases outer <;> decide
      exact loosen .primary outer bounded inner.group

theorem joined (op : Operator) (front back : List String) (left right : Expr)
    (spellsLeft : Spells op.connective.layer front left)
    (spellsRight : Spells op.connective.layer.tighter back right) :
    Spells op.connective.layer (front ++ op.symbol :: back) (.binary op left right) := by
  obtain ⟨first, readFirst, rfl⟩ := spellsLeft
  obtain ⟨second, readSecond, rfl⟩ := spellsRight
  obtain ⟨symbol, readSymbol, written⟩ := symbol_token op.symbol op.symbol_listed
  refine ⟨.joined op.connective rfl symbol (op.connective_symbol ▸ written) first second, ?_, op.connective_join _ _⟩
  exact List.rel_append readFirst (.cons readSymbol readSecond)

end Spells

theorem Expr.spells (expr : Expr)
    (literals : ∀ value ∈ expr.literals, 0 ≤ value ∧ (toString value).length ≤ 4300) :
    Spells expr.layer expr.lexemes expr := by
  induction expr with
  | num value =>
      obtain ⟨natural, short⟩ := literals value (by simp [Expr.literals])
      exact .number value natural short
  | binary op left right ihLeft ihRight =>
      have spellsLeft := ihLeft fun value member => literals value (by simp [Expr.literals, member])
      have spellsRight := ihRight fun value member => literals value (by simp [Expr.literals, member])
      have rank := op.level_rank
      apply Spells.joined
      · refine spellsLeft.operand _ _ fun unneeded => ?_
        have above := of_decide_eq_false unneeded
        have leftRank := left.level_layer
        omega
      · refine spellsRight.operand _ _ fun unneeded => ?_
        have above := of_decide_eq_false unneeded
        have rightRank := right.level_layer
        have next := op.connective.layer.rank_tighter (Phrase.connective_not_primary _)
        omega

-- Lexemes that need no gaps between them, nor in front of an operator or behind one.
structure Dense (lexemes : List String) : Prop where
  known : ∀ lexeme ∈ lexemes, Lexeme.IsNumeral lexeme ∨ lexeme ∈ Lexeme.operators
  apart : lexemes.IsChain fun one next => ¬ Lexeme.RunTogether one next
  first : ∃ first, lexemes.head? = some first ∧ (Lexeme.IsNumeral first ∨ first = "(")
  last : ∃ last, lexemes.getLast? = some last ∧ (Lexeme.IsNumeral last ∨ last = ")")

namespace Dense

open Lexeme

theorem operator_apart (operator next : String) (listed : operator ∈ operators)
    (starts : IsNumeral next ∨ next = "(") : ¬ RunTogether operator next := by
  rintro (⟨numeral, _⟩ | ⟨_, rfl⟩)
  · exact numeral_no_operator operator numeral listed
  · rcases starts with numeral | other
    · exact numeral_no_operator "==" numeral (by decide)
    · exact absurd other (by decide)

theorem apart_operator (one operator : String) (listed : operator ∈ operators)
    (ends : IsNumeral one ∨ one = ")") : ¬ RunTogether one operator := by
  rintro (⟨_, numeral⟩ | ⟨comparison, _⟩)
  · exact numeral_no_operator operator numeral listed
  · rcases ends with numeral | rfl
    · refine numeral_no_operator one numeral ?_
      rcases comparison with rfl | rfl <;> decide
    · exact absurd comparison (by decide)

theorem number (lexeme : String) (numeral : IsNumeral lexeme) : Dense [lexeme] where
  known other member := by
    rw [List.mem_singleton.mp member]
    exact .inl numeral
  apart := .singleton lexeme
  first := ⟨lexeme, rfl, .inl numeral⟩
  last := ⟨lexeme, rfl, .inl numeral⟩

variable {lexemes front back : List String}

theorem behind (operator : String) (listed : operator ∈ operators) (dense : Dense lexemes) :
    (operator :: lexemes).IsChain fun one next => ¬ RunTogether one next := by
  obtain ⟨first, starts, known⟩ := dense.first
  refine List.isChain_cons.mpr ⟨?_, dense.apart⟩
  intro next found
  rw [starts] at found
  cases found
  exact operator_apart operator first listed known

theorem chain_append (later : List String) (dense : Dense front) (operator : String) (listed : operator ∈ operators)
    (chain : (operator :: later).IsChain fun one next => ¬ RunTogether one next) :
    (front ++ operator :: later).IsChain fun one next => ¬ RunTogether one next := by
  obtain ⟨last, ends, known⟩ := dense.last
  refine List.isChain_append.mpr ⟨dense.apart, chain, ?_⟩
  intro one found next starts
  rw [ends] at found
  cases found
  cases starts
  exact apart_operator last operator listed known

theorem enclosed (needed : Bool) (dense : Dense lexemes) : Dense (Expr.enclosed needed lexemes) := by
  cases needed with
  | false => exact dense
  | true =>
      obtain ⟨first, starts, known⟩ := dense.first
      refine ⟨?_, ?_, ⟨"(", rfl, .inr rfl⟩, ⟨")", ?_, .inr rfl⟩⟩
      · intro lexeme member
        simp only [Expr.enclosed, if_true, List.mem_cons, List.mem_append, List.not_mem_nil, or_false] at member
        rcases member with rfl | inside | rfl
        · exact .inr (by decide)
        · exact dense.known lexeme inside
        · exact .inr (by decide)
      · have closed := dense.chain_append [] ")" (by decide) (.singleton _)
        refine List.isChain_cons.mpr ⟨?_, closed⟩
        intro next found
        rw [List.head?_append, starts, Option.some_or] at found
        cases found
        exact operator_apart "(" first (by decide) known
      · rw [Expr.enclosed, if_pos rfl, ← List.cons_append, List.getLast?_append]
        rfl

theorem joined (op : Operator) (first : Dense front) (second : Dense back) : Dense (front ++ op.symbol :: back) where
  known lexeme member := by
    rcases List.mem_append.mp member with inFront | behind
    · exact first.known lexeme inFront
    · rcases List.mem_cons.mp behind with rfl | inBack
      · exact .inr op.symbol_listed
      · exact second.known lexeme inBack
  apart := first.chain_append back op.symbol op.symbol_listed (second.behind op.symbol op.symbol_listed)
  first := by
    obtain ⟨lexeme, starts, known⟩ := first.first
    exact ⟨lexeme, by rw [List.head?_append, starts, Option.some_or], known⟩
  last := by
    obtain ⟨lexeme, ends, known⟩ := second.last
    exact ⟨lexeme, by rw [List.getLast?_append, List.getLast?_cons, ends]; rfl, known⟩

end Dense

theorem Expr.dense (expr : Expr)
    (literals : ∀ value ∈ expr.literals, 0 ≤ value ∧ (toString value).length ≤ 4300) : Dense expr.lexemes := by
  induction expr with
  | num value =>
      obtain ⟨natural, short⟩ := literals value (by simp [Expr.literals])
      exact .number _ (literal_numeral value natural short).1
  | binary op left right ihLeft ihRight =>
      apply Dense.joined
      · exact (ihLeft fun value member => literals value (by simp [Expr.literals, member])).enclosed _
      · exact (ihRight fun value member => literals value (by simp [Expr.literals, member])).enclosed _

def NestsWithin (limit : Nat) (text : String) : Prop :=
  ∀ front ∈ text.toList.inits, front.count '(' ≤ front.count ')' + limit

instance (limit : Nat) (text : String) : Decidable (NestsWithin limit text) :=
  inferInstanceAs (Decidable (∀ front ∈ _, _))

theorem count_parenthesis (parenthesis : Char) (symbol : String)
    (kind : (parenthesis, symbol) = ('(', "(") ∨ (parenthesis, symbol) = (')', ")")) (tokens : List Token)
    (lexemes : List String) (read : List.Forall₂ Token.ReadAs tokens lexemes) :
    (lexemes.flatMap String.toList).count parenthesis = tokens.countP fun token => token.isSymbol symbol := by
  have noDigit : Lexeme.isDigit parenthesis = false := by
    rcases kind with same | same <;> cases same <;> decide
  have counted : ∀ operator ∈ Lexeme.operators,
      operator.toList.count parenthesis = if operator = symbol then 1 else 0 := by
    rcases kind with same | same <;> cases same <;> decide
  induction read with
  | nil => rfl
  | @cons token lexeme tokens lexemes first _ ih =>
      rw [List.flatMap_cons, List.count_append, ih, List.countP_cons, Nat.add_comm]
      congr 1
      cases first with
      | number numeral kind same value =>
          rw [token.number_no_symbol symbol (by simp [Token.isNumber, kind]), if_neg Bool.false_ne_true,
            List.count_eq_zero]
          intro member
          rw [numeral.2.2 parenthesis member] at noDigit
          cases noDigit
      | operator listed kind same value =>
          rw [counted lexeme listed]
          simp only [Token.isSymbol_iff, kind, same, true_and]

theorem nests_shallow (limit : Nat) (tokens : List Token) (lexemes : List String)
    (read : List.Forall₂ Token.ReadAs tokens lexemes) (nested : NestsWithin limit (String.join lexemes)) :
    Shallow limit tokens := by
  intro index token _ _
  have front : (lexemes.take (index + 1)).flatMap String.toList ∈ (String.join lexemes).toList.inits := by
    rw [List.mem_inits, String.toList_join]
    nth_rewrite 2 [← List.take_append_drop (index + 1) lexemes]
    rw [List.flatMap_append]
    exact List.prefix_append _ _
  have bounded := nested _ front
  have readFront := List.forall₂_take (index + 1) read
  rw [count_parenthesis '(' "(" (.inl rfl) _ _ readFront, count_parenthesis ')' ")" (.inr rfl) _ _ readFront] at bounded
  rw [nestingLevel]
  omega

theorem written_dense (lexemes : List String) :
    written "" (lexemes.map fun lexeme => ⟨lexeme, ""⟩) = String.join lexemes := by
  induction lexemes with
  | nil => rfl
  | cons lexeme lexemes ih => rw [List.map_cons, written, ih, String.empty_append, String.join_cons]

theorem Dense.spaced (lexemes : List String) (dense : Dense lexemes) :
    Spaced "" (lexemes.map fun lexeme => ⟨lexeme, ""⟩) where
  front := by decide
  gaps piece member := by
    obtain ⟨lexeme, _, rfl⟩ := List.mem_map.mp member
    exact of_decide_eq_true rfl
  lexemes piece member := by
    obtain ⟨lexeme, inside, rfl⟩ := List.mem_map.mp member
    exact dense.known lexeme inside
  apart := by
    rw [List.isChain_map]
    exact dense.apart.imp fun _ _ separate together => absurd together separate

theorem spelled_accepted (lexemes : List String) (expr : Expr) (spells : Spells .expression lexemes expr)
    (dense : Dense lexemes) (nested : NestsWithin 100 (String.join lexemes)) (file : String) :
    ∃ tree, Tree.ofSource file (String.join lexemes) = .ok tree ∧ tree.expr = expr := by
  obtain ⟨phrase, read, rfl⟩ := spells
  obtain ⟨tokens, last, scanned, reread, ends⟩ := scan_written "" _ dense.spaced file
  rw [written_dense] at scanned
  rw [List.map_map, Function.comp_def, List.map_id'] at reread
  obtain ⟨placed, rfl, rewritten⟩ := phrase.rewrite_alike tokens (read_alike tokens phrase.tokens lexemes reread read)
  have fits : placed.nesting ≤ maxNesting.toNat :=
    (placed.shallow_iff maxNesting).mp (nests_shallow 100 placed.tokens lexemes reread nested)
  refine ⟨placed.tree, scanned_accepted file _ placed last scanned ends fits, ?_⟩
  rw [placed.tree_expr, rewritten.expr]

theorem minimal_text_read_back (tree : Tree)
    (literals : ∀ value ∈ tree.expr.literals, 0 ≤ value ∧ (toString value).length ≤ 4300)
    (nested : NestsWithin 100 tree.expr.source) (file : String) :
    ∃ other, Tree.ofSource file tree.expr.source = .ok other ∧ other.expr = tree.expr := by
  have spells : Spells .expression tree.expr.lexemes tree.expr :=
    (tree.expr.spells literals).loosen tree.expr.layer .expression (Nat.zero_le _)
  have dense : Dense tree.expr.lexemes := tree.expr.dense literals
  exact spelled_accepted tree.expr.lexemes tree.expr spells dense nested file

theorem regrouped_operands_read_back :
    let chain : Expr := .binary .sub (.num 10) (.binary .sub (.num 200) (.binary .mul (.num 3) (.num 40)))
    let quotient : Expr := .binary .div (.binary .add (.num 0) (.num 7)) (.binary .div (.num 8) (.num 9))
    let expr : Expr := .binary .equal (.binary .lessThan chain quotient)
      (.binary .notEqual (.binary .lessOrEqual (.num 1) (.binary .lessThan (.num 2) (.num 3))) (.num 4))
    expr.source = "10-(200-3*40)<(0+7)/(8/9)==(1<=(2<3)!=4)" ∧
      ∃ other, Tree.ofSource "" "10-(200-3*40)<(0+7)/(8/9)==(1<=(2<3)!=4)" = .ok other ∧ other.expr = expr := by
  intro chain quotient expr
  have text : expr.source = "10-(200-3*40)<(0+7)/(8/9)==(1<=(2<3)!=4)" := by decide
  have whole : expr.unplaced.expr = expr := rfl
  have nested : NestsWithin 100 expr.unplaced.expr.source := by
    rw [whole, text]
    decide
  obtain ⟨other, accepted, same⟩ := minimal_text_read_back expr.unplaced (by decide) nested ""
  rw [whole, text] at accepted
  exact ⟨text, other, accepted, same⟩

end ExprCompiler
