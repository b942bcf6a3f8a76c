import ExprCompiler.Proofs.Machine
import ExprCompiler.Proofs.Rendering
import ExprCompiler.Proofs.StackMachine

set_option autoImplicit false

namespace ExprCompiler

def Operator.apply : Operator → Word → Word → Option Word
  | .add, left, right => some (left + right)
  | .sub, left, right => some (left - right)
  | .mul, left, right => some (left * right)
  | .div, left, right => if Word.BadDivision left right then none else some (Word.quotient left right)
  | .lessThan, left, right => some (Word.truth (left.toInt < right.toInt))
  | .lessOrEqual, left, right => some (Word.truth (left.toInt ≤ right.toInt))
  | .equal, left, right => some (Word.truth (left = right))
  | .notEqual, left, right => some (Word.truth (left ≠ right))

namespace Expr

def word : Expr → Option Word
  | .num value => some (BitVec.ofInt 64 value)
  | .binary op left right =>
      left.word.bind fun first => right.word.bind fun second => op.apply first second

def Immediate : Expr → Prop
  | .num value => -2 ^ 31 ≤ value ∧ value < 2 ^ 31
  | .binary _ left right => left.Immediate ∧ right.Immediate

theorem immediate_iff (expr : Expr) :
    expr.Immediate ↔ ∀ value ∈ expr.literals, -2 ^ 31 ≤ value ∧ value < 2 ^ 31 := by
  induction expr with
  | num value => rw [Immediate, literals, List.forall_mem_singleton]
  | binary op left right ihLeft ihRight => rw [Immediate, ihLeft, ihRight, literals, List.forall_mem_append]

end Expr

theorem Connective.join_word (connective : Connective) (left right : Expr) :
    (connective.join left right).word =
      left.word.bind fun first => right.word.bind fun second => connective.apply first second := by
  have reversed (op : Operator) : (Expr.binary op right left).word =
      left.word.bind fun first => right.word.bind fun second => op.apply second first := by
    rw [Expr.word]
    cases left.word <;> cases right.word <;> rfl
  cases connective with
  | greater => exact reversed .lessThan
  | greaterOrEqual => exact reversed .lessOrEqual
  | _ => rfl

namespace Phrase

variable {layer : Layer}

theorem expr_word (phrase : Phrase layer) : phrase.expr.word = phrase.value := by
  induction phrase with
  | number token numeral => rfl
  | group opening closing opens closes inner ih => exact ih
  | positive sign written operand ih => exact ih
  | negative sign written operand ih =>
      rw [expr, value, ← ih]
      cases known : operand.expr.word with
      | none => simp only [Expr.word, known, Option.bind_some, Option.bind_none, Option.map_none]
      | some word =>
          have negated : (0 : Word) - word = -word := BitVec.zero_sub word
          simp only [Expr.word, known, Option.bind_some, Operator.apply, Option.map_some]
          exact congrArg some negated
  | single compound part ih => exact ih
  | joined connective inLayer symbol written left right ihLeft ihRight =>
      rw [expr, connective.join_word, ihLeft, ihRight, value]

theorem expr_immediate (phrase : Phrase layer) (bounded : ∀ literal ∈ phrase.literals, 0 ≤ literal ∧ literal < 2 ^ 31) :
    phrase.expr.Immediate := by
  rw [Expr.immediate_iff]
  intro value inside
  rcases List.mem_append.mp (phrase.literals_conserved.mem_iff.mp inside) with literal | zero
  · obtain ⟨lower, upper⟩ := bounded value literal
    exact ⟨by omega, upper⟩
  · obtain rfl := List.eq_of_mem_replicate zero
    decide

end Phrase

theorem pushed_word (value : Int) (lower : -2 ^ 31 ≤ value) (upper : value < 2 ^ 31) :
    (BitVec.ofInt 32 value).signExtend 64 = BitVec.ofInt 64 value := by
  apply BitVec.eq_of_toInt_eq
  rw [BitVec.toInt_signExtend_of_le (by decide), BitVec.toInt_ofInt, BitVec.toInt_ofInt]
  rw [Int.bmod_eq_of_le (by omega) (by omega), Int.bmod_eq_of_le (by omega) (by omega)]

theorem Condition.holds_compare (condition : Condition) (left right : Word) :
    condition.holds (compare left.toInt right.toInt) =
      match condition with
      | .equal => decide (left = right)
      | .notEqual => decide (left ≠ right)
      | .less => decide (left.toInt < right.toInt)
      | .lessOrEqual => decide (left.toInt ≤ right.toInt) := by
  have same : left = right ↔ left.toInt = right.toInt := BitVec.toInt_inj.symm
  cases condition with
  | equal =>
      rw [Bool.eq_iff_iff, decide_eq_true_iff, same]
      exact Ordering.isEq_iff_eq_eq.trans Int.compare_eq_eq
  | notEqual =>
      rw [Bool.eq_iff_iff, decide_eq_true_iff, ne_eq, same]
      exact Ordering.isNe_iff_ne_eq.trans (not_congr Int.compare_eq_eq)
  | less =>
      rw [Bool.eq_iff_iff, decide_eq_true_iff]
      exact Ordering.isLT_iff_eq_lt.trans Int.compare_eq_lt
  | lessOrEqual =>
      rw [Bool.eq_iff_iff, decide_eq_true_iff]
      exact Ordering.isLE_iff_ne_gt.trans Int.compare_ne_gt

namespace Machine

def asStack : StackMachine Machine Ending Word where
  step := step
  left := rax
  right := rdi
  stack := stack
  loads machine first second below operands := by
    refine ⟨{ machine with rax := first, rdi := second, stack := below }, ?_, rfl, rfl, rfl⟩
    show exec loadOperands machine = _
    rw [loadOperands, exec_cons, step, operands]
    rfl
  stores machine := ⟨_, rfl, rfl⟩

theorem core_applies (op : Operator) : asStack.Applies .faulted op op.apply := by
  intro machine first second left right
  obtain rfl : machine.rax = first := left
  obtain rfl : machine.rdi = second := right
  have compared (condition : Condition) := compare_exec condition machine
  simp only [Condition.holds_compare] at compared
  cases op with
  | add => exact ⟨_, rfl, rfl, rfl⟩
  | sub => exact ⟨_, rfl, rfl, rfl⟩
  | mul => exact ⟨_, rfl, rfl, rfl⟩
  | div =>
      have divided := divide_exec machine
      by_cases bad : Word.BadDivision machine.rax machine.rdi
      · rw [if_pos bad] at divided
        simp only [Operator.apply, if_pos bad]
        exact divided
      · rw [if_neg bad] at divided
        simp only [Operator.apply, if_neg bad]
        exact ⟨_, divided, rfl, rfl⟩
  | lessThan => exact ⟨_, compared .less, rfl, rfl⟩
  | lessOrEqual => exact ⟨_, compared .lessOrEqual, rfl, rfl⟩
  | equal => exact ⟨_, compared .equal, rfl, rfl⟩
  | notEqual => exact ⟨_, compared .notEqual, rfl, rfl⟩

def Computes (code : List Instr) (value : Option Word) : Prop :=
  ∀ machine : Machine,
    match value with
    | some word => ∃ after, exec code machine = .ok after ∧ after.stack = word :: machine.stack
    | none => exec code machine = .error .faulted

theorem computes_literal (value : Int) (lower : -2 ^ 31 ≤ value) (upper : value < 2 ^ 31) :
    Computes [.pushValue value] (some (BitVec.ofInt 64 value)) := by
  intro machine
  refine ⟨_, rfl, ?_⟩
  show (BitVec.ofInt 32 value).signExtend 64 :: machine.stack = _
  rw [pushed_word value lower upper]

theorem computes_iff (code : List Instr) (value : Option Word) :
    Computes code value ↔ asStack.Computes .faulted code value := by
  cases value <;> exact Iff.rfl

end Machine

theorem Tree.code_computes (tree : Tree) (immediate : tree.expr.Immediate) :
    Machine.Computes tree.code tree.expr.word := by
  induction tree with
  | num value span =>
      rw [Tree.code_num]
      exact Machine.computes_literal value immediate.1 immediate.2
  | binary op left right span ihLeft ihRight =>
      rw [Tree.code_binary]
      have leftComputes := (Machine.computes_iff _ _).mp (ihLeft immediate.1)
      have rightComputes := (Machine.computes_iff _ _).mp (ihRight immediate.2)
      rw [Machine.computes_iff]
      exact StackMachine.computes_binary op op.apply (Machine.core_applies op) _ _ _ _ leftComputes rightComputes

theorem Tree.assembly_run (tree : Tree) (immediate : tree.expr.Immediate) (machine : Machine) :
    match tree.expr.word with
    | some word => ∃ after, machine.run "main:" (tree.assembly Tree.defaultEntry) = .returned after ∧
        after.stack = machine.stack ∧ after.rax = word
    | none => machine.run "main:" (tree.assembly Tree.defaultEntry) = .faulted := by
  have ran := Tree.code_computes tree immediate machine
  rw [Machine.run, Tree.assembly_behind, Machine.run_lines_code, Tree.body, Machine.exec_append]
  cases value : tree.expr.word with
  | none =>
      simp only [value] at ran
      rw [ran]
      rfl
  | some word =>
      simp only [value] at ran
      obtain ⟨after, executed, stack⟩ := ran
      refine ⟨{ after with rax := word, stack := machine.stack }, ?_, rfl, rfl⟩
      rw [executed]
      simp only [Except.bind, Machine.exec_cons, Machine.step, stack]
      rfl

theorem laid_out_nonnegative (start : Nat) (text : List Char) (tokens : List Token) (layout : Layout start text tokens) :
    ∀ literal ∈ tokens.filterMap Token.numeral?, 0 ≤ literal := by
  intro literal member
  obtain ⟨token, inside, numeral⟩ := List.mem_filterMap.mp member
  rw [Token.numeral?, Option.ite_none_right_eq_some] at numeral
  cases layout_spelled start text tokens layout token inside with
  | number kind filled digits short value =>
      rw [value] at numeral
      cases numeral.2
      exact Int.natCast_nonneg _
  | operator kind listed value =>
      rw [value] at numeral
      cases numeral.2

-- Some phrase is laid out in an accepted source, and for each one that is, the listing returns its
-- value and leaves the stack as it was, or faults. It faults just where a division has no value.
theorem compiled_listing_computes (file source listing : String)
    (compiled : compile file source .asm = .ok listing) :
    (∃ phrase : Phrase .expression, Layout 0 source.toList phrase.tokens) ∧
      ∀ phrase : Phrase .expression, Layout 0 source.toList phrase.tokens →
        (∀ literal ∈ phrase.literals, literal ≤ 2 ^ 31 - 1) → ∀ machine : Machine,
          ((∃ after, machine.run "main:" listing = .returned after ∧ after.stack = machine.stack ∧
              phrase.value = some after.rax) ∨ machine.run "main:" listing = .faulted) ∧
            (machine.run "main:" listing = .faulted ↔
              ∃ operands ∈ phrase.divisions, Word.BadDivision operands.1 operands.2) := by
  obtain ⟨tree, accepted, rfl⟩ := compile_assembly file source listing compiled
  obtain ⟨found, _, _, foundLayout⟩ := accepted_phrase file source tree accepted
  refine ⟨⟨found, foundLayout⟩, ?_⟩
  intro phrase layout bounded machine
  obtain ⟨other, rfl, rewritten⟩ := phrase_unique file source tree accepted 0 phrase layout
  have same : other.tree.expr = phrase.expr := other.tree_expr.trans rewritten.expr
  have immediate : phrase.expr.Immediate := by
    apply phrase.expr_immediate
    intro literal member
    have lower := laid_out_nonnegative 0 _ phrase.tokens layout literal member
    have upper := bounded literal member
    omega
  have ran := other.tree.assembly_run (same ▸ immediate) machine
  rw [← phrase.value_none_iff]
  rw [same, phrase.expr_word] at ran
  cases value : phrase.value with
  | none =>
      simp only [value] at ran
      exact ⟨.inr ran, iff_of_true ran rfl⟩
  | some word =>
      simp only [value] at ran
      obtain ⟨after, returned, stack, result⟩ := ran
      refine ⟨.inl ⟨after, returned, stack, by rw [result]⟩, ?_⟩
      rw [returned]
      exact iff_of_false Ending.noConfusion (Option.some_ne_none word)

theorem quotient_exceeds_negative :
    ∃ listing, compile "" "7 / 2 > -1" .asm = .ok listing ∧
      ∀ machine : Machine, ∃ after, machine.run "main:" listing = .returned after ∧ after.stack = machine.stack ∧
        after.rax = 1 := by
  let seven := Token.onFirstLine .number "7" (some 7) "" 0
  let slash := Token.onFirstLine .reserved "/" none "" 2
  let two := Token.onFirstLine .number "2" (some 2) "" 4
  let greater := Token.onFirstLine .reserved ">" none "" 6
  let minus := Token.onFirstLine .reserved "-" none "" 8
  let one := Token.onFirstLine .number "1" (some 1) "" 9
  let last := Token.onFirstLine .endOfInput "" none "" 10
  let quotient : Phrase .multiplicative := .joined .divide rfl slash rfl
    (.single (by decide) (.single (by decide) (.number seven rfl))) (.single (by decide) (.number two rfl))
  let negative : Phrase .multiplicative := .single (by decide) (.negative minus rfl (.number one rfl))
  let comparison : Phrase .relational := .joined .greater rfl greater rfl
    (.single (by decide) (.single (by decide) quotient)) (.single (by decide) negative)
  let phrase : Phrase .expression := .single (by decide) (.single (by decide) comparison)
  have scanned : Token.scan "" "7 / 2 > -1" = .ok (phrase.tokens ++ [last]) := rfl
  obtain ⟨front, final, split, layout, _⟩ := scan_layout "" "7 / 2 > -1" _ scanned
  obtain ⟨rfl, _⟩ := List.append_inj' split rfl
  have compiled : compile "" "7 / 2 > -1" .asm = .ok (phrase.tree.assembly Tree.defaultEntry) := by
    rw [compile_listing, scanned_accepted "" "7 / 2 > -1" phrase last scanned rfl (by decide)]
    rfl
  refine ⟨_, compiled, ?_⟩
  intro machine
  obtain ⟨finished, faults⟩ := (compiled_listing_computes "" "7 / 2 > -1" _ compiled).2 phrase layout (by decide) machine
  have holds : phrase.value = some 1 := by decide
  have sound : ¬ ∃ operands ∈ phrase.divisions, Word.BadDivision operands.1 operands.2 := by decide
  rcases finished with ⟨after, returned, stack, value⟩ | faulted
  · exact ⟨after, returned, stack, Option.some.inj (value.symm.trans holds)⟩
  · exact absurd (faults.mp faulted) sound

end ExprCompiler
