import ExprCompiler.Proofs.CompileCorrect
import ExprCompiler.Proofs.Conservation

set_option autoImplicit false

namespace ExprCompiler

def pushedValues (listing : String) : List Int :=
  ((listing.toList.splitOn '\n').filterMap Instr.ofLine?).filterMap Instr.pushed?

theorem Tree.assembly_instructions (tree : Tree) :
    ((tree.assembly Tree.defaultEntry).toList.splitOn '\n').filterMap Instr.ofLine? = tree.body := by
  have read : Instr.ofLine? ∘ Instr.line = some := funext Instr.of_line_text
  have header :
      [".intel_syntax noprefix".toList, ".global main".toList, "main:".toList].filterMap Instr.ofLine? = [] := rfl
  have last : [([] : List Char)].filterMap Instr.ofLine? = [] := rfl
  rw [assembly_rows, List.filterMap_append, List.filterMap_append, header, last, List.nil_append, List.append_nil,
    List.filterMap_map, read, List.filterMap_some]

theorem Tree.assembly_pushes (tree : Tree) : pushedValues (tree.assembly Tree.defaultEntry) = tree.expr.literals := by
  rw [pushedValues, tree.assembly_instructions, Tree.body, List.filterMap_append, tree.code_pushes]
  exact List.append_nil _

-- A pushed number is widened from 32 bits, which keeps it only if it fits there.
theorem pushed_kept_iff (value : Int) (machine : Machine) :
    (∃ after word, machine.step (.pushValue value) = .ok after ∧ after.stack = word :: machine.stack ∧
      word.toInt = value) ↔ -2 ^ 31 ≤ value ∧ value ≤ 2 ^ 31 - 1 := by
  have widened : ((BitVec.ofInt 32 value).signExtend 64).toInt = value.bmod (2 ^ 32) := by
    rw [BitVec.toInt_signExtend_of_le (by decide), BitVec.toInt_ofInt]
  constructor
  · rintro ⟨after, word, stepped, stack, kept⟩
    cases stepped
    obtain ⟨rfl, _⟩ := List.cons.inj stack
    rw [widened] at kept
    have lower := Int.le_bmod (x := value) (m := 2 ^ 32) (by decide)
    have upper := Int.bmod_lt (x := value) (m := 2 ^ 32) (by decide)
    omega
  · rintro ⟨lower, upper⟩
    refine ⟨_, _, rfl, rfl, ?_⟩
    rw [widened, Int.bmod_eq_of_le (by omega) (by omega)]

theorem accepted_pushes (file source : String) (tree : Tree) (accepted : Tree.ofSource file source = .ok tree) :
    ∃ tokens, Token.scan file source = .ok tokens ∧
      tree.expr.literals.Perm (tokens.filterMap Token.numeral? ++ List.replicate (unarySigns "-" false tokens) 0) ∧
      ∀ literal ∈ tokens.filterMap Token.numeral?, 0 ≤ literal := by
  obtain ⟨tokens, scanned, parsed⟩ := accepted_tokens file source tree accepted
  obtain ⟨phrase, last, rfl, rfl, ends, _, layout⟩ := scanned_phrase file source tokens tree scanned parsed
  have noNumeral : last.numeral? = none := by
    rw [Token.numeral?, last.end_no_number ends]
    rfl
  have literals : (phrase.tokens ++ [last]).filterMap Token.numeral? = phrase.tokens.filterMap Token.numeral? := by
    simp [noNumeral]
  have signs : unarySigns "-" false (phrase.tokens ++ [last]) = phrase.signs "-" := by
    rw [phrase.unary_signs "-" (by decide)]
    simp [unarySigns]
  refine ⟨_, scanned, ?_, ?_⟩
  · rw [phrase.tree_expr, literals, signs]
    exact phrase.literals_conserved
  · rw [literals]
    exact laid_out_nonnegative 0 _ phrase.tokens layout

-- A listing pushes the literals of its source and a zero for each minus sign. All of them fit into a push,
-- and come through it unchanged, just when no literal is larger than the largest number of 32 bits.
theorem pushes_fit_iff (file source listing : String) (compiled : compile file source .asm = .ok listing) :
    ∃ tokens, Token.scan file source = .ok tokens ∧
      (pushedValues listing).Perm
        (tokens.filterMap Token.numeral? ++ List.replicate (unarySigns "-" false tokens) 0) ∧
      ((∀ value ∈ pushedValues listing, -2 ^ 31 ≤ value ∧ value ≤ 2 ^ 31 - 1) ↔
        ∀ literal ∈ tokens.filterMap Token.numeral?, literal ≤ 2 ^ 31 - 1) ∧
      ∀ value ∈ pushedValues listing, ∀ machine : Machine,
        (∃ after word, machine.step (.pushValue value) = .ok after ∧ after.stack = word :: machine.stack ∧
          word.toInt = value) ↔ -2 ^ 31 ≤ value ∧ value ≤ 2 ^ 31 - 1 := by
  obtain ⟨tree, accepted, rfl⟩ := compile_assembly file source listing compiled
  obtain ⟨tokens, scanned, pushes, nonnegative⟩ := accepted_pushes file source tree accepted
  rw [tree.assembly_pushes]
  refine ⟨tokens, scanned, pushes, ?_, fun value _ machine => pushed_kept_iff value machine⟩
  constructor
  · intro fit literal member
    exact (fit literal (pushes.mem_iff.mpr (List.mem_append_left _ member))).2
  · intro bounded value member
    rcases List.mem_append.mp (pushes.mem_iff.mp member) with literal | zero
    · have lower := nonnegative value literal
      have upper := bounded value literal
      omega
    · obtain rfl := List.eq_of_mem_replicate zero
      decide

theorem largest_push_fits :
    ∃ listing, compile "" "-2147483647" .asm = .ok listing ∧ (pushedValues listing).Perm [2147483647, 0] ∧
      ∀ value ∈ pushedValues listing, -2 ^ 31 ≤ value ∧ value ≤ 2 ^ 31 - 1 := by
  obtain ⟨tree, accepted⟩ : ∃ tree, Tree.ofSource "" "-2147483647" = .ok tree := ⟨_, (of_source_apply _ _).trans rfl⟩
  have compiled : compile "" "-2147483647" .asm = .ok (tree.assembly Tree.defaultEntry) := by
    rw [compile_listing, accepted]
    rfl
  obtain ⟨tokens, scanned, pushes, fit, _⟩ := pushes_fit_iff "" "-2147483647" _ compiled
  cases scanned
  refine ⟨_, compiled, pushes, fit.mpr ?_⟩
  decide

theorem next_push_does_not_fit :
    ¬ ∀ file source listing, compile file source .asm = .ok listing →
      ∀ value ∈ pushedValues listing, -2 ^ 31 ≤ value ∧ value ≤ 2 ^ 31 - 1 := by
  intro fit
  let tree := Tree.num 2147483648 (some ⟨⟨"", 1, 1, 0⟩, ⟨"", 1, 11, 10⟩⟩)
  have compiled : compile "" "2147483648" .asm = .ok (tree.assembly Tree.defaultEntry) := by
    rw [compile_listing, of_source_apply]
    rfl
  have pushed : (2147483648 : Int) ∈ pushedValues (tree.assembly Tree.defaultEntry) := by
    rw [Tree.assembly_pushes]
    exact List.mem_singleton.mpr rfl
  have upper := (fit "" "2147483648" _ compiled 2147483648 pushed).2
  omega

end ExprCompiler
