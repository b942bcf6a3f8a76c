import ExprCompiler.Proofs.Printable
import ExprCompiler.Token

set_option autoImplicit false

namespace ExprCompiler

def Register.ofText? : String → Option Register
  | "rax" => some .rax
  | "rdi" => some .rdi
  | _ => none

namespace Instr

def natural? (digits : List Char) : Option Nat :=
  if digits ≠ [] ∧ digits.all Lexeme.isDigit then some (Lexeme.decimalValue digits) else none

def immediate? : List Char → Option Int
  | '-' :: digits => (natural? digits).map fun size : Nat => -(size : Int)
  | digits => (natural? digits).map fun size : Nat => (size : Int)

def ofParts? (mnemonic operands : String) : Option Instr :=
  match mnemonic, operands with
  | "push", operand =>
      match immediate? operand.toList with
      | some value => some (.pushValue value)
      | none => (Register.ofText? operand).map .push
  | "pop", operand => (Register.ofText? operand).map .pop
  | "add", "rax, rdi" => some .add
  | "sub", "rax, rdi" => some .sub
  | "imul", "rax, rdi" => some .imul
  | "cqo", "" => some .cqo
  | "idiv", "rdi" => some .idiv
  | "cmp", "rax, rdi" => some .cmp
  | "sete", "al" => some (.set .equal)
  | "setne", "al" => some (.set .notEqual)
  | "setl", "al" => some (.set .less)
  | "setle", "al" => some (.set .lessOrEqual)
  | "movzb", "rax, al" => some .movzb
  | "ret", "" => some .ret
  | _, _ => none

-- An indented line is a mnemonic and, behind a space, its operands.
def ofLine? : List Char → Option Instr
  | '\t' :: text =>
      ofParts? (String.ofList (text.takeWhile (· != ' '))) (String.ofList ((text.dropWhile (· != ' ')).drop 1))
  | _ => none

def line (instr : Instr) : List Char :=
  '\t' :: instr.spelling.toList

theorem digits_of (size : Nat) (c : Char) (member : c ∈ Nat.toDigits 10 size) : Lexeme.isDigit c = true := by
  have digit := Nat.isDigit_of_mem_toDigits (by decide) (by decide) member
  simpa [Char.isDigit, Lexeme.isDigit, Char.le_def] using digit

theorem natural_digits (size : Nat) : natural? (Nat.toDigits 10 size) = some size := by
  have digits : (Nat.toDigits 10 size).all Lexeme.isDigit = true := List.all_eq_true.mpr (digits_of size)
  rw [natural?, if_pos ⟨Nat.toDigits_ne_nil, digits⟩]
  exact congrArg some Nat.ofDigitChars_ten_toDigits

theorem value_text (value : Int) :
    (toString value).toList =
      if value < 0 then '-' :: Nat.toDigits 10 value.natAbs else Nat.toDigits 10 value.natAbs := by
  cases value with
  | ofNat size =>
      have positive : ¬ Int.ofNat size < 0 := Int.not_lt.mpr (Int.natCast_nonneg size)
      rw [if_neg positive]
      exact Nat.toList_repr
  | negSucc size =>
      rw [if_pos (Int.negSucc_lt_zero size)]
      show ("-" ++ (size + 1).repr).toList = '-' :: Nat.toDigits 10 (size + 1)
      rw [String.toList_append, Nat.toList_repr]
      rfl

theorem value_text_without (value : Int) (c : Char) (noDigit : Lexeme.isDigit c = false) (noSign : c ≠ '-') :
    c ∉ (toString value).toList := by
  have digits : c ∉ Nat.toDigits 10 value.natAbs := by
    intro member
    rw [digits_of value.natAbs c member] at noDigit
    cases noDigit
  rw [value_text]
  by_cases negative : value < 0
  · rw [if_pos negative, List.mem_cons, not_or]
    exact ⟨noSign, digits⟩
  · rw [if_neg negative]
    exact digits

theorem immediate_text (value : Int) : immediate? (toString value).toList = some value := by
  rw [value_text]
  by_cases negative : value < 0
  · rw [if_pos negative, immediate?, natural_digits, Option.map_some]
    exact congrArg some (by omega)
  · rw [if_neg negative]
    unfold immediate?
    split
    · rename_i digits text
      have digit := digits_of value.natAbs '-' (by rw [text]; exact .head _)
      exact absurd digit (by decide)
    · rw [natural_digits, Option.map_some]
      exact congrArg some (by omega)

theorem push_value_line (value : Int) : (pushValue value).line = "\tpush ".toList ++ (toString value).toList := by
  show '\t' :: ("push " ++ toString value).toList = _
  rw [String.toList_append]
  rfl

theorem of_line_text (instr : Instr) : ofLine? instr.line = some instr := by
  cases instr with
  | pushValue value =>
      have parts (operand : List Char) : ofLine? ("\tpush ".toList ++ operand) =
          match immediate? (String.ofList operand).toList with
          | some value => some (.pushValue value)
          | none => (Register.ofText? (String.ofList operand)).map .push := rfl
      rw [push_value_line, parts, String.toList_ofList, immediate_text]
  | push register => cases register <;> rfl
  | pop register => cases register <;> rfl
  | set condition => cases condition <;> rfl
  | add => rfl
  | sub => rfl
  | imul => rfl
  | cqo => rfl
  | idiv => rfl
  | cmp => rfl
  | movzb => rfl
  | ret => rfl

theorem line_unbroken (instr : Instr) : '\n' ∉ instr.line := by
  cases instr with
  | pushValue value =>
      rw [push_value_line, List.mem_append, not_or]
      exact ⟨by decide, value_text_without value '\n' rfl (by decide)⟩
  | push register => cases register <;> decide
  | pop register => cases register <;> decide
  | set condition => cases condition <;> decide
  | add => decide
  | sub => decide
  | imul => decide
  | cqo => decide
  | idiv => decide
  | cmp => decide
  | movzb => decide
  | ret => decide

end Instr

def linesBehind (label listing : String) : List (List Char) :=
  ((listing.toList.splitOn '\n').dropWhile (· != label.toList)).drop 1

theorem intercalate_append (separator : List Char) (lines others : List (List Char)) (filled : lines ≠ [])
    (othersFilled : others ≠ []) :
    separator.intercalate (lines ++ others) =
      separator.intercalate lines ++ separator ++ separator.intercalate others := by
  induction lines with
  | nil => exact absurd rfl filled
  | cons line lines ih =>
      cases lines with
      | nil => rw [List.singleton_append, List.intercalate_cons_of_ne_nil othersFilled, List.intercalate_singleton]
      | cons next lines =>
          have rest := ih (by simp)
          rw [List.cons_append] at rest
          rw [List.cons_append, List.cons_append, List.intercalate_cons_cons, List.intercalate_cons_cons, rest]
          simp only [List.append_assoc]

namespace Tree

theorem assembly_lines_text (tree : Tree) (entry : String) :
    (tree.assemblyLines entry).map String.toList =
      [".intel_syntax noprefix".toList, (".global " ++ entry).toList, (entry ++ ":").toList] ++
        tree.body.map Instr.line := by
  have line : String.toList ∘ (fun instr : Instr => s!"\t{instr.spelling}") = Instr.line := by
    funext instr
    show ("\t" ++ instr.spelling).toList = _
    rw [String.toList_append]
    rfl
  rw [assemblyLines, List.map_append, List.map_map, line]
  rfl

theorem assembly_text (tree : Tree) (entry : String) :
    (tree.assembly entry).toList = ['\n'].intercalate ((tree.assemblyLines entry).map String.toList ++ [[]]) := by
  rw [intercalate_append _ _ _ (by simp [assemblyLines]) (by simp), List.intercalate_singleton, List.append_nil, assembly,
    String.toList_append, String.toList_intercalate]
  rfl

theorem body_unbroken (tree : Tree) : ∀ line ∈ tree.body.map Instr.line ++ [[]], '\n' ∉ line := by
  intro line member
  rcases List.mem_append.mp member with inside | last
  · obtain ⟨instr, _, rfl⟩ := List.mem_map.mp inside
    exact instr.line_unbroken
  · rw [List.mem_singleton.mp last]
    exact List.not_mem_nil

theorem assembly_rows (tree : Tree) :
    (tree.assembly defaultEntry).toList.splitOn '\n' =
      [".intel_syntax noprefix".toList, ".global main".toList, "main:".toList] ++
        (tree.body.map Instr.line ++ [[]]) := by
  have unbroken : ∀ line ∈ (tree.assemblyLines defaultEntry).map String.toList ++ [[]], '\n' ∉ line := by
    rw [assembly_lines_text, List.append_assoc]
    intro line member
    rcases List.mem_append.mp member with header | behind
    · have none : ∀ line ∈ [".intel_syntax noprefix".toList, ".global main".toList, "main:".toList], '\n' ∉ line := by
        decide
      exact none line header
    · exact tree.body_unbroken line behind
  rw [assembly_text, List.splitOn_intercalate '\n' unbroken (by simp), assembly_lines_text]
  rfl

theorem assembly_behind (tree : Tree) :
    linesBehind "main:" (tree.assembly defaultEntry) = tree.body.map Instr.line ++ [[]] := by
  rw [linesBehind, assembly_rows]
  rfl

end Tree

end ExprCompiler
