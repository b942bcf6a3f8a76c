import ExprCompiler.Proofs.AssemblyText
import ExprCompiler.Proofs.WordValue
import Mathlib.Algebra.Ring.Int.Defs

set_option autoImplicit false

namespace ExprCompiler

structure Machine where
  rax : Word
  rdi : Word
  rdx : Word
  flags : Ordering
  stack : List Word

-- A run derails at a line that is no instruction, at the end of the text, or where it takes from an
-- empty stack.
inductive Ending where
  | returned (machine : Machine)
  | faulted
  | derailed

namespace Condition

def holds : Condition → Ordering → Bool
  | .equal, flags => flags.isEq
  | .notEqual, flags => flags.isNe
  | .less, flags => flags.isLT
  | .lessOrEqual, flags => flags.isLE

end Condition

namespace Word

def withLowByte (word : Word) (byte : BitVec 8) : Word :=
  word.extractLsb' 8 56 ++ byte

def lowByte (word : Word) : BitVec 8 :=
  word.setWidth 8

def signWord (word : Word) : Word :=
  if word.msb then BitVec.allOnes 64 else 0

theorem low_byte_written (word : Word) (byte : BitVec 8) : (word.withLowByte byte).lowByte = byte := by
  rw [lowByte, withLowByte, BitVec.setWidth_append, dif_pos (by decide), BitVec.setWidth_eq]

theorem sign_word_append (word : Word) : (word.signWord ++ word).toInt = word.toInt := by
  have extended := BitVec.signExtend_eq_append_of_le (x := word) (v := 128) (by decide)
  rw [BitVec.cast_eq] at extended
  have same : word.signWord ++ word = word.signExtend 128 := by
    rw [extended]
    rfl
  rw [same, BitVec.toInt_signExtend_of_le (by decide)]

-- Only the smallest number has a negative that is out of range.
theorem quotient_range (dividend divisor : Int) (lower : -2 ^ 63 ≤ dividend) (upper : dividend < 2 ^ 63)
    (nonzero : divisor ≠ 0) :
    dividend = -2 ^ 63 ∧ divisor = -1 ↔ dividend.tdiv divisor < -2 ^ 63 ∨ 2 ^ 63 ≤ dividend.tdiv divisor := by
  by_cases one : divisor = 1
  · rw [one, Int.tdiv_one]
    omega
  · by_cases minusOne : divisor = -1
    · rw [minusOne, Int.tdiv_neg, Int.tdiv_one]
      omega
    · have halved : (dividend.tdiv divisor).natAbs ≤ dividend.natAbs / 2 := by
        rw [Int.natAbs_tdiv]
        exact Nat.div_le_div_left (by omega) (by decide)
      omega

theorem bad_division_iff (dividend divisor : Word) :
    BadDivision dividend divisor ↔ divisor.toInt = 0 ∨ dividend.toInt.tdiv divisor.toInt < -2 ^ 63 ∨
      2 ^ 63 ≤ dividend.toInt.tdiv divisor.toInt := by
  have zero : divisor = 0 ↔ divisor.toInt = 0 := by
    rw [← BitVec.toInt_inj]
    rfl
  have smallest : dividend = BitVec.intMin 64 ↔ dividend.toInt = -2 ^ 63 := by
    rw [← BitVec.toInt_inj]
    rfl
  have minusOne : divisor = -1 ↔ divisor.toInt = -1 := by
    rw [← BitVec.toInt_inj]
    rfl
  rw [BadDivision, zero, smallest, minusOne]
  by_cases isZero : divisor.toInt = 0
  · simp only [isZero, true_or]
  · rw [quotient_range dividend.toInt divisor.toInt (BitVec.le_toInt dividend) BitVec.toInt_lt isZero]

end Word

namespace Machine

def read (machine : Machine) : Register → Word
  | .rax => machine.rax
  | .rdi => machine.rdi

def write (machine : Machine) (word : Word) : Register → Machine
  | .rax => { machine with rax := word }
  | .rdi => { machine with rdi := word }

-- The dividend is twice as wide as the quotient, which may not fit.
def divide (machine : Machine) : Except Ending Machine :=
  let dividend := (machine.rdx ++ machine.rax).toInt
  let divisor := machine.rdi.toInt
  let quotient := dividend.tdiv divisor
  if divisor = 0 ∨ quotient < -2 ^ 63 ∨ 2 ^ 63 ≤ quotient then .error .faulted
  else .ok { machine with rax := BitVec.ofInt 64 quotient, rdx := BitVec.ofInt 64 (dividend.tmod divisor) }

def step (machine : Machine) : Instr → Except Ending Machine
  | .pushValue value => .ok { machine with stack := (BitVec.ofInt 32 value).signExtend 64 :: machine.stack }
  | .push register => .ok { machine with stack := machine.read register :: machine.stack }
  | .pop register =>
      match machine.stack with
      | [] => .error .derailed
      | top :: below => .ok ({ machine with stack := below }.write top register)
  | .add => .ok { machine with rax := machine.rax + machine.rdi }
  | .sub => .ok { machine with rax := machine.rax - machine.rdi }
  | .imul => .ok { machine with rax := machine.rax * machine.rdi }
  | .cqo => .ok { machine with rdx := machine.rax.signWord }
  | .idiv => machine.divide
  | .cmp => .ok { machine with flags := compare machine.rax.toInt machine.rdi.toInt }
  | .set condition =>
      .ok { machine with rax := machine.rax.withLowByte (if condition.holds machine.flags then 1 else 0) }
  | .movzb => .ok { machine with rax := machine.rax.lowByte.setWidth 64 }
  | .ret => .error (.returned machine)

def runLines : List (List Char) → Machine → Ending
  | [], _ => .derailed
  | line :: lines, machine =>
      match Instr.ofLine? line with
      | none => .derailed
      | some instr =>
          match machine.step instr with
          | .ok after => runLines lines after
          | .error ending => ending

def run (machine : Machine) (label listing : String) : Ending :=
  runLines (linesBehind label listing) machine

def exec (code : List Instr) (machine : Machine) : Except Ending Machine :=
  code.foldlM step machine

theorem exec_cons (instr : Instr) (code : List Instr) (machine : Machine) :
    exec (instr :: code) machine = (machine.step instr).bind (exec code) := rfl

theorem exec_append (code more : List Instr) (machine : Machine) :
    exec (code ++ more) machine = (exec code machine).bind (exec more) := by
  exact List.foldlM_append

theorem run_lines_code (code : List Instr) (lines : List (List Char)) (machine : Machine) :
    runLines (code.map Instr.line ++ lines) machine =
      match exec code machine with
      | .ok after => runLines lines after
      | .error ending => ending := by
  induction code generalizing machine with
  | nil => rfl
  | cons instr code ih =>
      rw [List.map_cons, List.cons_append, runLines, Instr.of_line_text, exec_cons]
      dsimp only
      cases ran : machine.step instr with
      | error ending => rfl
      | ok after => exact ih after

theorem compare_exec (condition : Condition) (machine : Machine) :
    exec [.cmp, .set condition, .movzb] machine =
      .ok { machine with
        flags := compare machine.rax.toInt machine.rdi.toInt
        rax := Word.truth (condition.holds (compare machine.rax.toInt machine.rdi.toInt)) } := by
  simp only [exec_cons, step, Except.bind, Word.low_byte_written]
  cases condition.holds (compare machine.rax.toInt machine.rdi.toInt) <;> rfl

theorem divide_exec (machine : Machine) :
    exec [.cqo, .idiv] machine =
      if Word.BadDivision machine.rax machine.rdi then .error .faulted
      else .ok { machine with
        rax := Word.quotient machine.rax machine.rdi
        rdx := BitVec.ofInt 64 (machine.rax.toInt.tmod machine.rdi.toInt) } := by
  simp only [exec_cons, step, Except.bind, divide, Word.sign_word_append, ← Word.bad_division_iff]
  by_cases bad : Word.BadDivision machine.rax machine.rdi
  · simp only [if_pos bad]
  · simp only [if_neg bad]
    rfl

end Machine

end ExprCompiler
