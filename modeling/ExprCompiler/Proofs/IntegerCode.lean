import ExprCompiler.Proofs.AssemblyText
import ExprCompiler.Proofs.Rendering
import ExprCompiler.Proofs.StackMachine

set_option autoImplicit false

namespace ExprCompiler

structure Calculator where
  rax : Int
  rdi : Int
  compared : Option (Int × Int)
  stack : List Int
deriving DecidableEq

inductive Obstacle where
  | zeroDivisor
  | emptyStack
  | nothingCompared
  | unknownLine
deriving DecidableEq, Repr

def Condition.relates : Condition → Int → Int → Bool
  | .equal, left, right => left = right
  | .notEqual, left, right => left ≠ right
  | .less, left, right => left < right
  | .lessOrEqual, left, right => left ≤ right

def truthValue (holds : Bool) : Int :=
  if holds then 1 else 0

namespace Calculator

def read (machine : Calculator) : Register → Int
  | .rax => machine.rax
  | .rdi => machine.rdi

def write (machine : Calculator) (value : Int) : Register → Calculator
  | .rax => { machine with rax := value }
  | .rdi => { machine with rdi := value }

-- Registers have no parts here, so a comparison sets all of `rax`, and nothing is left to extend.
def step (machine : Calculator) : Instr → Except Obstacle Calculator
  | .pushValue value => .ok { machine with stack := value :: machine.stack }
  | .push register => .ok { machine with stack := machine.read register :: machine.stack }
  | .pop register =>
      match machine.stack with
      | [] => .error .emptyStack
      | top :: below => .ok ({ machine with stack := below }.write top register)
  | .add => .ok { machine with rax := machine.rax + machine.rdi }
  | .sub => .ok { machine with rax := machine.rax - machine.rdi }
  | .imul => .ok { machine with rax := machine.rax * machine.rdi }
  | .idiv =>
      if machine.rdi = 0 then .error .zeroDivisor
      else .ok { machine with rax := machine.rax.tdiv machine.rdi }
  | .cmp => .ok { machine with compared := some (machine.rax, machine.rdi) }
  | .set condition =>
      match machine.compared with
      | none => .error .nothingCompared
      | some (left, right) => .ok { machine with rax := truthValue (condition.relates left right) }
  | .cqo | .movzb => .ok machine
  | .ret => .error .unknownLine

def runLine (machine : Calculator) (line : String) : Except Obstacle Calculator :=
  match Instr.ofLine? ('\t' :: line.toList) with
  | none => .error .unknownLine
  | some instr => machine.step instr

def run (lines : List String) (machine : Calculator) : Except Obstacle Calculator :=
  lines.foldlM runLine machine

def exec (code : List Instr) (machine : Calculator) : Except Obstacle Calculator :=
  code.foldlM step machine

theorem exec_cons (instr : Instr) (code : List Instr) (machine : Calculator) :
    exec (instr :: code) machine = (machine.step instr).bind (exec code) := rfl

theorem exec_append (code more : List Instr) (machine : Calculator) :
    exec (code ++ more) machine = (exec code machine).bind (exec more) :=
  List.foldlM_append

end Calculator

namespace Operator

def result : Operator → Int → Int → Option Int
  | .add, left, right => some (left + right)
  | .sub, left, right => some (left - right)
  | .mul, left, right => some (left * right)
  | .div, left, right => if right = 0 then none else some (left.tdiv right)
  | .lessThan, left, right => some (truthValue (left < right))
  | .lessOrEqual, left, right => some (truthValue (left ≤ right))
  | .equal, left, right => some (truthValue (left = right))
  | .notEqual, left, right => some (truthValue (left ≠ right))

end Operator

namespace Tree

end Tree

namespace Calculator

def asStack : StackMachine Calculator Obstacle Int where
  step := step
  left := rax
  right := rdi
  stack := stack
  loads machine first second below operands := by
    refine ⟨{ machine with rax := first, rdi := second, stack := below }, ?_, rfl, rfl, rfl⟩
    show exec loadOperands machine = _
    rw [loadOperands, exec_cons, step, operands]
    rfl
  stores machine := ⟨_, rfl, rfl⟩

theorem core_applies (op : Operator) : asStack.Applies .zeroDivisor op op.result := by
  intro machine first second left right
  obtain rfl : machine.rax = first := left
  obtain rfl : machine.rdi = second := right
  cases op with
  | div =>
      by_cases zero : machine.rdi = 0
      · simp only [Operator.result, if_pos zero]
        show exec Operator.div.core machine = .error .zeroDivisor
        simp only [Operator.core, exec_cons, step, Except.bind, if_pos zero]
      · simp only [Operator.result, if_neg zero]
        refine ⟨{ machine with rax := machine.rax.tdiv machine.rdi }, ?_, rfl, rfl⟩
        show exec Operator.div.core machine = _
        simp only [Operator.core, exec_cons, step, Except.bind, if_neg zero]
        rfl
  | add | sub | mul | lessThan | lessOrEqual | equal | notEqual => exact ⟨_, rfl, rfl, rfl⟩

end Calculator

end ExprCompiler
