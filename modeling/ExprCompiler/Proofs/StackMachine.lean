import ExprCompiler.Assembly.Listing

set_option autoImplicit false

namespace ExprCompiler

structure StackMachine (State Failure Value : Type) where
  step : State → Instr → Except Failure State
  left : State → Value
  right : State → Value
  stack : State → List Value
  loads : ∀ (state : State) (first second : Value) (below : List Value), stack state = second :: first :: below →
    ∃ loaded, loadOperands.foldlM step state = .ok loaded ∧ left loaded = first ∧ right loaded = second ∧
      stack loaded = below
  stores : ∀ state : State, ∃ after, [Instr.push .rax].foldlM step state = .ok after ∧
    stack after = left state :: stack state

namespace StackMachine

variable {State Failure Value : Type} (machine : StackMachine State Failure Value) (fault : Failure)

-- The code leaves the value on top of what is below, or faults where there is none. Registers may
-- change.
def Leaves (code : List Instr) (value : Option Value) (below : List Value) (state : State) : Prop :=
  match value with
  | some value => ∃ after, code.foldlM machine.step state = .ok after ∧ machine.stack after = value :: below
  | none => code.foldlM machine.step state = .error fault

def Computes (code : List Instr) (value : Option Value) : Prop :=
  ∀ state, machine.Leaves fault code value (machine.stack state) state

def Applies (op : Operator) (apply : Value → Value → Option Value) : Prop :=
  ∀ state first second, machine.left state = first → machine.right state = second →
    match apply first second with
    | some value => ∃ after, op.core.foldlM machine.step state = .ok after ∧ machine.left after = value ∧
        machine.stack after = machine.stack state
    | none => op.core.foldlM machine.step state = .error fault

variable {machine fault}

theorem leaves_behind (front code : List Instr) (value : Option Value) (below : List Value) (state middle : State)
    (ran : front.foldlM machine.step state = .ok middle) (leaves : machine.Leaves fault code value below middle) :
    machine.Leaves fault (front ++ code) value below state := by
  have joined : (front ++ code).foldlM machine.step state = code.foldlM machine.step middle := by
    rw [List.foldlM_append, ran]
    rfl
  cases value with
  | none => exact joined.trans leaves
  | some value =>
      obtain ⟨after, later, top⟩ := leaves
      exact ⟨after, joined.trans later, top⟩

theorem faults_behind (front code : List Instr) (below : List Value) (state : State)
    (failed : front.foldlM machine.step state = .error fault) :
    machine.Leaves fault (front ++ code) none below state := by
  show (front ++ code).foldlM machine.step state = .error fault
  rw [List.foldlM_append, failed]
  rfl

theorem operator_leaves (op : Operator) (apply : Value → Value → Option Value)
    (applies : machine.Applies fault op apply) (state : State) (first second : Value) (below : List Value)
    (operands : machine.stack state = second :: first :: below) :
    machine.Leaves fault op.code (apply first second) below state := by
  obtain ⟨loaded, load, left, right, rfl⟩ := machine.loads state first second below operands
  have core := applies loaded first second left right
  rw [op.code_apply, List.append_assoc]
  apply leaves_behind _ _ _ _ state loaded load
  cases applied : apply first second with
  | none =>
      simp only [applied] at core
      exact faults_behind op.core _ _ loaded core
  | some value =>
      simp only [applied] at core
      obtain ⟨after, ran, rfl, kept⟩ := core
      rw [← kept]
      exact leaves_behind op.core _ _ _ loaded after ran (machine.stores after)

-- The right operand is computed on top of the left one.
theorem computes_binary (op : Operator) (apply : Value → Value → Option Value)
    (applies : machine.Applies fault op apply) (left right : List Instr) (first second : Option Value)
    (leftComputes : machine.Computes fault left first) (rightComputes : machine.Computes fault right second) :
    machine.Computes fault (left ++ right ++ op.code)
      (first.bind fun one => second.bind fun other => apply one other) := by
  intro state
  have leftRun := leftComputes state
  rw [List.append_assoc]
  cases first with
  | none => exact faults_behind left _ _ state leftRun
  | some one =>
      obtain ⟨middle, leftRan, leftStack⟩ := leftRun
      have rightRun := rightComputes middle
      apply leaves_behind left _ _ _ state middle leftRan
      cases second with
      | none => exact faults_behind right _ _ middle rightRun
      | some other =>
          obtain ⟨after, rightRan, rightStack⟩ := rightRun
          apply leaves_behind right _ _ _ middle after rightRan
          exact operator_leaves op apply applies after one other _ (by rw [rightStack, leftStack])

end StackMachine

end ExprCompiler
