import ExprCompiler.Text.Display

set_option autoImplicit false

namespace ExprCompiler

inductive Register where
  | rax
  | rdi
deriving DecidableEq, Repr

namespace Register

def text : Register → String
  | .rax => "rax"
  | .rdi => "rdi"

end Register

inductive Condition where
  | equal
  | notEqual
  | less
  | lessOrEqual
deriving DecidableEq, Repr

namespace Condition

def suffix : Condition → String
  | .equal => "e"
  | .notEqual => "ne"
  | .less => "l"
  | .lessOrEqual => "le"

end Condition

-- Operators find their left operand in `rax`, which takes the result, and their right one in `rdi`.
inductive Instr where
  | pushValue (value : Int)
  | push (register : Register)
  | pop (register : Register)
  | add
  | sub
  | imul
  | cqo
  | idiv
  | cmp
  | set (condition : Condition)
  | movzb
  | ret
deriving DecidableEq, Repr

namespace Instr

def text : Instr → Except PrintError String
  | .pushValue value => (Text.decimal value).map fun digits => s!"push {digits}"
  | .push register => .ok s!"push {register.text}"
  | .pop register => .ok s!"pop {register.text}"
  | .add => .ok "add rax, rdi"
  | .sub => .ok "sub rax, rdi"
  | .imul => .ok "imul rax, rdi"
  | .cqo => .ok "cqo"
  | .idiv => .ok "idiv rdi"
  | .cmp => .ok "cmp rax, rdi"
  | .set condition => .ok s!"set{condition.suffix} al"
  | .movzb => .ok "movzb rax, al"
  | .ret => .ok "ret"

end Instr

end ExprCompiler
