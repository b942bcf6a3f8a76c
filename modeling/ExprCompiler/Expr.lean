set_option autoImplicit false

namespace ExprCompiler

-- The reverse comparisons and the signs are written with these.
inductive Operator where
  | add
  | sub
  | mul
  | div
  | lessThan
  | lessOrEqual
  | equal
  | notEqual
deriving DecidableEq, Repr

inductive Expr where
  | num (value : Int)
  | binary (op : Operator) (left right : Expr)
deriving DecidableEq, Repr

inductive NodeKind where
  | num
  | binary (op : Operator)
deriving DecidableEq, Repr

namespace NodeKind

def all : List NodeKind :=
  [.num, .binary .add, .binary .sub, .binary .mul, .binary .div, .binary .lessThan,
    .binary .lessOrEqual, .binary .equal, .binary .notEqual]

def label : NodeKind → String
  | .num => "Num"
  | .binary .add => "Add"
  | .binary .sub => "Sub"
  | .binary .mul => "Mul"
  | .binary .div => "Div"
  | .binary .lessThan => "LessThan"
  | .binary .lessOrEqual => "LessOrEqual"
  | .binary .equal => "Equal"
  | .binary .notEqual => "NotEqual"

def constant : NodeKind → String
  | .num => "NUM"
  | .binary .add => "ADD"
  | .binary .sub => "SUB"
  | .binary .mul => "MUL"
  | .binary .div => "DIV"
  | .binary .lessThan => "LESS_THAN"
  | .binary .lessOrEqual => "LESS_OR_EQUAL"
  | .binary .equal => "EQUAL"
  | .binary .notEqual => "NOT_EQUAL"

def qualified (kind : NodeKind) : String :=
  s!"NodeKind.{kind.constant}"

def ofLabel? (label : String) : Option NodeKind :=
  all.find? fun kind => kind.label == label

end NodeKind

def Operator.label (op : Operator) : String :=
  NodeKind.label (.binary op)

end ExprCompiler
