import ExprCompiler.Expr
import ExprCompiler.Token

set_option autoImplicit false

namespace ExprCompiler

-- The value of a check that is known to pass.
def settled {ε α : Type} : (result : Except ε α) → result.isOk = true → α
  | .ok value, _ => value

inductive Tree where
  | num (value : Int) (span : Option Span)
  | binary (op : Operator) (left right : Tree) (span : Option Span)
deriving Repr

inductive TreeError where
  | unknownKind (label : String)
  | notBinary (kind : NodeKind)
  | missingOperand (op : Operator)
deriving DecidableEq, Repr

namespace TreeError

def message : TreeError → String
  | .unknownKind label => s!"{Text.quoted label} is not a valid NodeKind"
  | .notBinary kind => s!"{kind.qualified} is not a binary node kind"
  | .missingOperand op => s!"{op.label} node requires both operands"

end TreeError

namespace Tree

def ofKind (kind : NodeKind) (left right : Option Tree) (span : Option Span) : Except TreeError Tree :=
  match kind with
  | .num => .error (.notBinary .num)
  | .binary op =>
      match left, right with
      | some left, some right => .ok (.binary op left right span)
      | _, _ => .error (.missingOperand op)

def ofParts (label : String) (left right : Option Tree) (span : Option Span) : Except TreeError Tree :=
  match NodeKind.ofLabel? label with
  | none => .error (.unknownKind label)
  | some kind => ofKind kind left right span

def span : Tree → Option Span
  | .num _ span => span
  | .binary _ _ _ span => span

def withSpan (span : Option Span) : Tree → Tree
  | .num value _ => .num value span
  | .binary op left right _ => .binary op left right span

def kind : Tree → NodeKind
  | .num _ _ => .num
  | .binary op _ _ _ => .binary op

def value? : Tree → Option Int
  | .num value _ => some value
  | .binary _ _ _ _ => none

def children : Tree → List Tree
  | .num _ _ => []
  | .binary _ left right _ => [left, right]

-- Trees with the same expression are equal as programs.
def expr : Tree → Expr
  | .num value _ => .num value
  | .binary op left right _ => .binary op left.expr right.expr

def combine (op : Operator) (left right : Tree) : Tree :=
  settled (ofKind (.binary op) (some left) (some right) (Span.join left.span right.span)) rfl

theorem combine_apply (op : Operator) (left right : Tree) :
    combine op left right = .binary op left right (Span.join left.span right.span) := rfl

-- A tree without a span stays without.
def stretch (tree : Tree) (first : Token) (last : Option Token) : Tree :=
  match tree.span with
  | none => tree
  | some span =>
      let stop := match last with
        | some token => token.stop
        | none => span.stop
      tree.withSpan (some ⟨first.location, stop⟩)

end Tree

end ExprCompiler
