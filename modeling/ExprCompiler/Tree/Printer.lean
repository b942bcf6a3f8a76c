import ExprCompiler.Tree.Traversal

set_option autoImplicit false

namespace ExprCompiler

namespace Tree

-- Nodes in post-order run over a stack of texts: an operator replaces its two operands.
def replay : List Tree → List String → Except PrintError (List String)
  | [], stack => .ok stack
  | .num value _ :: later, stack =>
      match Text.decimal value with
      | .error error => .error error
      | .ok digits => replay later (s!"Num({digits})" :: stack)
  | .binary op _ _ _ :: later, right :: left :: stack =>
      replay later (s!"{op.label}({left}, {right})" :: stack)
  | .binary _ _ _ _ :: _, _ => .error .emptyStack

-- The text that was put down first.
def bottom (stack : List String) : Except PrintError String :=
  match stack.getLast? with
  | none => .error .emptyStack
  | some text => .ok text

def text (tree : Tree) : Except PrintError String :=
  (replay tree.postOrder []).bind bottom

def nodeLabel : Tree → Except PrintError String
  | .num value _ => (Text.decimal value).map fun digits => s!"Num {digits}"
  | .binary op _ _ _ => .ok op.label

def outlineFrom (indent : String) : List (Nat × Tree) → List String → Except PrintError (List String)
  | [], found => .ok found.reverse
  | (level, tree) :: later, found =>
      match tree.nodeLabel with
      | .error error => .error error
      | .ok label =>
          let line := String.join (List.replicate level indent) ++ label
          match tree with
          | .num _ _ => outlineFrom indent later (line :: found)
          | .binary _ left right _ =>
              outlineFrom indent ((level + 1, left) :: (level + 1, right) :: later) (line :: found)
termination_by pending => (pending.map fun entry => entry.2.size).foldr (· + ·) 0
decreasing_by
  all_goals simp [size]
  all_goals omega

def outline (tree : Tree) (indent : String) : Except PrintError String :=
  (outlineFrom indent [(0, tree)] []).map "\n".intercalate

def defaultIndent : String := "  "

def details : Tree → Except PrintError String
  | .num value _ => (Text.decimal value).map fun digits => s!"Num(value={digits})"
  | .binary op left right _ => do
      let first ← left.details
      let second ← right.details
      let kind := NodeKind.binary op
      return s!"BinaryOp(kind=<{kind.qualified}: '{kind.label}'>, left={first}, right={second})"

end Tree

end ExprCompiler
