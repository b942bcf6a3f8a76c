set_option autoImplicit false

namespace ExprCompiler.Text

def commonStart : List Char → List Char → Nat
  | a :: as, b :: bs => if a = b then commonStart as bs + 1 else 0
  | _, _ => 0

structure Block where
  left : Nat
  right : Nat
  length : Nat
deriving DecidableEq, Repr

-- Among equals the one that starts first on the left, then on the right.
def longestBlock (as bs : List Char) : Block :=
  let starts := (List.range as.length).flatMap fun i => (List.range bs.length).map fun j => (i, j)
  starts.foldl (fun best (i, j) =>
    let length := commonStart (as.drop i) (bs.drop j)
    if best.length < length then ⟨i, j, length⟩ else best) ⟨0, 0, 0⟩

-- `bound` is at least the length of `as`.
def commonCount : (bound : Nat) → List Char → List Char → Nat
  | 0, _, _ => 0
  | bound + 1, as, bs =>
      let block := longestBlock as bs
      if block.length = 0 then 0
      else
        commonCount bound (as.take block.left) (bs.take block.right) + block.length +
          commonCount bound (as.drop (block.left + block.length))
            (bs.drop (block.right + block.length))

structure Likeness where
  common : Nat
  total : Nat
deriving DecidableEq, Repr

namespace Likeness

def ofTexts (a b : String) : Likeness :=
  ⟨2 * commonCount a.length a.toList b.toList, a.length + b.length⟩

def isClose (likeness : Likeness) : Bool :=
  3 * likeness.total ≤ 5 * likeness.common

def atLeast (a b : Likeness) : Bool :=
  b.common * a.total ≤ a.common * b.total

end Likeness

def closeMatches (text : String) (candidates : List String) : List String :=
  let rated := candidates.map fun candidate => (Likeness.ofTexts candidate text, candidate)
  let ranked := (rated.filter fun entry => entry.1.isClose).mergeSort fun a b =>
    if b.1.atLeast a.1 then a.1.atLeast b.1 && b.2 ≤ a.2 else true
  (ranked.take 3).map Prod.snd

end ExprCompiler.Text
