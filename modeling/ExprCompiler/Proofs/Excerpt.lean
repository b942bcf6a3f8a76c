import ExprCompiler.Proofs.SourceLine

set_option autoImplicit false

namespace ExprCompiler

-- The offset of the first character of a line: each line in front of it ends with a newline.
def lineStart (lines : List (List Char)) (number : Nat) : Nat :=
  ((lines.take number).flatMap (· ++ ['\n'])).length

theorem line_unbroken (before after : List Char) : '\n' ∉ lastLine before ++ after.takeWhile (· != '\n') := by
  intro member
  rcases List.mem_append.mp member with inFront | behind
  · exact absurd (last_line_unbroken before '\n' inFront) (by decide)
  · exact absurd (List.all_eq_true.mp List.all_takeWhile '\n' behind) (by decide)

end ExprCompiler
