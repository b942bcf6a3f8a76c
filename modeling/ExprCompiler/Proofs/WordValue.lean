import ExprCompiler.Proofs.Phrase

set_option autoImplicit false

namespace ExprCompiler

abbrev Word := BitVec 64

namespace Word

def truth (holds : Bool) : Word :=
  if holds then 1 else 0

def BadDivision (dividend divisor : Word) : Prop :=
  divisor = 0 ∨ dividend = BitVec.intMin 64 ∧ divisor = -1

instance (dividend divisor : Word) : Decidable (BadDivision dividend divisor) :=
  inferInstanceAs (Decidable (_ ∨ _))

def quotient (dividend divisor : Word) : Word :=
  BitVec.ofInt 64 (dividend.toInt.tdiv divisor.toInt)

end Word

namespace Connective

def apply : Connective → Word → Word → Option Word
  | .equal, left, right => some (Word.truth (left = right))
  | .notEqual, left, right => some (Word.truth (left ≠ right))
  | .less, left, right => some (Word.truth (left.toInt < right.toInt))
  | .lessOrEqual, left, right => some (Word.truth (left.toInt ≤ right.toInt))
  | .greater, left, right => some (Word.truth (left.toInt > right.toInt))
  | .greaterOrEqual, left, right => some (Word.truth (left.toInt ≥ right.toInt))
  | .plus, left, right => some (left + right)
  | .minus, left, right => some (left - right)
  | .times, left, right => some (left * right)
  | .divide, left, right =>
      if Word.BadDivision left right then none else some (Word.quotient left right)

def divided : Connective → Option Word → Option Word → List (Word × Word)
  | .divide, some left, some right => [(left, right)]
  | _, _, _ => []

end Connective

namespace Phrase

variable {layer : Layer}

-- No value if a division in the phrase has none.
def value : {layer : Layer} → Phrase layer → Option Word
  | _, .number token numeral => some (BitVec.ofInt 64 (token.integer numeral))
  | _, .group _ _ _ _ inner => inner.value
  | _, .positive _ _ operand => operand.value
  | _, .negative _ _ operand => operand.value.map fun word => -word
  | _, .single _ part => part.value
  | _, .joined connective _ _ _ left right =>
      left.value.bind fun first => right.value.bind fun second => connective.apply first second

-- The operands of all divisions in the phrase, as far as they have values.
def divisions : {layer : Layer} → Phrase layer → List (Word × Word)
  | _, .number _ _ => []
  | _, .group _ _ _ _ inner => inner.divisions
  | _, .positive _ _ operand => operand.divisions
  | _, .negative _ _ operand => operand.divisions
  | _, .single _ part => part.divisions
  | _, .joined connective _ _ _ left right =>
      left.divisions ++ right.divisions ++ connective.divided left.value right.value

def literals (phrase : Phrase layer) : List Int :=
  phrase.tokens.filterMap Token.numeral?

theorem value_none_iff (phrase : Phrase layer) :
    phrase.value = none ↔ ∃ operands ∈ phrase.divisions, Word.BadDivision operands.1 operands.2 := by
  induction phrase with
  | number token numeral => simp [value, divisions]
  | group opening closing opens closes inner ih => exact ih
  | positive sign written operand ih => exact ih
  | negative sign written operand ih =>
      rw [value, Option.map_eq_none_iff, ih, divisions]
  | single compound part ih => exact ih
  | joined connective inLayer symbol written left right ihLeft ihRight =>
      simp only [value, divisions, List.mem_append, or_and_right, exists_or, ← ihLeft, ← ihRight]
      cases first : left.value with
      | none => simp
      | some dividend =>
          cases second : right.value with
          | none => simp
          | some divisor =>
              cases connective <;> simp [Connective.apply, Connective.divided]

end Phrase

end ExprCompiler
