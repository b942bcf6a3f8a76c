import ExprCompiler.Proofs.WordValue
import Mathlib.Data.List.Forall2

set_option autoImplicit false

namespace ExprCompiler

structure Token.Alike (one other : Token) : Prop where
  kind : one.kind = other.kind
  lexeme : one.kind = .reserved → one.lexeme = other.lexeme
  value : one.kind = .number → one.value = other.value

namespace Token

variable {one other : Token}

theorem Alike.symbol (alike : one.Alike other) (symbol : String) : one.isSymbol symbol = other.isSymbol symbol := by
  by_cases reserved : one.kind = .reserved
  · simp only [isSymbol, isReserved, alike.kind, alike.lexeme reserved]
  · have otherwise : other.kind ≠ .reserved := alike.kind ▸ reserved
    have notOne : (one.kind == .reserved) = false := by simpa using reserved
    have notOther : (other.kind == .reserved) = false := by simpa using otherwise
    simp only [isSymbol, isReserved, notOne, notOther, Bool.false_and]

theorem Alike.number (alike : one.Alike other) : one.isNumber = other.isNumber := by
  simp only [isNumber, alike.kind]

theorem Alike.numeral (alike : one.Alike other) : one.numeral? = other.numeral? := by
  by_cases numeral : one.isNumber = true
  · rw [numeral?, numeral?, ← alike.number, alike.value (beq_iff_eq.mp numeral)]
  · rw [numeral?, numeral?, ← alike.number, if_neg numeral, if_neg numeral]

theorem Alike.integer (alike : one.Alike other) (numeral : one.isNumber = true) (again : other.isNumber = true) :
    one.integer numeral = other.integer again := by
  have same := alike.numeral
  rw [one.numeral_integer numeral, other.numeral_integer again] at same
  exact Option.some.inj same

end Token

theorem alike_append (tokens first second : List Token)
    (alike : List.Forall₂ Token.Alike tokens (first ++ second)) :
    ∃ front back, tokens = front ++ back ∧ List.Forall₂ Token.Alike front first ∧
      List.Forall₂ Token.Alike back second :=
  ⟨tokens.take first.length, tokens.drop first.length, (List.take_append_drop _ _).symm,
    List.forall₂_take_append tokens first second alike, List.forall₂_drop_append tokens first second alike⟩

namespace Phrase

variable {layer : Layer}

-- The phrase with other tokens, which differ in nothing but their places.
structure Rewritten (phrase other : Phrase layer) : Prop where
  expr : other.expr = phrase.expr
  nesting : other.nesting = phrase.nesting
  value : other.value = phrase.value
  divisions : other.divisions = phrase.divisions

theorem rewrite_alike (phrase : Phrase layer) (tokens : List Token)
    (alike : List.Forall₂ Token.Alike tokens phrase.tokens) :
    ∃ other : Phrase layer, other.tokens = tokens ∧ phrase.Rewritten other := by
  induction phrase generalizing tokens with
  | number token numeral =>
      obtain ⟨one, rest, same, empty, rfl⟩ := List.forall₂_cons_right_iff.mp alike
      cases empty
      have again : one.isNumber = true := same.number.trans numeral
      refine ⟨.number one again, rfl, ?_⟩
      have value := same.integer again numeral
      exact ⟨by rw [Phrase.expr, Phrase.expr, value], rfl, by rw [Phrase.value, Phrase.value, value], rfl⟩
  | group opening closing opens closes inner ih =>
      obtain ⟨one, rest, same, later, rfl⟩ := List.forall₂_cons_right_iff.mp alike
      obtain ⟨front, back, rfl, inside, ending⟩ := alike_append rest inner.tokens [closing] later
      obtain ⟨last, empty, sameLast, none, rfl⟩ := List.forall₂_cons_right_iff.mp ending
      cases none
      obtain ⟨other, rfl, written⟩ := ih front inside
      refine ⟨.group one last ((same.symbol _).trans opens) ((sameLast.symbol _).trans closes) other, rfl, ?_⟩
      exact ⟨written.expr, congrArg (· + 1) written.nesting, written.value, written.divisions⟩
  | positive sign written operand ih =>
      obtain ⟨one, rest, same, later, rfl⟩ := List.forall₂_cons_right_iff.mp alike
      obtain ⟨other, rfl, rewritten⟩ := ih rest later
      refine ⟨.positive one ((same.symbol _).trans written) other, rfl, ?_⟩
      exact ⟨rewritten.expr, rewritten.nesting, rewritten.value, rewritten.divisions⟩
  | negative sign written operand ih =>
      obtain ⟨one, rest, same, later, rfl⟩ := List.forall₂_cons_right_iff.mp alike
      obtain ⟨other, rfl, rewritten⟩ := ih rest later
      refine ⟨.negative one ((same.symbol _).trans written) other, rfl, ?_⟩
      exact ⟨congrArg (Expr.binary .sub (.num 0)) rewritten.expr, rewritten.nesting,
        congrArg (Option.map fun word => -word) rewritten.value, rewritten.divisions⟩
  | single compound part ih =>
      obtain ⟨other, rfl, rewritten⟩ := ih tokens alike
      refine ⟨.single compound other, rfl, ?_⟩
      exact ⟨rewritten.expr, rewritten.nesting, rewritten.value, rewritten.divisions⟩
  | joined connective inLayer symbol written left right ihLeft ihRight =>
      obtain ⟨front, back, rfl, first, second⟩ := alike_append tokens left.tokens (symbol :: right.tokens) alike
      obtain ⟨one, rest, same, later, rfl⟩ := List.forall₂_cons_right_iff.mp second
      obtain ⟨newLeft, rfl, leftWritten⟩ := ihLeft front first
      obtain ⟨newRight, rfl, rightWritten⟩ := ihRight rest later
      refine ⟨.joined connective inLayer one ((same.symbol _).trans written) newLeft newRight, rfl, ?_⟩
      constructor
      · rw [Phrase.expr, Phrase.expr, leftWritten.expr, rightWritten.expr]
      · rw [Phrase.nesting, Phrase.nesting, leftWritten.nesting, rightWritten.nesting]
      · rw [Phrase.value, Phrase.value, leftWritten.value, rightWritten.value]
      · rw [Phrase.divisions, Phrase.divisions, leftWritten.divisions, rightWritten.divisions, leftWritten.value,
          rightWritten.value]

end Phrase

end ExprCompiler
