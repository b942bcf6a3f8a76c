import ExprCompiler.Proofs.Layout
import Mathlib.Data.List.Chain
import Mathlib.Data.Nat.Digits.Defs

set_option autoImplicit false

namespace ExprCompiler

namespace Lexeme

def IsNumeral (lexeme : String) : Prop :=
  1 ≤ lexeme.length ∧ lexeme.length ≤ 4300 ∧ ∀ c ∈ lexeme.toList, isDigit c = true

def IsGap (gap : String) : Prop :=
  ∀ c ∈ gap.toList, c = ' ' ∨ c = '\t' ∨ c = '\r' ∨ c = '\n'

def RunTogether (one next : String) : Prop :=
  (IsNumeral one ∧ IsNumeral next) ∨ ((one = "<" ∨ one = ">") ∧ next = "==")

instance (lexeme : String) : Decidable (IsNumeral lexeme) :=
  decidable_of_iff (1 ≤ lexeme.length ∧ lexeme.length ≤ 4300 ∧ lexeme.toList.all isDigit = true)
    (by rw [IsNumeral, List.all_eq_true])

instance (gap : String) : Decidable (IsGap gap) :=
  List.decidableBAll (fun c => c = ' ' ∨ c = '\t' ∨ c = '\r' ∨ c = '\n') gap.toList

instance (one next : String) : Decidable (RunTogether one next) := inferInstanceAs (Decidable (_ ∨ _))

def positionalValue (digits : List Char) : Nat :=
  Nat.ofDigits 10 (digits.reverse.map fun digit => digit.toNat - '0'.toNat)

theorem decimal_value_positional (digits : List Char) : decimalValue digits = positionalValue digits := by
  rw [decimalValue, positionalValue, Nat.ofDigits_eq_foldr, List.foldl_eq_foldr_reverse, List.foldr_map]
  congr
  funext digit value
  exact Nat.add_comm _ _

theorem numeral_filled (lexeme : String) (numeral : IsNumeral lexeme) : lexeme.toList ≠ [] := by
  intro empty
  have positive := numeral.1
  rw [← String.length_toList, empty] at positive
  exact Nat.not_succ_le_zero 0 positive

theorem gap_blank (gap : String) : IsGap gap ↔ ∀ c ∈ gap.toList, isBlank c = true := by
  simp [IsGap, isBlank, or_assoc]

theorem digits_longest_iff (digits later : List Char) (filled : digits ≠ [])
    (all : ∀ c ∈ digits, isDigit c = true) :
    Longest digits later ↔ ∀ c, later.head? = some c → isDigit c = false := by
  constructor
  · intro longest c starts
    have dropped := (digits_exact digits later all longest).2
    have stopped := List.head?_dropWhile_not isDigit (digits ++ later)
    rw [dropped, starts] at stopped
    exact stopped
  · intro stopped
    have ended : later.takeWhile isDigit = [] ∧ later.dropWhile isDigit = later := by
      cases later with
      | nil => exact ⟨rfl, rfl⟩
      | cons c later => simp [stopped c rfl]
    cases digits with
    | nil => exact absurd rfl filled
    | cons c rest =>
        have longest := digits_longest c (rest ++ later) (all c (by simp))
        rw [← List.cons_append, List.takeWhile_append_of_pos all, List.dropWhile_append_of_pos all, ended.1, ended.2,
          List.append_nil] at longest
        exact longest

-- A long operator starts like a short one only if that is a comparison, and then goes on with `=`.
theorem long_operator_start (short long : String) (shortListed : short ∈ shortOperators)
    (longListed : long ∈ longOperators) (same : long.toList.head? = short.toList.head?) :
    (short = "<" ∨ short = ">") ∧ long.toList.tail = ['='] := by
  revert same
  have all : ∀ short ∈ shortOperators, ∀ long ∈ longOperators, long.toList.head? = short.toList.head? →
      (short = "<" ∨ short = ">") ∧ long.toList.tail = ['='] := by decide
  exact all short shortListed long longListed

theorem short_operator_text (short : String) (listed : short ∈ shortOperators) : ∃ c, short.toList = [c] := by
  have single : ∀ short ∈ shortOperators, short.toList.length = 1 := by decide
  exact List.length_eq_one_iff.mp (single short listed)

theorem operator_longest_iff (operator : String) (later : List Char) (listed : operator ∈ operators) :
    Longest operator.toList later ↔ (operator = "<" ∨ operator = ">" → later.head? ≠ some '=') := by
  constructor
  · rintro longest comparison starts
    obtain ⟨rest, rfl⟩ := List.head?_eq_some_iff.mp starts
    rcases comparison with rfl | rfl
    · have shorter := longest "<=".toList (.inr ⟨"<=", by decide, rfl⟩) ⟨rest, rfl⟩
      exact absurd shorter (by decide)
    · have shorter := longest ">=".toList (.inr ⟨">=", by decide, rfl⟩) ⟨rest, rfl⟩
      exact absurd shorter (by decide)
  · intro apart longer lexeme fits
    obtain ⟨c, rest, text, noDigit, _⟩ := operator_start operator listed
    rcases lexeme with ⟨filled, digits⟩ | ⟨other, otherListed, rfl⟩
    · cases longer with
      | nil => exact absurd rfl filled
      | cons d longer =>
          rw [text, List.cons_append, List.cons_prefix_cons] at fits
          rw [← fits.1, digits d (by simp)] at noDigit
          cases noDigit
    · rw [String.length_toList, String.length_toList]
      have short : ∀ operator ∈ operators, 0 < operator.length ∧ operator.length ≤ 2 := by decide
      have long : ∀ operator ∈ longOperators, operator.length = 2 := by decide
      have single : ∀ operator ∈ shortOperators, operator.length = 1 := by decide
      rcases List.mem_append.mp listed with isLong | isShort
      · rw [long operator isLong]
        exact (short other otherListed).2
      · rcases List.mem_append.mp otherListed with otherLong | otherShort
        · -- Only a comparison could be the start of the other operator.
          exfalso
          obtain ⟨d, single⟩ := short_operator_text operator isShort
          obtain ⟨e, tail, otherText, _⟩ := operator_start other otherListed
          rw [single, otherText, List.cons_append, List.cons_prefix_cons] at fits
          obtain ⟨rfl, fits⟩ := fits
          obtain ⟨comparison, goesOn⟩ := long_operator_start operator other isShort otherLong (by simp [single, otherText])
          rw [otherText, List.tail_cons] at goesOn
          subst goesOn
          obtain ⟨behind, split⟩ := fits
          exact apart comparison (by rw [← List.nil_append later, ← split]; rfl)
        · rw [single other otherShort, single operator isShort]

end Lexeme

structure Piece where
  lexeme : String
  gap : String
deriving DecidableEq, Repr

def written : String → List Piece → String
  | front, [] => front
  | front, piece :: later => front ++ piece.lexeme ++ written piece.gap later

theorem written_cons (front : String) (piece : Piece) (later : List Piece) :
    (written front (piece :: later)).toList =
      front.toList ++ (piece.lexeme.toList ++ (written piece.gap later).toList) := by
  rw [written, String.toList_append, String.toList_append, List.append_assoc]

structure Spaced (front : String) (pieces : List Piece) : Prop where
  front : Lexeme.IsGap front
  gaps : ∀ piece ∈ pieces, Lexeme.IsGap piece.gap
  lexemes : ∀ piece ∈ pieces, Lexeme.IsNumeral piece.lexeme ∨ piece.lexeme ∈ Lexeme.operators
  apart : pieces.IsChain fun one next => Lexeme.RunTogether one.lexeme next.lexeme → one.gap ≠ ""

instance (front : String) (pieces : List Piece) : Decidable (Spaced front pieces) :=
  decidable_of_iff
    (Lexeme.IsGap front ∧ (∀ piece ∈ pieces, Lexeme.IsGap piece.gap) ∧
      (∀ piece ∈ pieces, Lexeme.IsNumeral piece.lexeme ∨ piece.lexeme ∈ Lexeme.operators) ∧
      pieces.IsChain fun one next => Lexeme.RunTogether one.lexeme next.lexeme → one.gap ≠ "")
    ⟨fun ⟨front, gaps, lexemes, apart⟩ => ⟨front, gaps, lexemes, apart⟩,
      fun spaced => ⟨spaced.front, spaced.gaps, spaced.lexemes, spaced.apart⟩⟩

namespace Spaced

variable {front : String} {piece : Piece} {later : List Piece}

theorem tail (spaced : Spaced front (piece :: later)) : Spaced piece.gap later :=
  ⟨spaced.gaps piece (by simp), fun other member => spaced.gaps other (by simp [member]),
    fun other member => spaced.lexemes other (by simp [member]), spaced.apart.tail⟩

-- What comes right behind a lexeme is a blank, or the start of a lexeme that does not run together
-- with it.
theorem behind (spaced : Spaced front (piece :: later)) (c : Char)
    (starts : (written piece.gap later).toList.head? = some c) :
    Lexeme.isBlank c = true ∨ ∃ next ∈ later, next.lexeme.toList.head? = some c ∧
      (Lexeme.IsNumeral next.lexeme ∨ next.lexeme ∈ Lexeme.operators) ∧
      ¬ Lexeme.RunTogether piece.lexeme next.lexeme := by
  have blanks := (Lexeme.gap_blank piece.gap).mp (spaced.gaps piece (by simp))
  cases gap : piece.gap.toList with
  | cons d rest =>
      left
      have first : (written piece.gap later).toList.head? = some d := by
        cases later with
        | nil => simp [written, gap]
        | cons next later => simp [written_cons, gap]
      rw [starts] at first
      cases first
      exact blanks c (by simp [gap])
  | nil =>
      right
      have empty : piece.gap = "" := String.toList_inj.mp gap
      cases later with
      | nil => simp [written, gap] at starts
      | cons next later =>
          have known := spaced.lexemes next (by simp)
          have filled : next.lexeme.toList ≠ [] := by
            rcases known with numeral | listed
            · exact Lexeme.numeral_filled _ numeral
            · obtain ⟨d, rest, text, _⟩ := Lexeme.operator_start _ listed
              simp [text]
          refine ⟨next, by simp, ?_, known, ?_⟩
          · rw [written_cons, gap, List.nil_append, List.head?_append_of_ne_nil _ filled] at starts
            exact starts
          · intro together
            exact (List.isChain_cons_cons.mp spaced.apart).1 together empty

theorem longest (spaced : Spaced front (piece :: later)) :
    Lexeme.Longest piece.lexeme.toList (written piece.gap later).toList := by
  rcases spaced.lexemes piece (by simp) with numeral | listed
  · rw [Lexeme.digits_longest_iff _ _ (Lexeme.numeral_filled _ numeral) numeral.2.2]
    intro c starts
    rcases spaced.behind c starts with blank | ⟨next, member, first, known, apart⟩
    · cases digit : Lexeme.isDigit c with
      | false => rfl
      | true => rw [Lexeme.digit_not_blank c digit] at blank; cases blank
    · rcases known with nextNumeral | nextListed
      · exact absurd (.inl ⟨numeral, nextNumeral⟩) apart
      · obtain ⟨d, rest, text, noDigit, _⟩ := Lexeme.operator_start _ nextListed
        rw [text] at first
        cases first
        exact noDigit
  · rw [Lexeme.operator_longest_iff _ _ listed]
    intro comparison starts
    rcases spaced.behind '=' starts with blank | ⟨next, member, first, known, apart⟩
    · exact absurd blank (by decide)
    · rcases known with nextNumeral | nextListed
      · have digit := nextNumeral.2.2 '=' (List.mem_of_mem_head? first)
        exact absurd digit (by decide)
      · have double : ∀ operator ∈ Lexeme.operators, operator.toList.head? = some '=' → operator = "==" := by decide
        exact apart (.inr ⟨comparison, double _ nextListed first⟩)

end Spaced

theorem spelled_token (lexeme : String) (known : Lexeme.IsNumeral lexeme ∨ lexeme ∈ Lexeme.operators) (offset : Nat) :
    ∃ token : Token, token.Spelled ∧ token.lexeme = lexeme ∧ token.location.offset = offset := by
  rcases known with numeral | listed
  · refine ⟨.onFirstLine .number lexeme (some (Lexeme.decimalValue lexeme.toList)) "" offset, ?_, rfl, rfl⟩
    exact .number rfl (Lexeme.numeral_filled _ numeral) numeral.2.2 numeral.2.1 rfl
  · exact ⟨.onFirstLine .reserved lexeme none "" offset, .operator rfl listed rfl, rfl, rfl⟩

theorem written_layout (front : String) (pieces : List Piece) (spaced : Spaced front pieces) (start : Nat) :
    ∃ tokens, Layout start (written front pieces).toList tokens ∧
      tokens.map Token.lexeme = pieces.map Piece.lexeme := by
  induction pieces generalizing front start with
  | nil => exact ⟨[], .blank start front.toList ((Lexeme.gap_blank front).mp spaced.front), rfl⟩
  | cons piece later ih =>
      obtain ⟨token, spelled, same, placed⟩ := spelled_token piece.lexeme (spaced.lexemes piece (by simp))
        (start + front.toList.length)
      obtain ⟨tokens, layout, lexemes⟩ := ih piece.gap spaced.tail
        (start + front.toList.length + token.lexeme.length)
      refine ⟨token :: tokens, ?_, by simp [same, lexemes]⟩
      rw [written_cons, ← same]
      exact .token start front.toList ((Lexeme.gap_blank front).mp spaced.front) token _ tokens spelled
        (same ▸ spaced.longest) placed layout

theorem layout_written (start : Nat) (text : List Char) (tokens : List Token) (layout : Layout start text tokens) :
    ∃ (front : String) (pieces : List Piece), text = (written front pieces).toList ∧ Lexeme.IsGap front ∧
      (∀ piece ∈ pieces, Lexeme.IsGap piece.gap) ∧ pieces.map Piece.lexeme = tokens.map Token.lexeme ∧
      ∀ (index : Nat) (token : Token), tokens[index]? = some token →
        token.location.offset = (start + (written front (pieces.take index)).length : Nat) := by
  induction layout with
  | blank start gap blanks =>
      refine ⟨String.ofList gap, [], by simp [written], ?_, by simp, rfl, by simp⟩
      rw [Lexeme.gap_blank, String.toList_ofList]
      exact blanks
  | token start gap blanks token later tokens spelled longest placed rest ih =>
      obtain ⟨behind, pieces, rfl, blankBehind, blankGaps, lexemes, offsets⟩ := ih
      refine ⟨String.ofList gap, ⟨token.lexeme, behind⟩ :: pieces, ?_, ?_, ?_, by simp [lexemes], ?_⟩
      · rw [written_cons, String.toList_ofList]
      · rw [Lexeme.gap_blank, String.toList_ofList]
        exact blanks
      · intro piece member
        rcases List.mem_cons.mp member with rfl | inside
        · exact blankBehind
        · exact blankGaps piece inside
      · intro index other found
        cases index with
        | zero =>
            cases found
            simpa [written] using placed
        | succ index =>
            rw [offsets index other found, List.take_succ_cons, written, String.length_append, String.length_append,
              String.length_ofList]
            exact congrArg Nat.cast (by dsimp only; omega)

end ExprCompiler
