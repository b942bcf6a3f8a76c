import ExprCompiler.Proofs.Place
import ExprCompiler.Proofs.Written

set_option autoImplicit false

namespace ExprCompiler

inductive Token.Delimited (token : Token) (before after : List Char) : Prop where
  | number (kind : token.kind = .number) (filled : token.lexeme.toList ≠ [])
      (digits : ∀ c ∈ token.lexeme.toList, Lexeme.isDigit c = true)
      (value : token.value = some (Lexeme.positionalValue token.lexeme.toList : Int))
      (starts : ∀ c, before.getLast? = some c → Lexeme.isDigit c = false)
      (stops : ∀ c, after.head? = some c → Lexeme.isDigit c = false)
  | operator (kind : token.kind = .reserved) (listed : token.lexeme ∈ Lexeme.operators)
      (value : token.value = none)
      (stops : token.lexeme = "<" ∨ token.lexeme = ">" → after.head? ≠ some '=')

theorem digit_ends (token : Token) (later : List Char) (spelled : token.Spelled)
    (longest : Lexeme.Longest token.lexeme.toList later) (c d : Char) (last : token.lexeme.toList.getLast? = some c)
    (digit : Lexeme.isDigit c = true) (next : later.head? = some d) : Lexeme.isDigit d = false := by
  cases spelled with
  | number kind filled digits short value => exact (Lexeme.digits_longest_iff _ _ filled digits).mp longest d next
  | operator kind listed value =>
      have none : ∀ operator ∈ Lexeme.operators, operator.toList.any Lexeme.isDigit = false := by decide
      have noDigit := List.any_eq_false.mp (none token.lexeme listed) c (List.mem_of_getLast? last)
      exact absurd digit noDigit

theorem number_starts (front gap lexeme later : List Char) (blanks : ∀ c ∈ gap, Lexeme.isBlank c = true)
    (filled : lexeme ≠ []) (digits : ∀ c ∈ lexeme, Lexeme.isDigit c = true)
    (apart : ∀ c d, front.getLast? = some c → Lexeme.isDigit c = true →
      (gap ++ (lexeme ++ later)).head? = some d → Lexeme.isDigit d = false)
    (c : Char) (last : (front ++ gap).getLast? = some c) : Lexeme.isDigit c = false := by
  by_cases empty : gap = []
  · subst empty
    rw [List.append_nil] at last
    have first : ([] ++ (lexeme ++ later)).head? = some (lexeme.head filled) := by
      rw [List.nil_append, List.head?_append_of_ne_nil _ filled, List.head?_eq_some_head filled]
    by_cases digit : Lexeme.isDigit c = true
    · have noDigit := apart c _ last digit first
      rw [digits _ (List.head_mem filled)] at noDigit
      cases noDigit
    · exact Bool.not_eq_true _ ▸ digit
  · rw [List.getLast?_append_of_ne_nil _ empty] at last
    have blank := blanks c (List.mem_of_getLast? last)
    by_cases digit : Lexeme.isDigit c = true
    · rw [Lexeme.digit_not_blank c digit] at blank
      cases blank
    · exact Bool.not_eq_true _ ▸ digit

theorem layout_delimited (start : Nat) (text : List Char) (tokens : List Token) (layout : Layout start text tokens)
    (front : List Char) (width : front.length = start)
    (apart : ∀ c d, front.getLast? = some c → Lexeme.isDigit c = true → text.head? = some d →
      Lexeme.isDigit d = false)
    (token : Token) (member : token ∈ tokens) :
    ∃ before after, front ++ text = before ++ token.lexeme.toList ++ after ∧
      (before.length : Int) = token.location.offset ∧ token.Delimited before after := by
  induction layout generalizing front with
  | blank start gap blanks => cases member
  | token start gap blanks first later tokens spelled longest placed rest ih =>
      have filled : first.lexeme.toList ≠ [] := by
        obtain ⟨c, lexeme, split, _⟩ := Token.Spelled.first first spelled
        simp [split]
      rcases List.mem_cons.mp member with rfl | inside
      · refine ⟨front ++ gap, later, by simp only [List.append_assoc], ?_, ?_⟩
        · rw [placed, List.length_append, width]
        · cases spelled with
          | operator kind listed value =>
              exact .operator kind listed value ((Lexeme.operator_longest_iff _ _ listed).mp longest)
          | number kind _ digits short value =>
              refine .number kind filled digits ?_ ?_ ((Lexeme.digits_longest_iff _ _ filled digits).mp longest)
              · rw [value, Lexeme.decimal_value_positional]
              · exact number_starts front gap _ later blanks filled digits apart
      · obtain ⟨before, after, split, offset, delimited⟩ := ih (front ++ gap ++ first.lexeme.toList)
          (by simp only [List.length_append, String.length_toList, width])
          (by
            intro c d last digit next
            rw [List.getLast?_append_of_ne_nil _ filled] at last
            exact digit_ends first later spelled longest c d last digit next)
          inside
        exact ⟨before, after, by rw [← split]; simp only [List.append_assoc], offset, delimited⟩

theorem scan_end (file source : String) (tokens : List Token) (scanned : Token.scan file source = .ok tokens) :
    ∃ (front : List Token) (last : Token), tokens = front ++ [last] ∧ last.location.offset = source.length := by
  obtain ⟨front, final, inTurn, ending⟩ := scan_in_turn file source.toList [] (TextCursor.atStart source.toList)
    (Nat.le_refl _)
  unfold Token.scan Scan.ofSource at scanned
  rcases ending with ⟨empty, scan⟩ | ⟨error, after, _, scan⟩
  · rw [scan] at scanned
    cases scanned
    refine ⟨front, final.skipBlanks.endToken file, rfl, ?_⟩
    have reached := (inTurn.reached (TextCursor.reached_start source.toList)).further
      (final.rest.takeWhile Lexeme.isBlank).length
    have offset := reached.end_offset empty
    rw [String.length_toList] at offset
    exact congrArg Nat.cast offset
  · rw [scan] at scanned
    cases scanned

-- The mark at the end stands behind the text, and the other tokens at their offsets in it.
theorem scan_lossless (file source : String) (tokens : List Token) (scanned : Token.scan file source = .ok tokens) :
    ∃ (front : List Token) (last : Token), tokens = front ++ [last] ∧ last.isEnd = true ∧
      last.location.offset = source.length ∧ (∀ token ∈ front, token.isEnd = false) ∧
      (∃ (gap : String) (pieces : List Piece), source = written gap pieces ∧ Lexeme.IsGap gap ∧
        (∀ piece ∈ pieces, Lexeme.IsGap piece.gap) ∧ pieces.map Piece.lexeme = front.map Token.lexeme ∧
        ∀ (index : Nat) (token : Token), front[index]? = some token →
          token.location.offset = (written gap (pieces.take index)).length) ∧
      ∀ token ∈ front, ∃ before after, source.toList = before ++ token.lexeme.toList ++ after ∧
        (before.length : Int) = token.location.offset ∧ token.Delimited before after := by
  obtain ⟨front, last, rfl, layout, ends⟩ := scan_layout file source tokens scanned
  obtain ⟨_, _, split, offset⟩ := scan_end file source _ scanned
  obtain ⟨rfl, same⟩ := List.append_inj' split rfl
  cases same
  refine ⟨front, last, rfl, ends, offset, ?_, ?_, ?_⟩
  · intro token member
    exact Token.Spelled.not_end token (layout_spelled 0 _ front layout token member)
  · obtain ⟨gap, pieces, text, blank, gaps, lexemes, offsets⟩ := layout_written 0 _ front layout
    refine ⟨gap, pieces, String.toList_inj.mp text, blank, gaps, lexemes, ?_⟩
    intro index token found
    rw [offsets index token found, Nat.zero_add]
  · intro token member
    exact layout_delimited 0 _ front layout [] rfl (by simp) token member

theorem unspaced_operators_lossless :
    let front := [Token.onFirstLine .number "1" (some 1) "" 0, .onFirstLine .reserved "<=" none "" 1,
      .onFirstLine .number "023" (some 23) "" 3, .onFirstLine .reserved ">" none "" 7,
      .onFirstLine .reserved "(" none "" 8]
    let last := Token.onFirstLine .endOfInput "" none "" 10
    Token.scan "" "1<=023 >( " = .ok (front ++ [last]) ∧ last.location.offset = ("1<=023 >( ".length : Int) ∧
      ∃ (gap : String) (pieces : List Piece), "1<=023 >( " = written gap pieces ∧
        pieces.map Piece.lexeme = ["1", "<=", "023", ">", "("] := by
  intro front last
  have scanned : Token.scan "" "1<=023 >( " = .ok (front ++ [last]) := rfl
  obtain ⟨_, _, split, _, offset, _, ⟨gap, pieces, text, _, _, lexemes, _⟩, _⟩ :=
    scan_lossless "" "1<=023 >( " _ scanned
  obtain ⟨rfl, same⟩ := List.append_inj' split rfl
  cases same
  exact ⟨scanned, offset, gap, pieces, text, lexemes⟩

end ExprCompiler
