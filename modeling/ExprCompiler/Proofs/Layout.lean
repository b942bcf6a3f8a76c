import ExprCompiler.Token.Scan

set_option autoImplicit false

namespace ExprCompiler

namespace Lexeme

def operators : List String := longOperators ++ shortOperators

def IsLexeme (text : List Char) : Prop :=
  (text ≠ [] ∧ ∀ c ∈ text, isDigit c = true) ∨ ∃ operator ∈ operators, text = operator.toList

def Longest (lexeme later : List Char) : Prop :=
  ∀ longer : List Char, IsLexeme longer → longer <+: lexeme ++ later → longer.length ≤ lexeme.length

theorem Longest.front (lexeme inside behind : List Char) (longest : Longest lexeme (inside ++ behind)) :
    Longest lexeme inside := by
  intro longer isLexeme fits
  apply longest longer isLexeme
  rw [← List.append_assoc]
  exact fits.trans (List.prefix_append _ _)

theorem operator_start (operator : String) (listed : operator ∈ operators) :
    ∃ c rest, operator.toList = c :: rest ∧ isDigit c = false ∧ isBlank c = false := by
  have starts : ∀ operator ∈ operators,
      (operator.toList.head?.any fun c => !isDigit c && !isBlank c) = true := by decide
  have start := starts operator listed
  cases text : operator.toList with
  | nil => simp [text] at start
  | cons c rest =>
      simp only [text, List.head?_cons, Option.any_some, Bool.and_eq_true, Bool.not_eq_true'] at start
      exact ⟨c, rest, rfl, start.1, start.2⟩

theorem digit_not_blank (c : Char) (digit : isDigit c = true) : isBlank c = false := by
  cases blank : isBlank c with
  | false => rfl
  | true =>
      simp only [isBlank, Bool.or_eq_true, beq_iff_eq] at blank
      rcases blank with ((rfl | rfl) | rfl) | rfl <;> exact absurd digit (by decide)

theorem lexeme_start (c : Char) (text : List Char) (lexeme : IsLexeme (c :: text)) :
    isBlank c = false ∧ (isDigit c = true → ∀ d ∈ text, isDigit d = true) := by
  rcases lexeme with ⟨_, digits⟩ | ⟨operator, listed, same⟩
  · exact ⟨digit_not_blank c (digits c (by simp)), fun _ d member => digits d (by simp [member])⟩
  · obtain ⟨first, rest, split, noDigit, noBlank⟩ := operator_start operator listed
    rw [← same] at split
    obtain ⟨rfl, _⟩ := List.cons.inj split
    refine ⟨noBlank, ?_⟩
    intro digit
    rw [noDigit] at digit
    cases digit

theorem operator_at_listed (text : List Char) (operator : String) (found : operatorAt? text = some operator) :
    operator ∈ operators ∧ operator.toList <+: text := by
  refine ⟨List.mem_of_find?_eq_some found, ?_⟩
  simpa using List.find?_some found

theorem operator_at_none (text : List Char) :
    operatorAt? text = none ↔ ∀ operator ∈ operators, ¬ operator.toList <+: text := by
  rw [operatorAt?, List.find?_eq_none]
  simp only [operators, List.isPrefixOf_iff_prefix]

-- Long operators are tried first, so the operator found is the longest.
theorem operator_at_longest (text : List Char) (operator other : String)
    (found : operatorAt? text = some operator) (listed : other ∈ operators) (fits : other.toList <+: text) :
    other.length ≤ operator.length := by
  have short : ∀ operator ∈ operators, 0 < operator.length ∧ operator.length ≤ 2 := by decide
  have long : ∀ operator ∈ longOperators, operator.length = 2 := by decide
  have single : ∀ operator ∈ shortOperators, operator.length = 1 := by decide
  have positive := (short operator (operator_at_listed text operator found).1).1
  have bounded := (short other listed).2
  rcases List.mem_append.mp listed with first | second
  · unfold operatorAt? at found
    rw [List.find?_append] at found
    cases tried : longOperators.find? fun operator => operator.toList.isPrefixOf text with
    | none =>
        have absent := List.find?_eq_none.mp tried other first
        simp [fits] at absent
    | some longer =>
        rw [tried, Option.some_or] at found
        cases found
        have two := long operator (List.mem_of_find?_eq_some tried)
        omega
  · have one := single other second
    omega

theorem operator_at_split (text : List Char) (operator : String) (found : operatorAt? text = some operator) :
    text = operator.toList ++ text.drop operator.length := by
  obtain ⟨later, rfl⟩ := (operator_at_listed text operator found).2
  rw [← String.length_toList, List.drop_left]

theorem operator_at_maximal (c : Char) (text : List Char) (operator : String) (noDigit : isDigit c = false)
    (found : operatorAt? (c :: text) = some operator) :
    Longest operator.toList ((c :: text).drop operator.length) := by
  intro longer lexeme fits
  rw [← operator_at_split _ operator found] at fits
  rcases lexeme with ⟨filled, digits⟩ | ⟨other, listed, rfl⟩
  · cases longer with
    | nil => exact absurd rfl filled
    | cons d longer =>
        obtain ⟨rest, split⟩ := fits
        obtain ⟨rfl, _⟩ := List.cons.inj split
        rw [digits d (by simp)] at noDigit
        cases noDigit
  · rw [String.length_toList, String.length_toList]
    exact operator_at_longest _ operator other found listed fits

theorem operator_at_exact (operator : String) (later : List Char) (listed : operator ∈ operators)
    (longest : Longest operator.toList later) : operatorAt? (operator.toList ++ later) = some operator := by
  cases found : operatorAt? (operator.toList ++ later) with
  | none =>
      exact absurd (List.prefix_append _ _) ((operator_at_none _).mp found operator listed)
  | some other =>
      obtain ⟨otherListed, fits⟩ := operator_at_listed _ other found
      have notShorter := operator_at_longest _ other operator found listed (List.prefix_append _ _)
      have notLonger := longest other.toList (.inr ⟨other, otherListed, rfl⟩) fits
      rw [String.length_toList, String.length_toList] at notLonger
      have same : other.toList = operator.toList := by
        apply (List.prefix_of_prefix_length_le fits (List.prefix_append _ _) ?_).eq_of_length
        · simp only [String.length_toList]
          omega
        · simp only [String.length_toList]
          omega
      rw [String.toList_inj.mp same]

theorem digits_longest (c : Char) (text : List Char) (digit : isDigit c = true) :
    Longest ((c :: text).takeWhile isDigit) ((c :: text).dropWhile isDigit) := by
  intro longer lexeme fits
  rw [List.takeWhile_append_dropWhile] at fits
  cases longer with
  | nil => exact Nat.zero_le _
  | cons d longer =>
      obtain ⟨rest, split⟩ := fits
      obtain ⟨rfl, _⟩ := List.cons.inj split
      have digits : ∀ e ∈ d :: longer, isDigit e = true := by
        intro e member
        rcases List.mem_cons.mp member with rfl | inside
        · exact digit
        · exact (lexeme_start d longer lexeme).2 digit e inside
      rw [← split, List.takeWhile_append_of_pos digits, List.length_append]
      exact Nat.le_add_right _ _

theorem digits_exact (digits later : List Char) (all : ∀ c ∈ digits, isDigit c = true)
    (longest : Longest digits later) :
    (digits ++ later).takeWhile isDigit = digits ∧ (digits ++ later).dropWhile isDigit = later := by
  have stopped : later.takeWhile isDigit = [] := by
    cases later with
    | nil => rfl
    | cons c later =>
        cases digit : isDigit c with
        | false => simp [digit]
        | true =>
            have oneMore := longest (digits ++ [c]) (.inl ⟨by simp, by simpa [or_imp, forall_and, digit] using all⟩)
              ⟨later, by simp⟩
            simp only [List.length_append, List.length_singleton] at oneMore
            omega
  have dropped : later.dropWhile isDigit = later := by
    simpa [stopped] using List.takeWhile_append_dropWhile (p := isDigit) (l := later)
  rw [List.takeWhile_append_of_pos all, List.dropWhile_append_of_pos all, stopped, dropped, List.append_nil]
  exact ⟨rfl, rfl⟩

end Lexeme

inductive Token.Spelled (token : Token) : Prop where
  | number (kind : token.kind = .number) (filled : token.lexeme.toList ≠ [])
      (digits : ∀ c ∈ token.lexeme.toList, Lexeme.isDigit c = true)
      (short : token.lexeme.length ≤ Text.maxDigits)
      (value : token.value = some (Lexeme.decimalValue token.lexeme.toList : Int))
  | operator (kind : token.kind = .reserved) (listed : token.lexeme ∈ Lexeme.operators)
      (value : token.value = none)

theorem Token.Spelled.lexeme (token : Token) (spelled : token.Spelled) :
    Lexeme.IsLexeme token.lexeme.toList := by
  cases spelled with
  | number kind filled digits short value => exact .inl ⟨filled, digits⟩
  | operator kind listed value => exact .inr ⟨token.lexeme, listed, rfl⟩

theorem Token.Spelled.first (token : Token) (spelled : token.Spelled) :
    ∃ c rest, token.lexeme.toList = c :: rest ∧ Lexeme.isBlank c = false := by
  have lexeme := Token.Spelled.lexeme token spelled
  cases text : token.lexeme.toList with
  | nil =>
      rw [text] at lexeme
      rcases lexeme with ⟨filled, _⟩ | ⟨operator, listed, same⟩
      · exact absurd rfl filled
      · obtain ⟨c, rest, split, _⟩ := Lexeme.operator_start operator listed
        rw [← same] at split
        cases split
  | cons c rest =>
      rw [text] at lexeme
      exact ⟨c, rest, rfl, (Lexeme.lexeme_start c rest lexeme).1⟩

-- The tokens stand in the text, which starts at an offset of its own.
inductive Layout : Nat → List Char → List Token → Prop where
  | blank (start : Nat) (gap : List Char) (blanks : ∀ c ∈ gap, Lexeme.isBlank c = true) :
      Layout start gap []
  | token (start : Nat) (gap : List Char) (blanks : ∀ c ∈ gap, Lexeme.isBlank c = true) (token : Token)
      (later : List Char) (tokens : List Token) (spelled : token.Spelled)
      (longest : Lexeme.Longest token.lexeme.toList later)
      (placed : token.location.offset = (start + gap.length : Nat))
      (rest : Layout (start + gap.length + token.lexeme.length) later tokens) :
      Layout start (gap ++ (token.lexeme.toList ++ later)) (token :: tokens)

theorem Token.Spelled.not_end (token : Token) (spelled : token.Spelled) : token.isEnd = false := by
  cases spelled with
  | number kind => simp [Token.isEnd, kind]
  | operator kind => simp [Token.isEnd, kind]

theorem layout_spelled (start : Nat) (text : List Char) (tokens : List Token)
    (layout : Layout start text tokens) (token : Token) (member : token ∈ tokens) : token.Spelled := by
  induction layout with
  | blank start gap blanks => cases member
  | token start gap blanks first later tokens spelled longest placed rest ih =>
      rcases List.mem_cons.mp member with rfl | inside
      · exact spelled
      · exact ih inside

namespace TextCursor

theorem skip_offset (cursor : TextCursor) (member : Char → Bool) :
    (cursor.skip member).offset = cursor.offset + (cursor.rest.takeWhile member).length := by
  have bounded := (List.takeWhile_prefix (l := cursor.rest) member).length_le
  rw [skip, advanceBy_offset]
  omega

structure Reads (file : String) (cursor : TextCursor) (token : Token) (after : TextCursor) : Prop where
  spelled : token.Spelled
  split : cursor.rest = token.lexeme.toList ++ after.rest
  longest : Lexeme.Longest token.lexeme.toList after.rest
  placed : token.location = cursor.location file
  offset : after.offset = cursor.offset + token.lexeme.length

theorem next_digits (file : String) (cursor : TextCursor) (c : Char) (text : List Char)
    (split : cursor.rest = c :: text) (digit : Lexeme.isDigit c = true) :
    cursor.next file =
      let digits := (c :: text).takeWhile Lexeme.isDigit
      (if digits.length ≤ Text.maxDigits then
        .ok (.mk .number (String.ofList digits) (some (Lexeme.decimalValue digits)) (cursor.location file))
      else .error (.literalTooLong digits.length), cursor.skip Lexeme.isDigit) := by
  simp only [next, split, digit, if_true]
  split <;> rfl

theorem next_operator (file : String) (cursor : TextCursor) (c : Char) (text : List Char)
    (split : cursor.rest = c :: text) (noDigit : Lexeme.isDigit c = false) :
    cursor.next file =
      match Lexeme.operatorAt? (c :: text) with
      | some operator =>
          (.ok (.mk .reserved operator none (cursor.location file)), cursor.advanceBy operator.length)
      | none => (.error (.invalidCharacter (String.singleton c) (cursor.location file)), cursor) := by
  cases found : Lexeme.operatorAt? (c :: text) <;>
    simp only [next, split, noDigit, found, Bool.false_eq_true, if_false]

theorem next_reads (file : String) (cursor after : TextCursor) (token : Token)
    (read : cursor.next file = (.ok token, after)) : Reads file cursor token after := by
  cases text : cursor.rest with
  | nil => simp [next, text] at read
  | cons c rest =>
      by_cases digit : Lexeme.isDigit c = true
      · rw [next_digits file cursor c rest text digit] at read
        obtain ⟨result, rfl⟩ := Prod.mk.inj read
        split at result
        · rename_i short
          cases result
          have behind := cursor.skip_rest Lexeme.isDigit
          have moved := cursor.skip_offset Lexeme.isDigit
          rw [text] at behind moved
          constructor
          · refine .number rfl ?_ ?_ ?_ ?_
            · simp [digit]
            · intro d member
              rw [String.toList_ofList] at member
              exact List.all_eq_true.mp List.all_takeWhile d member
            · simpa using short
            · simp
          · rw [String.toList_ofList, behind, List.takeWhile_append_dropWhile, text]
          · rw [String.toList_ofList, behind]
            exact Lexeme.digits_longest c rest digit
          · rfl
          · rw [moved, String.length_ofList]
        · cases result
      · have noDigit : Lexeme.isDigit c = false := Bool.not_eq_true _ ▸ digit
        rw [next_operator file cursor c rest text noDigit] at read
        cases found : Lexeme.operatorAt? (c :: rest) with
        | none => simp [found] at read
        | some operator =>
            rw [found] at read
            cases read
            have split := Lexeme.operator_at_split _ operator found
            have listed := (Lexeme.operator_at_listed _ operator found).1
            have behind := cursor.advanceBy_rest operator.length
            have moved := cursor.advanceBy_offset operator.length
            have bounded := (Lexeme.operator_at_listed _ operator found).2.length_le
            rw [text] at behind moved
            rw [String.length_toList] at bounded
            constructor
            · exact .operator rfl listed rfl
            · rw [behind, text]
              exact split
            · rw [behind]
              exact Lexeme.operator_at_maximal c rest operator noDigit found
            · rfl
            · rw [moved, Nat.min_eq_left bounded]

theorem next_spelled (file : String) (cursor : TextCursor) (token : Token) (later : List Char)
    (split : cursor.rest = token.lexeme.toList ++ later) (spelled : token.Spelled)
    (longest : Lexeme.Longest token.lexeme.toList later) :
    ∃ after, cursor.next file = (.ok { token with location := cursor.location file }, after) ∧
      after.rest = later := by
  obtain ⟨kind, lexeme, value, location, _⟩ := token
  cases spelled with
  | number isNumber filled digits short valued =>
      simp only at isNumber filled digits short valued split longest
      subst isNumber valued
      obtain ⟨taken, dropped⟩ := Lexeme.digits_exact lexeme.toList later digits longest
      cases text : lexeme.toList with
      | nil => exact absurd text filled
      | cons c rest =>
          rw [text, List.cons_append] at split taken dropped
          have digit := digits c (by simp [text])
          refine ⟨cursor.skip Lexeme.isDigit, ?_, ?_⟩
          · rw [next_digits file cursor c (rest ++ later) split digit, taken]
            simp only [← text, String.length_toList, short, if_true, String.ofList_toList]
          · rw [cursor.skip_rest, split, dropped]
  | operator isReserved listed valued =>
      simp only at isReserved listed valued split longest
      subst isReserved valued
      obtain ⟨c, rest, text, noDigit, _⟩ := Lexeme.operator_start lexeme listed
      have found := Lexeme.operator_at_exact lexeme later listed longest
      have whole := split
      rw [text, List.cons_append] at split found
      refine ⟨cursor.advanceBy lexeme.length, ?_, ?_⟩
      · rw [next_operator file cursor c (rest ++ later) split noDigit, found]
      · rw [cursor.advanceBy_rest, whole, ← String.length_toList, List.drop_left]

theorem skip_blanks_split (cursor : TextCursor) :
    ∃ gap : List Char, (∀ c ∈ gap, Lexeme.isBlank c = true) ∧ cursor.rest = gap ++ cursor.skipBlanks.rest ∧
      cursor.skipBlanks.offset = cursor.offset + gap.length := by
  refine ⟨cursor.rest.takeWhile Lexeme.isBlank, ?_, ?_, cursor.skip_offset _⟩
  · intro c member
    exact List.all_eq_true.mp List.all_takeWhile c member
  · rw [skipBlanks, cursor.skip_rest, List.takeWhile_append_dropWhile]

theorem skip_blanks_rest (cursor : TextCursor) (gap later : List Char) (split : cursor.rest = gap ++ later)
    (blanks : ∀ c ∈ gap, Lexeme.isBlank c = true) (stopped : later.head?.all fun c => !Lexeme.isBlank c) :
    cursor.skipBlanks.rest = later := by
  rw [skipBlanks, cursor.skip_rest, split, List.dropWhile_append_of_pos blanks]
  cases later with
  | nil => rfl
  | cons c later =>
      have noBlank : Lexeme.isBlank c = false := by simpa using stopped
      simp [noBlank]

end TextCursor

def Token.content (token : Token) : TokenKind × String × Option Int :=
  (token.kind, token.lexeme, token.value)

namespace Scan

theorem continue_layout (file : String) (bound : List Char) (found : List Token) (cursor : TextCursor)
    (enough : cursor.rest.length ≤ bound.length) (finished : (continueFrom file bound found cursor).error = none) :
    ∃ tokens last, (continueFrom file bound found cursor).tokens = found.reverse ++ tokens ++ [last] ∧
      Layout cursor.offset cursor.rest tokens ∧ last.isEnd = true := by
  induction bound generalizing found cursor with
  | nil =>
      have empty : cursor.rest = [] := by simpa using enough
      refine ⟨[], cursor.endToken file, by simp [continueFrom], ?_, rfl⟩
      rw [empty]
      exact .blank cursor.offset [] (by simp)
  | cons c bound ih =>
      obtain ⟨gap, blanks, split, moved⟩ := cursor.skip_blanks_split
      rw [continueFrom] at finished ⊢
      by_cases empty : cursor.skipBlanks.rest.isEmpty = true
      · rw [if_pos empty]
        refine ⟨[], cursor.skipBlanks.endToken file, by simp, ?_, rfl⟩
        rw [split, List.isEmpty_iff.mp empty, List.append_nil]
        exact .blank cursor.offset gap blanks
      · rw [if_neg empty] at finished ⊢
        cases read : cursor.skipBlanks.next file with
        | mk result after =>
            cases result with
            | error error => simp [read] at finished
            | ok token =>
                simp only [read] at finished ⊢
                have reads := TextCursor.next_reads file _ _ _ read
                have shorter := TextCursor.next_shorter file _ _ _ read
                have notLonger := cursor.skipBlanks_not_longer
                simp only [List.length_cons] at enough
                obtain ⟨tokens, last, all, rest, ends⟩ := ih (token :: found) after (by omega) finished
                refine ⟨token :: tokens, last, by simp [all], ?_, ends⟩
                rw [split, reads.split]
                apply Layout.token cursor.offset gap blanks token after.rest tokens reads.spelled reads.longest
                · rw [reads.placed, TextCursor.location, moved]
                · rw [← moved, ← reads.offset]
                  exact rest

theorem layout_continue (start : Nat) (text : List Char) (tokens : List Token) (layout : Layout start text tokens)
    (file : String) (bound : List Char) (found : List Token) (cursor : TextCursor) (split : cursor.rest = text)
    (enough : text.length ≤ bound.length) :
    ∃ scanned last, (continueFrom file bound found cursor).error = none ∧
      (continueFrom file bound found cursor).tokens = found.reverse ++ scanned ++ [last] ∧
      scanned.map Token.content = tokens.map Token.content ∧ last.isEnd = true := by
  induction layout generalizing bound found cursor with
  | blank start gap blanks =>
      have ended := cursor.skip_blanks_rest gap [] (by simp [split]) blanks rfl
      cases bound with
      | nil => exact ⟨[], cursor.endToken file, rfl, by simp [continueFrom], rfl, rfl⟩
      | cons c bound =>
          rw [continueFrom, ended]
          exact ⟨[], cursor.skipBlanks.endToken file, rfl, by simp, rfl, rfl⟩
  | token start gap blanks token later tokens spelled longest placed rest ih =>
      obtain ⟨c, lexeme, first, noBlank⟩ := Token.Spelled.first token spelled
      have reached := cursor.skip_blanks_rest gap (token.lexeme.toList ++ later) split blanks
        (by simp [first, noBlank])
      obtain ⟨after, read, behind⟩ := TextCursor.next_spelled file cursor.skipBlanks token later reached spelled longest
      simp only [first, List.length_append, List.length_cons] at enough
      cases bound with
      | nil => simp at enough
      | cons d bound =>
          simp only [List.length_cons] at enough
          have filled : cursor.skipBlanks.rest.isEmpty = false := by simp [reached, first]
          rw [continueFrom, filled]
          simp only [read, Bool.false_eq_true, if_false]
          obtain ⟨scanned, last, finished, all, same, ends⟩ :=
            ih bound ({ token with location := cursor.skipBlanks.location file } :: found) after behind (by omega)
          refine ⟨{ token with location := cursor.skipBlanks.location file } :: scanned, last, finished, ?_, ?_, ends⟩
          · simp [all]
          · simp [same, Token.content]

end Scan

theorem scan_layout (file source : String) (tokens : List Token) (scanned : Token.scan file source = .ok tokens) :
    ∃ front last, tokens = front ++ [last] ∧ Layout 0 source.toList front ∧ last.isEnd = true := by
  unfold Token.scan Scan.result at scanned
  split at scanned
  · rename_i finished
    cases scanned
    obtain ⟨front, last, all, layout, ends⟩ := Scan.continue_layout file source.toList []
      (TextCursor.atStart source.toList) (Nat.le_refl _) finished
    exact ⟨front, last, by simpa [Scan.ofSource] using all, layout, ends⟩
  · cases scanned

theorem layout_scan (start : Nat) (source : String) (tokens : List Token)
    (layout : Layout start source.toList tokens) (file : String) :
    ∃ scanned last, Token.scan file source = .ok (scanned ++ [last]) ∧
      scanned.map Token.content = tokens.map Token.content ∧ last.isEnd = true := by
  obtain ⟨scanned, last, finished, all, same, ends⟩ := Scan.layout_continue start _ tokens layout file
    source.toList [] (TextCursor.atStart source.toList) rfl (Nat.le_refl _)
  refine ⟨scanned, last, ?_, same, ends⟩
  unfold Token.scan Scan.result Scan.ofSource
  rw [finished]
  simpa using all

end ExprCompiler
