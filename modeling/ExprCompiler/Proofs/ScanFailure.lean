import ExprCompiler.Proofs.Place

set_option autoImplicit false

namespace ExprCompiler

namespace TextCursor

theorem skip_blanks_first (cursor : TextCursor) (c : Char) (rest : List Char)
    (here : cursor.skipBlanks.rest = c :: rest) : Lexeme.isBlank c = false := by
  rw [skipBlanks, skip_rest] at here
  have first := List.head?_dropWhile_not Lexeme.isBlank cursor.rest
  rw [here] at first
  simpa using first

-- Why no token can be read at the cursor, and where the attempt leaves it.
inductive Refuses (file : String) (cursor : TextCursor) : ScanError → TextCursor → Prop where
  | character (c : Char) (rest : List Char) (here : cursor.rest = c :: rest) (noDigit : Lexeme.isDigit c = false)
      (noOperator : Lexeme.operatorAt? (c :: rest) = none) :
      Refuses file cursor (.invalidCharacter (String.singleton c) (cursor.location file)) cursor
  | literal (long : Text.maxDigits < (cursor.rest.takeWhile Lexeme.isDigit).length) :
      Refuses file cursor (.literalTooLong (cursor.rest.takeWhile Lexeme.isDigit).length) (cursor.skip Lexeme.isDigit)

theorem next_refuses (file : String) (cursor after : TextCursor) (error : ScanError) (filled : cursor.rest ≠ [])
    (failed : cursor.next file = (.error error, after)) : cursor.Refuses file error after := by
  cases text : cursor.rest with
  | nil => exact absurd text filled
  | cons c rest =>
      by_cases digit : Lexeme.isDigit c = true
      · rw [next_digits file cursor c rest text digit, ← text] at failed
        obtain ⟨result, rfl⟩ := Prod.mk.inj failed
        by_cases short : (cursor.rest.takeWhile Lexeme.isDigit).length ≤ Text.maxDigits
        · rw [if_pos short] at result
          cases result
        · rw [if_neg short] at result
          cases result
          exact .literal (Nat.lt_of_not_le short)
      · have noDigit : Lexeme.isDigit c = false := Bool.not_eq_true _ ▸ digit
        rw [next_operator file cursor c rest text noDigit] at failed
        cases found : Lexeme.operatorAt? (c :: rest) with
        | some operator =>
            rw [found] at failed
            cases failed
        | none =>
            rw [found] at failed
            cases failed
            exact .character c rest text noDigit found

end TextCursor

theorem scan_within (file : String) (bound : List Char) (found : List Token) (cursor : TextCursor) :
    (Scan.continueFrom file bound found cursor).error ≠ some .pastEnd := by
  induction bound generalizing found cursor with
  | nil => simp [Scan.continueFrom]
  | cons c bound ih =>
      rw [Scan.continueFrom]
      by_cases empty : cursor.skipBlanks.rest.isEmpty = true
      · simp [empty]
      · rw [if_neg empty]
        cases read : cursor.skipBlanks.next file with
        | mk result after =>
            cases result with
            | ok token => exact ih (token :: found) after
            | error error =>
                have filled : cursor.skipBlanks.rest ≠ [] := fun none => empty (List.isEmpty_iff.mpr none)
                have refused := TextCursor.next_refuses file _ after error filled read
                intro same
                cases Option.some.inj same
                cases refused

theorem scan_found (file source : String) (tokens : List Token) (scanned : Token.scan file source = .ok tokens) :
    ∃ front final, ReadInTurn file (TextCursor.atStart source.toList) front final ∧ final.skipBlanks.rest = [] ∧
      tokens = front ++ [final.skipBlanks.endToken file] := by
  obtain ⟨front, final, inTurn, ⟨ended, scan⟩ | ⟨error, after, _, scan⟩⟩ :=
    scan_in_turn file source.toList [] (TextCursor.atStart source.toList) (Nat.le_refl _)
  · rw [Token.scan, Scan.ofSource, scan] at scanned
    cases scanned
    exact ⟨front, final, inTurn, ended, rfl⟩
  · rw [Token.scan, Scan.ofSource, scan] at scanned
    cases scanned

theorem scan_refused (file source : String) (error : ScanError) (failed : Token.scan file source = .error error) :
    ∃ front final after, ReadInTurn file (TextCursor.atStart source.toList) front final ∧
      final.skipBlanks.Refuses file error after ∧ Scan.ofSource file source.toList = ⟨front, after, some error⟩ := by
  have within := scan_within file source.toList [] (TextCursor.atStart source.toList)
  obtain ⟨front, final, inTurn, ⟨_, scan⟩ | ⟨cause, after, read, scan⟩⟩ :=
    scan_in_turn file source.toList [] (TextCursor.atStart source.toList) (Nat.le_refl _)
  · rw [Token.scan, Scan.ofSource, scan] at failed
    cases failed
  · rw [Token.scan, Scan.ofSource, scan] at failed
    cases failed
    refine ⟨front, final, after, inTurn, ?_, scan⟩
    apply TextCursor.next_refuses file _ after error ?_ read
    intro empty
    rw [TextCursor.next, empty] at read
    cases read
    rw [scan] at within
    exact within rfl

theorem scan_behind (file : String) (cursor final : TextCursor) (tokens : List Token)
    (inTurn : ReadInTurn file cursor tokens final) (bound : List Char) (found : List Token)
    (enough : cursor.rest.length ≤ bound.length) :
    Scan.continueFrom file bound found cursor = Scan.continueFrom file final.rest (tokens.reverse ++ found) final := by
  induction inTurn generalizing bound found with
  | done cursor => exact Scan.continueFrom_bound file bound cursor.rest found cursor enough (Nat.le_refl _)
  | turn cursor after final token tokens read rest ih =>
      have shorter := TextCursor.next_shorter file _ _ _ read
      have notLonger := cursor.skipBlanks_not_longer
      cases bound with
      | nil =>
          simp only [List.length_nil] at enough
          omega
      | cons c bound =>
          simp only [List.length_cons] at enough
          have filled : ¬ cursor.skipBlanks.rest.isEmpty = true := by
            intro empty
            rw [List.isEmpty_iff.mp empty] at shorter
            exact Nat.not_lt_zero _ shorter
          rw [Scan.continueFrom, if_neg filled, read]
          simp only
          rw [ih bound (token :: found) (by omega), List.reverse_cons, List.append_assoc, List.singleton_append]

theorem in_turn_found (file : String) (source : List Char) (front : List Token) (final : TextCursor)
    (inTurn : ReadInTurn file (TextCursor.atStart source) front final) (ended : final.skipBlanks.rest = []) :
    Scan.ofSource file source = ⟨front ++ [final.skipBlanks.endToken file], final.skipBlanks, none⟩ := by
  rw [Scan.ofSource, scan_behind file _ final front inTurn source [] (Nat.le_refl _)]
  cases filled : final.rest with
  | nil =>
      have still : final.skipBlanks = final := final.advanceBy_end _ filled
      rw [still, Scan.continueFrom_end file _ _ _ filled]
      simp
  | cons c rest =>
      rw [Scan.continueFrom, ended]
      simp

theorem in_turn_refused (file : String) (source : List Char) (front : List Token) (final after : TextCursor)
    (error : ScanError) (inTurn : ReadInTurn file (TextCursor.atStart source) front final)
    (filled : final.skipBlanks.rest ≠ []) (failed : final.skipBlanks.next file = (.error error, after)) :
    Scan.ofSource file source = ⟨front, after, some error⟩ := by
  have notLonger := final.skipBlanks_not_longer
  rw [Scan.ofSource, scan_behind file _ final front inTurn source [] (Nat.le_refl _)]
  cases left : final.rest with
  | nil =>
      rw [left] at notLonger
      exact absurd (List.eq_nil_of_length_eq_zero (Nat.le_zero.mp notLonger)) filled
  | cons c rest =>
      have notEnded : ¬ final.skipBlanks.rest.isEmpty = true := fun empty => filled (List.isEmpty_iff.mp empty)
      rw [Scan.continueFrom, if_neg notEnded, failed]
      simp

-- The token is named at a place of the source, and its lexeme is the text there. Only the mark at the
-- end stands behind the text.
structure Token.Stands (source : String) (token : Token) : Prop where
  place : token.location.Fits source.toList
  text : ∃ later, source.toList.drop token.location.offset.toNat = token.lexeme.toList ++ later
  last : token.isEnd = true ↔ token.location.offset = source.length

theorem in_turn_stands (file source : String) (cursor final : TextCursor) (tokens : List Token)
    (inTurn : ReadInTurn file cursor tokens final) (reached : cursor.Reached source.toList) (token : Token)
    (member : token ∈ tokens) : token.Stands source := by
  induction inTurn with
  | done cursor => cases member
  | turn cursor after final first tokens read rest ih =>
      have start := reached.skipBlanks
      rcases List.mem_cons.mp member with rfl | inside
      · have reads := TextCursor.next_reads file _ after token read
        have text : source.toList.drop token.location.offset.toNat = token.lexeme.toList ++ after.rest := by
          rw [reads.placed, ← reads.split]
          exact start.rest.symm
        refine ⟨reads.placed ▸ start.fits file, ⟨after.rest, text⟩, ?_⟩
        obtain ⟨c, lexeme, filled, _⟩ := Token.Spelled.first token reads.spelled
        rw [Token.Spelled.not_end token reads.spelled]
        constructor
        · intro ended
          cases ended
        · intro behind
          rw [behind, Int.toNat_natCast, ← String.length_toList, List.drop_length, filled] at text
          cases text
      · exact ih (TextCursor.next_advances file _ _ _ read ▸ start.further _) inside

theorem scanned_stands (file source : String) (tokens : List Token) (scanned : Token.scan file source = .ok tokens)
    (token : Token) (member : token ∈ tokens) : token.Stands source := by
  obtain ⟨front, final, inTurn, ended, rfl⟩ := scan_found file source tokens scanned
  have start := TextCursor.reached_start source.toList
  rcases List.mem_append.mp member with inside | last
  · exact in_turn_stands file source _ final front inTurn start token inside
  · obtain rfl := List.mem_singleton.mp last
    have reached := (inTurn.reached start).skipBlanks
    refine ⟨reached.fits file, ⟨_, rfl⟩, fun _ => ?_, fun _ => rfl⟩
    rw [← String.length_toList]
    exact congrArg Nat.cast (reached.end_offset ended)

end ExprCompiler
