import ExprCompiler.Proofs.ScanFailure

set_option autoImplicit false

namespace ExprCompiler

-- A gap may be of other blanks and of another length, but it stays one.
inductive Respaced : List Char → List Char → Prop where
  | done : Respaced [] []
  | keep (c : Char) (one other : List Char) (rest : Respaced one other) : Respaced (c :: one) (c :: other)
  | gap (first second one other : List Char) (filled : first ≠ []) (otherFilled : second ≠ [])
      (blanks : ∀ c ∈ first, Lexeme.isBlank c = true) (otherBlanks : ∀ c ∈ second, Lexeme.isBlank c = true)
      (rest : Respaced one other) : Respaced (first ++ one) (second ++ other)

theorem Lexeme.lexeme_solid (text : List Char) (lexeme : IsLexeme text) : ∀ c ∈ text, isBlank c = false := by
  rcases lexeme with ⟨_, digits⟩ | ⟨operator, listed, rfl⟩
  · exact fun c member => digit_not_blank c (digits c member)
  · have solid : ∀ operator ∈ operators, (operator.toList.all fun c => !isBlank c) = true := by decide
    intro c member
    simpa using List.all_eq_true.mp (solid operator listed) c member

namespace Respaced

variable {one other : List Char}

theorem symm (same : Respaced one other) : Respaced other one := by
  induction same with
  | done => exact .done
  | keep c one other rest ih => exact .keep c other one ih
  | gap first second one other filled otherFilled blanks otherBlanks rest ih =>
      exact .gap second first other one otherFilled filled otherBlanks blanks ih

theorem ended (same : Respaced [] other) : other = [] := by
  generalize empty : ([] : List Char) = one at same
  cases same with
  | done => rfl
  | keep => cases empty
  | gap first second one other filled => exact absurd (List.append_eq_nil_iff.mp empty.symm).1 filled

theorem first {c : Char} (same : Respaced (c :: one) other) (solid : Lexeme.isBlank c = false) :
    ∃ behind, other = c :: behind ∧ Respaced one behind := by
  generalize whole : c :: one = text at same
  cases same with
  | done => cases whole
  | keep d later behind rest =>
      cases whole
      exact ⟨behind, rfl, rest⟩
  | gap gap second later behind filled otherFilled blanks =>
      cases gap with
      | nil => exact absurd rfl filled
      | cons d gap =>
          cases whole
          rw [blanks c (by simp)] at solid
          cases solid

theorem front (solid : List Char) (same : Respaced (solid ++ one) other)
    (noBlank : ∀ c ∈ solid, Lexeme.isBlank c = false) : ∃ behind, other = solid ++ behind ∧ Respaced one behind := by
  induction solid generalizing other with
  | nil => exact ⟨other, rfl, same⟩
  | cons c solid ih =>
      obtain ⟨later, rfl, rest⟩ := same.first (noBlank c (by simp))
      obtain ⟨behind, rfl, final⟩ := ih rest fun d member => noBlank d (by simp [member])
      exact ⟨behind, rfl, final⟩

theorem starts (same : Respaced one other) (solid : List Char) (noBlank : ∀ c ∈ solid, Lexeme.isBlank c = false)
    (fits : solid <+: one) : solid <+: other := by
  obtain ⟨later, rfl⟩ := fits
  obtain ⟨behind, rfl, _⟩ := same.front solid noBlank
  exact ⟨behind, rfl⟩

theorem skipped (same : Respaced one other) :
    Respaced (one.dropWhile Lexeme.isBlank) (other.dropWhile Lexeme.isBlank) := by
  induction same with
  | done => exact .done
  | keep c one other rest ih =>
      by_cases blank : Lexeme.isBlank c = true
      · simpa [blank] using ih
      · simpa [blank] using Respaced.keep c one other rest
  | gap first second one other _ _ blanks otherBlanks rest ih =>
      rw [List.dropWhile_append_of_pos blanks, List.dropWhile_append_of_pos otherBlanks]
      exact ih

theorem digits (same : Respaced one other) : one.takeWhile Lexeme.isDigit = other.takeWhile Lexeme.isDigit := by
  have stopped (gap later : List Char) (filled : gap ≠ []) (blanks : ∀ c ∈ gap, Lexeme.isBlank c = true) :
      (gap ++ later).takeWhile Lexeme.isDigit = [] := by
    cases gap with
    | nil => exact absurd rfl filled
    | cons c gap =>
        by_cases digit : Lexeme.isDigit c = true
        · have solid := Lexeme.digit_not_blank c digit
          rw [blanks c (by simp)] at solid
          cases solid
        · simp [digit]
  induction same with
  | done => rfl
  | keep c one other rest ih => by_cases digit : Lexeme.isDigit c = true <;> simp [digit, ih]
  | gap first second one other filled otherFilled blanks otherBlanks =>
      rw [stopped first one filled blanks, stopped second other otherFilled otherBlanks]

theorem longest (lexeme later behind : List Char) (same : Respaced (lexeme ++ later) (lexeme ++ behind))
    (longest : Lexeme.Longest lexeme later) : Lexeme.Longest lexeme behind := by
  intro longer isLexeme fits
  exact longest longer isLexeme (same.symm.starts longer (Lexeme.lexeme_solid longer isLexeme) fits)

end Respaced

namespace TextCursor

variable {cursor other : TextCursor}

theorem skip_blanks_respaced (same : Respaced cursor.rest other.rest) :
    Respaced cursor.skipBlanks.rest other.skipBlanks.rest := by
  rw [skipBlanks, skip_rest, skipBlanks, skip_rest]
  exact same.skipped

theorem next_respaced (file name : String) (after : TextCursor) (token : Token)
    (same : Respaced cursor.rest other.rest) (read : cursor.next file = (.ok token, after)) :
    ∃ again behind, other.next name = (.ok again, behind) ∧ again.content = token.content ∧
      Respaced after.rest behind.rest := by
  have reads := next_reads file cursor after token read
  have solid := Lexeme.lexeme_solid _ (Token.Spelled.lexeme token reads.spelled)
  rw [reads.split] at same
  obtain ⟨later, split, rest⟩ := same.front token.lexeme.toList solid
  rw [split] at same
  obtain ⟨behind, again, left⟩ :=
    next_spelled name other token later split reads.spelled (same.longest _ _ _ reads.longest)
  exact ⟨_, behind, again, rfl, left ▸ rest⟩

end TextCursor

theorem in_turn_respaced (file name : String) (cursor final other : TextCursor) (tokens : List Token)
    (inTurn : ReadInTurn file cursor tokens final) (same : Respaced cursor.rest other.rest) :
    ∃ others stopped, ReadInTurn name other others stopped ∧ others.map Token.content = tokens.map Token.content ∧
      Respaced final.rest stopped.rest := by
  induction inTurn generalizing other with
  | done cursor => exact ⟨[], other, .done other, rfl, same⟩
  | turn cursor after final token tokens read rest ih =>
      obtain ⟨again, behind, reread, content, later⟩ :=
        TextCursor.next_respaced file name after token (TextCursor.skip_blanks_respaced same) read
      obtain ⟨others, stopped, othersInTurn, contents, left⟩ := ih behind later
      refine ⟨again :: others, stopped, .turn other behind stopped again others reread othersInTurn, ?_, left⟩
      rw [List.map_cons, List.map_cons, content, contents]

inductive ScanError.Moved : ScanError → ScanError → Prop where
  | character (text : String) (place other : Location) :
      Moved (.invalidCharacter text place) (.invalidCharacter text other)
  | literal (digits : Nat) : Moved (.literalTooLong digits) (.literalTooLong digits)

theorem refuses_respaced (file name : String) (cursor other after : TextCursor) (error : ScanError)
    (same : Respaced cursor.rest other.rest) (refuses : cursor.skipBlanks.Refuses file error after) :
    ∃ complaint stopped, other.skipBlanks.rest ≠ [] ∧ other.skipBlanks.next name = (.error complaint, stopped) ∧
      error.Moved complaint := by
  have ahead := TextCursor.skip_blanks_respaced same
  cases refuses with
  | character c rest here noDigit noOperator =>
      have solid := cursor.skip_blanks_first c rest here
      rw [here] at ahead
      obtain ⟨behind, there, _⟩ := ahead.first solid
      rw [there] at ahead
      have missing : Lexeme.operatorAt? (c :: behind) = none := by
        rw [Lexeme.operator_at_none] at noOperator ⊢
        intro operator listed fits
        have solidOperator := Lexeme.lexeme_solid operator.toList (.inr ⟨operator, listed, rfl⟩)
        exact noOperator operator listed (ahead.symm.starts operator.toList solidOperator fits)
      refine ⟨_, other.skipBlanks, by simp [there], ?_, .character _ _ (other.skipBlanks.location name)⟩
      rw [TextCursor.next_operator name _ c behind there noDigit, missing]
  | literal long =>
      have run := ahead.digits
      cases there : other.skipBlanks.rest with
      | nil =>
          rw [run, there] at long
          simp at long
      | cons c behind =>
          have digit : Lexeme.isDigit c = true := by
            by_cases digit : Lexeme.isDigit c = true
            · exact digit
            · rw [run, there] at long
              simp [digit] at long
          refine ⟨_, other.skipBlanks.skip Lexeme.isDigit, by simp, ?_, .literal _⟩
          rw [TextCursor.next_digits name _ c behind there digit, ← there, ← run]
          dsimp only
          rw [if_neg (Nat.not_le.mpr long)]

theorem scan_respaced (file name source text : String) (same : Respaced source.toList text.toList) :
    (∃ tokens others, Token.scan file source = .ok tokens ∧ Token.scan name text = .ok others ∧
        tokens.map Token.content = others.map Token.content) ∨
      ∃ error complaint, Token.scan file source = .error error ∧ Token.scan name text = .error complaint ∧
        error.Moved complaint := by
  cases scanned : Token.scan file source with
  | ok tokens =>
      obtain ⟨front, final, inTurn, ended, rfl⟩ := scan_found file source tokens scanned
      obtain ⟨others, stopped, othersInTurn, contents, left⟩ :=
        in_turn_respaced file name _ final (TextCursor.atStart text.toList) front inTurn same
      have ahead := TextCursor.skip_blanks_respaced left
      rw [ended] at ahead
      have scan := in_turn_found name text.toList others stopped othersInTurn ahead.ended
      refine .inl ⟨_, others ++ [stopped.skipBlanks.endToken name], rfl, ?_, ?_⟩
      · rw [Token.scan, scan]
        rfl
      · rw [List.map_append, List.map_append, contents]
        rfl
  | error error =>
      obtain ⟨front, final, after, inTurn, refuses, _⟩ := scan_refused file source error scanned
      obtain ⟨others, stopped, othersInTurn, _, left⟩ :=
        in_turn_respaced file name _ final (TextCursor.atStart text.toList) front inTurn same
      obtain ⟨complaint, halted, filled, failed, moved⟩ :=
        refuses_respaced file name final stopped after error left refuses
      have scan := in_turn_refused name text.toList others stopped halted complaint othersInTurn filled failed
      refine .inr ⟨error, complaint, rfl, ?_, moved⟩
      rw [Token.scan, scan]
      rfl

end ExprCompiler
