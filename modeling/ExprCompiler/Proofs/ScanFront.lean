import ExprCompiler.Proofs.ScanFailure
import ExprCompiler.Token.Scanner

set_option autoImplicit false

namespace ExprCompiler

namespace TextCursor

def upTo (stop : Nat) (cursor : TextCursor) : TextCursor :=
  { cursor with rest := cursor.rest.take (stop - cursor.offset) }

theorem advance_up_to (stop : Nat) (cursor : TextCursor) (inside : cursor.offset < stop) :
    (cursor.upTo stop).advance = cursor.advance.upTo stop := by
  obtain ⟨count, width⟩ : ∃ count, stop - cursor.offset = count + 1 := ⟨stop - cursor.offset - 1, by omega⟩
  have narrower : stop - (cursor.offset + 1) = count := by omega
  cases filled : cursor.rest with
  | nil => simp [upTo, advance, filled]
  | cons c rest =>
      by_cases newline : c = '\n' <;> simp [upTo, advance, filled, width, narrower, newline]

theorem advanceBy_up_to (stop count : Nat) (cursor : TextCursor) (inside : cursor.offset + count ≤ stop) :
    (cursor.upTo stop).advanceBy count = (cursor.advanceBy count).upTo stop := by
  induction count generalizing cursor with
  | zero => rfl
  | succ count ih =>
      cases filled : cursor.rest with
      | nil =>
          rw [advanceBy_end cursor _ filled, advanceBy_end (cursor.upTo stop) _ (by simp [upTo, filled])]
      | cons c rest =>
          have moved := advance_offset cursor c rest filled
          have cut : (cursor.upTo stop).rest.isEmpty = false := by
            simp [upTo, filled]
            omega
          rw [advanceBy, advanceBy, cut, filled, List.isEmpty_cons, if_neg Bool.false_ne_true,
            if_neg Bool.false_ne_true, advance_up_to stop cursor (by omega), ih cursor.advance (by omega)]

theorem take_run (member : Char → Bool) (text : List Char) (count : Nat)
    (enough : (text.takeWhile member).length ≤ count) : (text.take count).takeWhile member = text.takeWhile member := by
  induction text generalizing count with
  | nil => simp
  | cons c rest ih =>
      cases count with
      | zero => rw [List.take_zero, List.takeWhile_nil, List.eq_nil_of_length_eq_zero (Nat.le_zero.mp enough)]
      | succ count =>
          by_cases inside : member c = true
          · simp only [List.takeWhile_cons, inside, if_true, List.length_cons, Nat.add_le_add_iff_right] at enough
            simp [inside, ih count enough]
          · simp [inside]

theorem skip_up_to (stop : Nat) (member : Char → Bool) (cursor : TextCursor)
    (inside : (cursor.skip member).offset ≤ stop) :
    (cursor.upTo stop).skip member = (cursor.skip member).upTo stop := by
  rw [skip_offset] at inside
  have run : (cursor.upTo stop).rest.takeWhile member = cursor.rest.takeWhile member :=
    take_run member cursor.rest _ (by omega)
  rw [skip, run, advanceBy_up_to stop _ cursor inside, skip]

-- A lexeme in front of the cut stays the longest, since cutting takes only from what is behind it.
theorem next_up_to (file : String) (stop : Nat) (cursor after : TextCursor) (token : Token)
    (read : cursor.next file = (.ok token, after)) (inside : after.offset ≤ stop) :
    (cursor.upTo stop).next file = (.ok token, after.upTo stop) := by
  have reads := next_reads file cursor after token read
  have moved := reads.offset
  have split : (cursor.upTo stop).rest = token.lexeme.toList ++ after.rest.take (stop - after.offset) := by
    have width : stop - cursor.offset = token.lexeme.toList.length + (stop - after.offset) := by
      rw [String.length_toList]
      omega
    rw [upTo, reads.split, width, List.take_length_add_append]
  have longest : Lexeme.Longest token.lexeme.toList (after.rest.take (stop - after.offset)) := by
    apply Lexeme.Longest.front _ _ (after.rest.drop (stop - after.offset))
    rw [List.take_append_drop]
    exact reads.longest
  obtain ⟨stopped, again, _⟩ := next_spelled file (cursor.upTo stop) token _ split reads.spelled longest
  have same : { token with location := (cursor.upTo stop).location file } = token := by
    rw [show (cursor.upTo stop).location file = token.location from reads.placed.symm]
  rw [same] at again
  rw [again, next_advances file _ _ _ again, next_advances file _ _ _ read,
    advanceBy_up_to stop _ cursor (by omega)]

end TextCursor

namespace ReadInTurn

variable {file : String} {cursor final : TextCursor} {tokens : List Token}

theorem offset_le (inTurn : ReadInTurn file cursor tokens final) : cursor.offset ≤ final.offset := by
  induction inTurn with
  | done cursor => exact Nat.le_refl _
  | turn cursor after final token tokens read rest ih =>
      have skipped := cursor.skip_offset Lexeme.isBlank
      have moved := (TextCursor.next_reads file _ _ _ read).offset
      rw [TextCursor.skipBlanks] at moved
      omega

theorem up_to (stop : Nat) (inTurn : ReadInTurn file cursor tokens final) (inside : final.offset ≤ stop) :
    ReadInTurn file (cursor.upTo stop) tokens (final.upTo stop) := by
  induction inTurn with
  | done cursor => exact .done _
  | turn cursor after final token tokens read rest ih =>
      have later := rest.offset_le
      have moved := (TextCursor.next_reads file _ _ _ read).offset
      have skipped : (cursor.upTo stop).skipBlanks = cursor.skipBlanks.upTo stop :=
        TextCursor.skip_up_to stop Lexeme.isBlank cursor (by rw [TextCursor.skipBlanks] at moved; omega)
      refine .turn _ (after.upTo stop) _ token tokens ?_ (ih inside)
      rw [skipped]
      exact TextCursor.next_up_to file stop _ after token read (by omega)

end ReadInTurn

theorem scan_front (file : String) (source : List Char) (front : List Token) (final : TextCursor)
    (inTurn : ReadInTurn file (TextCursor.atStart source) front final) :
    Scan.ofSource file (source.take final.skipBlanks.offset) =
      ⟨front ++ [final.skipBlanks.endToken file], final.skipBlanks.upTo final.skipBlanks.offset, none⟩ := by
  have before : final.offset ≤ final.skipBlanks.offset := by
    rw [TextCursor.skipBlanks, TextCursor.skip_offset]
    omega
  have cut := inTurn.up_to final.skipBlanks.offset before
  have skipped : (final.upTo final.skipBlanks.offset).skipBlanks = final.skipBlanks.upTo final.skipBlanks.offset :=
    TextCursor.skip_up_to _ Lexeme.isBlank final (Nat.le_refl _)
  have scan := in_turn_found file (source.take final.skipBlanks.offset) front _ cut
    (by rw [skipped, TextCursor.upTo, Nat.sub_self, List.take_zero])
  rw [skipped] at scan
  exact scan

theorem Lexeme.blank_iff (c : Char) : isBlank c = true ↔ c ∈ [' ', '\t', '\r', '\n'] := by
  simp [isBlank, or_assoc]

theorem Lexeme.operator_missing (c : Char) (rest : List Char) (noOperator : operatorAt? (c :: rest) = none) :
    c ∉ ['+', '-', '*', '/', '(', ')', '<', '>'] ∧ String.ofList ((c :: rest).take 2) ∉ longOperators := by
  have missing := (operator_at_none (c :: rest)).mp noOperator
  constructor
  · intro listed
    have single : shortOperators = ['+', '-', '*', '/', '(', ')', '<', '>'].map String.singleton := by decide
    have short : String.singleton c ∈ shortOperators := by
      rw [single]
      exact List.mem_map_of_mem listed
    apply missing (String.singleton c) (List.mem_append_right _ short)
    rw [String.toList_singleton]
    exact ⟨rest, rfl⟩
  · intro listed
    apply missing _ (List.mem_append_left _ listed)
    rw [String.toList_ofList]
    exact List.take_prefix _ _

namespace Scanner

def InvalidAt (scanner : Scanner) (offset : Nat) (error : ScanError) : Prop :=
  ∃ (c : Char) (place : Location), error = .invalidCharacter (String.singleton c) place ∧ place.offset = offset ∧
    scanner.cursor.offset = offset ∧ scanner.source[offset]? = some c ∧ c ∉ [' ', '\t', '\r', '\n'] ∧
    ¬ ('0' ≤ c ∧ c ≤ '9') ∧ c ∉ ['+', '-', '*', '/', '(', ')', '<', '>'] ∧
    String.ofList ((scanner.source.drop offset).take 2) ∉ ["==", "!=", "<=", ">="]

def OverlongAt (scanner : Scanner) (offset : Nat) (error : ScanError) : Prop :=
  let digits := (scanner.source.drop offset).takeWhile fun c => '0' ≤ c && c ≤ '9'
  error = .literalTooLong digits.length ∧ 4300 < digits.length ∧ scanner.cursor.offset = offset + digits.length

end Scanner

theorem TextCursor.Refuses.reason {file : String} {start after : TextCursor} {error : ScanError}
    (refuses : start.skipBlanks.Refuses file error after) (scanner : Scanner)
    (reached : start.skipBlanks.Reached scanner.source) (left : scanner.cursor = after) :
    scanner.InvalidAt start.skipBlanks.offset error ∨ scanner.OverlongAt start.skipBlanks.offset error := by
  have ahead := reached.rest
  cases refuses with
  | character c rest here noDigit noOperator =>
      have noBlank := start.skip_blanks_first c rest here
      obtain ⟨noShort, noLong⟩ := Lexeme.operator_missing c rest noOperator
      rw [here] at ahead
      refine .inl ⟨c, _, rfl, rfl, congrArg TextCursor.offset left, ?_, ?_, ?_, noShort, ?_⟩
      · rw [← List.head?_drop, ← ahead, List.head?_cons]
      · rw [← Lexeme.blank_iff, noBlank]
        exact Bool.false_ne_true
      · simpa [Lexeme.isDigit] using noDigit
      · rw [← ahead]
        exact noLong
  | literal long =>
      rw [ahead] at long
      refine .inr ⟨?_, long, ?_⟩
      · rw [ahead]
        rfl
      · rw [left, skip_offset, ahead]
        rfl

-- The scanner may have been used before: a scan of the whole text starts over.
theorem failed_scan_keeps_front (scanner : Scanner) (error : ScanError) (failed : scanner.scanAll.1 = .error error) :
    let after := scanner.scanAll.2
    ∃ (stop : Nat) (place : Location), place.offset = stop ∧ place.Fits scanner.source ∧
      Token.scan scanner.file (String.ofList (scanner.source.take stop)) =
        .ok (after.found ++ [.mk .endOfInput "" none place]) ∧
      (after.InvalidAt stop error ∨ after.OverlongAt stop error) ∧
      ¬ (after.InvalidAt stop error ∧ after.OverlongAt stop error) := by
  intro after
  have refused : Token.scan scanner.file (String.ofList scanner.source) = .error error := by
    rw [Token.scan, String.toList_ofList]
    exact failed
  obtain ⟨front, final, stopped, inTurn, refuses, scan⟩ := scan_refused _ _ error refused
  rw [String.toList_ofList] at inTurn scan
  have reached := (inTurn.reached (TextCursor.reached_start scanner.source)).skipBlanks
  have found : after.found = front := congrArg Scan.tokens scan
  have left : after.cursor = stopped := congrArg Scan.cursor scan
  refine ⟨final.skipBlanks.offset, final.skipBlanks.location scanner.file, rfl, reached.fits _, ?_,
    refuses.reason after reached left, ?_⟩
  · rw [Token.scan, String.toList_ofList, scan_front scanner.file scanner.source front final inTurn, found]
    rfl
  · rintro ⟨⟨_, _, invalid, _⟩, overlong, _⟩
    rw [invalid] at overlong
    cases overlong

-- The blank keeps `<` and `=` apart. In front of `=` the text ends with an operator and a blank.
theorem lone_equals_sign_keeps_front :
    let scanner := Scanner.ofSource "" "12<\t=3"
    let failed := scanner.scanAll.2
    let error : ScanError := .invalidCharacter "=" ⟨"", 1, 5, 4⟩
    scanner.scanAll.1 = .error error ∧
      failed.found = [.onFirstLine .number "12" (some 12) "" 0, .onFirstLine .reserved "<" none "" 2] ∧
      (∃ place : Location, place.offset = 4 ∧
        Token.scan "" "12<\t" = .ok (failed.found ++ [.mk .endOfInput "" none place])) ∧
      failed.InvalidAt 4 error ∧ ¬ failed.OverlongAt 4 error := by
  intro scanner failed error
  have reported : (Scan.ofSource "" "12<\t=3".toList).error = some error := by decide +kernel
  have stopped : scanner.scanAll.1 = .error error := by
    simp only [scanner, Scanner.scanAll, Scanner.ofSource, Scan.result, reported]
  have found : failed.found = [.onFirstLine .number "12" (some 12) "" 0, .onFirstLine .reserved "<" none "" 2] := by
    decide +kernel
  have cursor : failed.cursor.offset = 4 := by decide +kernel
  have cut : String.ofList (scanner.source.take 4) = "12<\t" := by decide +kernel
  obtain ⟨stop, place, offset, _, front, reason, apart⟩ := failed_scan_keeps_front scanner error stopped
  rcases reason with invalid | overlong
  · have stays := invalid
    obtain ⟨_, _, _, _, left, _⟩ := stays
    obtain rfl : stop = 4 := left.symm.trans cursor
    rw [cut] at front
    exact ⟨stopped, found, ⟨place, offset, front⟩, invalid, fun overlong => apart ⟨invalid, overlong⟩⟩
  · exact ScanError.noConfusion overlong.1

end ExprCompiler
