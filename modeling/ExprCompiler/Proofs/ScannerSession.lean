import ExprCompiler.Proofs.Place
import ExprCompiler.Token.Scanner

set_option autoImplicit false

namespace ExprCompiler

inductive ScannerCall where
  | scanAll
  | next
  | skipBlanks
  | advance
  | advanceBy (count : Int)
  | location
deriving DecidableEq, Repr

namespace Scanner

def perform (scanner : Scanner) : ScannerCall → Scanner
  | .scanAll => scanner.scanAll.2
  | .next => scanner.next.2
  | .skipBlanks => scanner.skipBlanks
  | .advance => scanner.advance
  | .advanceBy count => scanner.advanceBy count
  | .location => scanner

def session (scanner : Scanner) (calls : List ScannerCall) : Scanner :=
  calls.foldl perform scanner

def turns : Nat → List ScannerCall
  | 0 => []
  | count + 1 => .skipBlanks :: .next :: turns count

-- All but a scan of the whole text move the cursor on, and change nothing else.
theorem perform_moves (scanner : Scanner) (call : ScannerCall) :
    (call = .scanAll ∧ scanner.perform call = scanner.scanAll.2) ∨
      ∃ count : Nat, scanner.perform call = { scanner with cursor := scanner.cursor.advanceBy count } := by
  cases call with
  | scanAll => exact .inl ⟨rfl, rfl⟩
  | next =>
      obtain ⟨count, moved⟩ := scanner.cursor.next_moves scanner.file
      refine .inr ⟨count, ?_⟩
      rw [← moved]
      rfl
  | skipBlanks => exact .inr ⟨_, rfl⟩
  | advance =>
      refine .inr ⟨1, ?_⟩
      rw [perform, Scanner.advance, scanner.cursor.advance_once]
  | advanceBy count => exact .inr ⟨count.toNat, rfl⟩
  | location => exact .inr ⟨0, rfl⟩

theorem scan_reached (file : String) (source : List Char) : (Scan.ofSource file source).cursor.Reached source := by
  obtain ⟨tokens, final, inTurn, ending⟩ := scan_in_turn file source [] (TextCursor.atStart source) (Nat.le_refl _)
  have reached := inTurn.reached (TextCursor.reached_start source)
  rcases ending with ⟨_, scan⟩ | ⟨error, after, failed, scan⟩
  · rw [Scan.ofSource, scan]
    exact reached.further _
  · obtain ⟨count, moved⟩ := final.skipBlanks.next_moves file
    obtain rfl : after = final.skipBlanks.advanceBy count := (congrArg Prod.snd failed).symm.trans moved
    rw [Scan.ofSource, scan]
    exact (reached.further _).further count

structure Sound (file : String) (source : List Char) (scanner : Scanner) : Prop where
  sameFile : scanner.file = file
  sameSource : scanner.source = source
  reached : scanner.cursor.Reached source
  stored : scanner.found = [] ∨ scanner.found = (Scan.ofSource file source).tokens

theorem Sound.scanned {file : String} {source : List Char} {scanner : Scanner} (sound : scanner.Sound file source) :
    scanner.scanAll =
      let scan := Scan.ofSource file source
      (scan.result, ⟨file, source, scan.cursor, scan.tokens⟩) := by
  rw [scanAll, sound.sameFile, sound.sameSource]

theorem perform_sound (file : String) (source : List Char) (scanner : Scanner) (call : ScannerCall)
    (sound : scanner.Sound file source) : (scanner.perform call).Sound file source := by
  rcases scanner.perform_moves call with ⟨_, whole⟩ | ⟨count, moved⟩
  · rw [whole, sound.scanned]
    exact ⟨rfl, rfl, scan_reached file source, .inr rfl⟩
  · rw [moved]
    exact ⟨sound.sameFile, sound.sameSource, sound.reached.further count, sound.stored⟩

theorem session_sound (file : String) (source : List Char) (calls : List ScannerCall) (scanner : Scanner)
    (sound : scanner.Sound file source) : (scanner.session calls).Sound file source := by
  induction calls generalizing scanner with
  | nil => exact sound
  | cons call calls ih => exact ih _ (perform_sound file source scanner call sound)

theorem fresh_sound (file source : String) : (ofSource file source).Sound file source.toList :=
  ⟨rfl, rfl, TextCursor.reached_start _, .inl rfl⟩

theorem Sound.location_fits {file : String} {source : List Char} {scanner : Scanner}
    (sound : scanner.Sound file source) : scanner.location.Fits source :=
  sound.reached.fits scanner.file

theorem next_token_stop (scanner : Scanner) (token : Token) (read : scanner.next.1 = .ok token) :
    token.location = scanner.location ∧ token.stop = scanner.next.2.location :=
  next_stop scanner.file scanner.cursor _ token (Prod.ext read rfl)

theorem in_turn_session (file : String) (cursor final : TextCursor) (tokens : List Token)
    (inTurn : ReadInTurn file cursor tokens final) (scanner : Scanner) (sameFile : scanner.file = file)
    (sameCursor : scanner.cursor = cursor) (index : Nat) (token : Token) (found : tokens[index]? = some token) :
    (scanner.session (turns index)).skipBlanks.next.1 = .ok token := by
  induction inTurn generalizing scanner index with
  | done cursor => simp at found
  | turn cursor after final first tokens read rest ih =>
      subst sameFile sameCursor
      cases index with
      | zero =>
          cases found
          exact congrArg Prod.fst read
      | succ index =>
          exact ih scanner.skipBlanks.next.2 rfl (congrArg Prod.snd read) index found

theorem scan_token_read (file source : String) (index : Nat) (token : Token)
    (found : (Scan.ofSource file source.toList).tokens[index]? = some token) :
    (((ofSource file source).session (turns index)).skipBlanks.next.1 = .ok token ∧ token.isEnd = false) ∨
      (token = (Scan.ofSource file source.toList).cursor.endToken file ∧ token.isEnd = true) := by
  obtain ⟨tokens, final, inTurn, ending⟩ := scan_in_turn file source.toList [] (TextCursor.atStart source.toList)
    (Nat.le_refl _)
  have readAt (inside : tokens[index]? = some token) :
      ((ofSource file source).session (turns index)).skipBlanks.next.1 = .ok token ∧ token.isEnd = false := by
    have read := in_turn_session file _ final tokens inTurn (ofSource file source) rfl rfl index token inside
    have spelled := (TextCursor.next_reads _ _ _ token (Prod.ext read rfl)).spelled
    exact ⟨read, Token.Spelled.not_end token spelled⟩
  rw [Scan.ofSource] at found ⊢
  rcases ending with ⟨_, scan⟩ | ⟨error, after, _, scan⟩
  · rw [scan] at found ⊢
    simp only [List.reverse_nil, List.nil_append] at found
    by_cases inside : index < tokens.length
    · rw [List.getElem?_append_left inside] at found
      exact .inl (readAt found)
    · rw [List.getElem?_append_right (Nat.not_lt.mp inside), List.getElem?_singleton] at found
      split at found
      · cases found
        exact .inr ⟨rfl, rfl⟩
      · cases found
  · rw [scan] at found
    exact .inl (readAt found)

end Scanner

-- A stored token is one that a turn of the scan has read, or the mark that the scan ends with.
theorem scanner_session_invariant (file source : String) (calls : List ScannerCall) :
    let fresh := Scanner.ofSource file source
    let scanner := fresh.session calls
    scanner.location.Fits source.toList ∧ scanner.cursor.rest = source.toList.drop scanner.cursor.offset ∧
      (∀ (index : Nat) (token : Token), scanner.found[index]? = some token →
        token.location.Fits source.toList ∧
          if token.isEnd then token.stop = fresh.scanAll.2.location
          else
            let reader := (fresh.session (Scanner.turns index)).skipBlanks
            reader.next.1 = .ok token ∧ token.stop = reader.next.2.location) ∧
      (∀ token : Token, scanner.next.1 = .ok token →
        token.location.Fits source.toList ∧ token.stop = scanner.next.2.location) ∧
      (∀ tokens : List Token, scanner.scanAll.1 = .ok tokens → tokens = scanner.scanAll.2.found) ∧
      scanner.scanAll = fresh.scanAll := by
  intro fresh scanner
  have sound : scanner.Sound file source.toList := Scanner.session_sound _ _ calls _ (Scanner.fresh_sound file source)
  refine ⟨sound.location_fits, sound.reached.rest, ?_, ?_, ?_, ?_⟩
  · intro index token found
    have scanned : (Scan.ofSource file source.toList).tokens[index]? = some token := by
      rcases sound.stored with none | all
      · rw [none] at found
        simp at found
      · rw [← all]
        exact found
    rcases Scanner.scan_token_read file source index token scanned with ⟨read, inside⟩ | ⟨rfl, last⟩
    · have reader := Scanner.perform_sound file source.toList _ .skipBlanks
        (Scanner.session_sound _ _ (Scanner.turns index) _ (Scanner.fresh_sound file source))
      obtain ⟨place, stop⟩ := Scanner.next_token_stop _ token read
      rw [inside, place]
      exact ⟨reader.location_fits, read, stop⟩
    · have ended := Scanner.perform_sound file source.toList _ .scanAll (Scanner.fresh_sound file source)
      refine ⟨ended.location_fits, ?_⟩
      rw [last, if_pos rfl]
      simp [Token.stop, Location.shift, TextCursor.endToken, Scanner.scanAll, Scanner.location, fresh, Scanner.ofSource]
  · intro token read
    obtain ⟨place, stop⟩ := Scanner.next_token_stop scanner token read
    exact ⟨place ▸ sound.location_fits, stop⟩
  · intro tokens finished
    simp only [Scanner.scanAll, Scan.result] at finished ⊢
    split at finished
    · cases finished
      rfl
    · cases finished
  · rw [sound.scanned, (Scanner.fresh_sound file source).scanned]

theorem failed_scan_session :
    let fresh := Scanner.ofSource "" "1\n 20$"
    let scanner := fresh.session [.advance, .scanAll, .advanceBy (-1), .next, .advanceBy 9]
    let twenty : Token := .mk .number "20" (some 20) ⟨"", 2, 2, 3⟩
    fresh.scanAll.1 = .error (.invalidCharacter "$" ⟨"", 2, 4, 5⟩) ∧ scanner.found[1]? = some twenty ∧
      scanner.location = ⟨"", 2, 5, 6⟩ ∧ twenty.location.Fits "1\n 20$".toList ∧ twenty.stop = ⟨"", 2, 4, 5⟩ ∧
      scanner.scanAll = fresh.scanAll := by
  intro fresh scanner twenty
  obtain ⟨_, _, stored, _, _, restarted⟩ := scanner_session_invariant "" "1\n 20$"
    [.advance, .scanAll, .advanceBy (-1), .next, .advanceBy 9]
  have stopped : (Scan.ofSource "" "1\n 20$".toList).error = some (.invalidCharacter "$" ⟨"", 2, 4, 5⟩) := by
    decide +kernel
  have failed : fresh.scanAll.1 = .error (.invalidCharacter "$" ⟨"", 2, 4, 5⟩) := by
    simp only [fresh, Scanner.scanAll, Scanner.ofSource, Scan.result, stopped]
  have kept : scanner.found[1]? = some twenty := by decide +kernel
  have place : scanner.location = ⟨"", 2, 5, 6⟩ := by decide +kernel
  have stop : twenty.stop = ⟨"", 2, 4, 5⟩ := by decide +kernel
  exact ⟨failed, kept, place, (stored 1 twenty kept).1, stop, restarted⟩

end ExprCompiler
