import ExprCompiler.Source.Cursor
import ExprCompiler.Token
import ExprCompiler.Token.ScanError

set_option autoImplicit false

namespace ExprCompiler

namespace TextCursor

def skipBlanks (cursor : TextCursor) : TextCursor :=
  cursor.skip Lexeme.isBlank

-- A literal that is too long has been passed when it is refused; no other error moves the cursor.
def next (file : String) (cursor : TextCursor) : Except ScanError Token × TextCursor :=
  let place := cursor.location file
  match cursor.rest with
  | [] => (.error .pastEnd, cursor)
  | c :: _ =>
      if Lexeme.isDigit c then
        let digits := cursor.rest.takeWhile Lexeme.isDigit
        let after := cursor.skip Lexeme.isDigit
        if digits.length ≤ Text.maxDigits then
          (.ok (.mk .number (String.ofList digits) (some (Lexeme.decimalValue digits)) place), after)
        else (.error (.literalTooLong digits.length), after)
      else
        match Lexeme.operatorAt? cursor.rest with
        | some operator =>
            (.ok (.mk .reserved operator none place), cursor.advanceBy operator.length)
        | none => (.error (.invalidCharacter (String.singleton c) place), cursor)

theorem next_shorter (file : String) (cursor after : TextCursor) (token : Token)
    (read : cursor.next file = (.ok token, after)) : after.rest.length < cursor.rest.length := by
  unfold next at read
  split at read
  · simp at read
  · rename_i c rest filled
    split at read
    · rename_i digit
      dsimp only at read
      split at read
      · obtain ⟨_, rfl⟩ := Prod.mk.inj read
        have dropped := (List.dropWhile_suffix (l := rest) Lexeme.isDigit).length_le
        simp only [skip_rest, filled, List.dropWhile_cons, digit, if_true, List.length_cons]
        omega
      · simp at read
    · split at read
      · rename_i operator found
        obtain ⟨_, rfl⟩ := Prod.mk.inj read
        have positive := Lexeme.operatorAt?_length_pos _ _ found
        simp only [advanceBy_rest, filled, List.length_drop, List.length_cons]
        omega
      · simp at read

theorem skipBlanks_not_longer (cursor : TextCursor) :
    cursor.skipBlanks.rest.length ≤ cursor.rest.length := by
  rw [skipBlanks, skip_rest]
  exact (List.dropWhile_suffix _).length_le

def endToken (file : String) (cursor : TextCursor) : Token :=
  .mk .endOfInput "" none (cursor.location file)

end TextCursor

structure Scan where
  tokens : List Token
  cursor : TextCursor
  error : Option ScanError

namespace Scan

-- Each turn passes a character, so `bound`, which is at least as long as the text left, never ends
-- before the text does. `found` holds the tokens so far, the last one first.
def continueFrom (file : String) : (bound : List Char) → List Token → TextCursor → Scan
  | [], found, cursor => ⟨(cursor.endToken file :: found).reverse, cursor, none⟩
  | _ :: bound, found, cursor =>
      let start := cursor.skipBlanks
      if start.rest.isEmpty then ⟨(start.endToken file :: found).reverse, start, none⟩
      else
        match start.next file with
        | (.ok token, after) => continueFrom file bound (token :: found) after
        | (.error error, after) => ⟨found.reverse, after, some error⟩

theorem continueFrom_end (file : String) (bound : List Char) (found : List Token)
    (cursor : TextCursor) (empty : cursor.rest = []) :
    continueFrom file bound found cursor =
      ⟨(cursor.endToken file :: found).reverse, cursor, none⟩ := by
  have still : cursor.skipBlanks = cursor := by
    simp [TextCursor.skipBlanks, TextCursor.skip, TextCursor.advanceBy, empty]
  cases bound <;> simp [continueFrom, still, empty]

theorem continueFrom_bound (file : String) (bound other : List Char) (found : List Token)
    (cursor : TextCursor) (enough : cursor.rest.length ≤ bound.length)
    (otherEnough : cursor.rest.length ≤ other.length) :
    continueFrom file bound found cursor = continueFrom file other found cursor := by
  induction bound generalizing other found cursor with
  | nil =>
      have empty : cursor.rest = [] := by simpa using enough
      rw [continueFrom_end _ _ _ _ empty, continueFrom_end _ _ _ _ empty]
  | cons _ bound ih =>
      cases other with
      | nil =>
          have empty : cursor.rest = [] := by simpa using otherEnough
          rw [continueFrom_end _ _ _ _ empty, continueFrom_end _ _ _ _ empty]
      | cons _ other =>
          have notLonger := cursor.skipBlanks_not_longer
          rw [continueFrom, continueFrom]
          split
          · rfl
          · split
            · rename_i token after read
              have shorter := TextCursor.next_shorter _ _ _ _ read
              simp only [List.length_cons] at enough otherEnough
              exact ih other (token :: found) after (by omega) (by omega)
            · rfl

def ofSource (file : String) (source : List Char) : Scan :=
  continueFrom file source [] (TextCursor.atStart source)

def result (scan : Scan) : Except ScanError (List Token) :=
  match scan.error with
  | none => .ok scan.tokens
  | some error => .error error

end Scan

def Token.scan (file source : String) : Except ScanError (List Token) :=
  (Scan.ofSource file source.toList).result

end ExprCompiler
