import ExprCompiler.Proofs.Layout

set_option autoImplicit false

namespace ExprCompiler

-- The line is told by the newlines in front of the offset, and the column by the characters since
-- the last of them.
structure Location.Fits (source : List Char) (place : Location) : Prop where
  lower : 0 ≤ place.offset
  upper : place.offset ≤ source.length
  line : place.line = 1 + ((source.take place.offset.toNat).count '\n' : Nat)
  column : place.column = 1 + (((source.take place.offset.toNat).reverse.takeWhile (· != '\n')).length : Nat)

namespace TextCursor

structure Behind (passed : List Char) (cursor : TextCursor) : Prop where
  offset : cursor.offset = passed.length
  line : cursor.line = 1 + passed.count '\n'
  column : cursor.column = 1 + (passed.reverse.takeWhile (· != '\n')).length

theorem advance_behind (passed : List Char) (cursor : TextCursor) (c : Char) (rest : List Char)
    (filled : cursor.rest = c :: rest) (behind : Behind passed cursor) : Behind (passed ++ [c]) cursor.advance := by
  obtain ⟨offset, line, column⟩ := behind
  by_cases newline : c = '\n'
  · subst newline
    constructor
    · simp [advance, filled, offset]
    · simp only [advance, filled, if_true, line, List.count_append, List.count_singleton_self]
      omega
    · simp [advance, filled]
  · have kept : (c == '\n') = false := by simpa using newline
    constructor
    · simp [advance, filled, newline, offset]
    · simp [advance, filled, newline, line]
    · simp only [advance, filled, newline, if_false, column, List.reverse_append, List.reverse_singleton,
        List.singleton_append, List.takeWhile_cons, bne, kept, Bool.not_false, if_true, List.length_cons]
      omega

theorem advanceBy_behind (source passed : List Char) (cursor : TextCursor) (count : Nat)
    (split : source = passed ++ cursor.rest) (behind : Behind passed cursor) :
    ∃ now, source = now ++ (cursor.advanceBy count).rest ∧ Behind now (cursor.advanceBy count) := by
  induction count generalizing passed cursor with
  | zero => exact ⟨passed, split, behind⟩
  | succ count ih =>
      rw [advanceBy]
      cases filled : cursor.rest with
      | nil => exact ⟨passed, split, behind⟩
      | cons c rest =>
          apply ih (passed ++ [c]) cursor.advance
          · rw [advance_rest, filled, List.tail_cons, split, filled, List.append_assoc, List.singleton_append]
          · exact advance_behind passed cursor c rest filled behind

theorem advanceBy_end (cursor : TextCursor) (count : Nat) (empty : cursor.rest = []) :
    cursor.advanceBy count = cursor := by
  cases count with
  | zero => rfl
  | succ count => simp [advanceBy, empty]

theorem advance_once (cursor : TextCursor) : cursor.advance = cursor.advanceBy 1 := by
  cases filled : cursor.rest with
  | nil => simp [advance, advanceBy, filled]
  | cons c rest => simp [advanceBy, filled]

theorem advanceBy_add (cursor : TextCursor) (count more : Nat) :
    (cursor.advanceBy count).advanceBy more = cursor.advanceBy (count + more) := by
  induction count generalizing cursor with
  | zero => rw [Nat.zero_add, advanceBy]
  | succ count ih =>
      rw [Nat.succ_add, advanceBy, advanceBy]
      cases filled : cursor.rest with
      | nil => exact cursor.advanceBy_end more filled
      | cons c rest => exact ih cursor.advance

def Reached (source : List Char) (cursor : TextCursor) : Prop :=
  ∃ count, cursor = (atStart source).advanceBy count

theorem reached_start (source : List Char) : Reached source (atStart source) :=
  ⟨0, rfl⟩

theorem Reached.further {source : List Char} {cursor : TextCursor} (reached : Reached source cursor) (count : Nat) :
    Reached source (cursor.advanceBy count) := by
  obtain ⟨passed, rfl⟩ := reached
  exact ⟨passed + count, advanceBy_add _ _ _⟩

theorem Reached.skipBlanks {source : List Char} {cursor : TextCursor} (reached : Reached source cursor) :
    Reached source cursor.skipBlanks :=
  reached.further _

theorem Reached.behind {source : List Char} {cursor : TextCursor} (reached : Reached source cursor) :
    ∃ passed, source = passed ++ cursor.rest ∧ Behind passed cursor := by
  obtain ⟨count, rfl⟩ := reached
  exact advanceBy_behind source [] (atStart source) count rfl ⟨rfl, rfl, rfl⟩

theorem Reached.fits {source : List Char} {cursor : TextCursor} (reached : Reached source cursor) (file : String) :
    (cursor.location file).Fits source := by
  obtain ⟨passed, rfl, offset, line, column⟩ := reached.behind
  have front : (passed ++ cursor.rest).take (cursor.location file).offset.toNat = passed := by
    simp [location, offset]
  constructor
  · exact Int.natCast_nonneg _
  · rw [location, offset, List.length_append]
    exact Int.ofNat_le.mpr (Nat.le_add_right _ _)
  · rw [front, location, line]
    exact Int.natCast_add 1 _
  · rw [front, location, column]
    exact Int.natCast_add 1 _

theorem Reached.rest {source : List Char} {cursor : TextCursor} (reached : Reached source cursor) :
    cursor.rest = source.drop cursor.offset := by
  obtain ⟨count, rfl⟩ := reached
  rw [advanceBy_rest, advanceBy_offset, atStart, Nat.zero_add]
  by_cases inside : count ≤ source.length
  · rw [Nat.min_eq_left inside]
  · have beyond : source.length ≤ count := Nat.le_of_not_le inside
    rw [Nat.min_eq_right beyond, List.drop_of_length_le beyond, List.drop_length]

theorem Reached.end_offset {source : List Char} {cursor : TextCursor} (reached : Reached source cursor)
    (empty : cursor.rest = []) : cursor.offset = source.length := by
  obtain ⟨passed, rfl, offset, _⟩ := reached.behind
  rw [empty, List.append_nil, offset]

theorem advanceBy_line (file : String) (cursor : TextCursor) (text later : List Char)
    (split : cursor.rest = text ++ later) (unbroken : ∀ c ∈ text, c ≠ '\n') :
    (cursor.advanceBy text.length).location file = (cursor.location file).shift text.length := by
  induction text generalizing cursor with
  | nil => simp [advanceBy, Location.shift]
  | cons c text ih =>
      have filled : cursor.rest = c :: (text ++ later) := split
      have moved := ih cursor.advance (by rw [advance_rest, filled, List.tail_cons])
        (fun d member => unbroken d (by simp [member]))
      have step : cursor.advance.location file = (cursor.location file).shift 1 := by
        simp [advance, filled, unbroken c (by simp), location, Location.shift]
      rw [List.length_cons, advanceBy, filled, List.isEmpty_cons, if_neg Bool.false_ne_true, moved, step]
      simp only [Location.shift, Location.mk.injEq, true_and]
      omega

theorem next_advances (file : String) (cursor after : TextCursor) (token : Token)
    (read : cursor.next file = (.ok token, after)) : after = cursor.advanceBy token.lexeme.length := by
  cases text : cursor.rest with
  | nil => simp [next, text] at read
  | cons c rest =>
      by_cases digit : Lexeme.isDigit c = true
      · rw [next_digits file cursor c rest text digit] at read
        obtain ⟨result, rfl⟩ := Prod.mk.inj read
        split at result
        · cases result
          rw [skip, text, String.length_ofList]
        · cases result
      · rw [next_operator file cursor c rest text (Bool.not_eq_true _ ▸ digit)] at read
        cases found : Lexeme.operatorAt? (c :: rest) with
        | none => simp [found] at read
        | some operator =>
            rw [found] at read
            cases read
            rfl

-- A failure moves the cursor too, but never back.
theorem next_moves (file : String) (cursor : TextCursor) : ∃ count, (cursor.next file).2 = cursor.advanceBy count := by
  cases text : cursor.rest with
  | nil => exact ⟨0, by simp [next, text, advanceBy]⟩
  | cons c rest =>
      by_cases digit : Lexeme.isDigit c = true
      · rw [next_digits file cursor c rest text digit]
        exact ⟨_, rfl⟩
      · rw [next_operator file cursor c rest text (Bool.not_eq_true _ ▸ digit)]
        cases Lexeme.operatorAt? (c :: rest) with
        | none => exact ⟨0, rfl⟩
        | some operator => exact ⟨operator.length, rfl⟩

end TextCursor

theorem Token.Spelled.unbroken (token : Token) (spelled : token.Spelled) : ∀ c ∈ token.lexeme.toList, c ≠ '\n' := by
  cases spelled with
  | number kind filled digits short value =>
      rintro c member rfl
      exact absurd (digits '\n' member) (by decide)
  | operator kind listed value =>
      have none : ∀ operator ∈ Lexeme.operators, '\n' ∉ operator.toList := by decide
      rintro c member rfl
      exact none token.lexeme listed member

-- No lexeme has a line break in it, so its end can be told from its start.
theorem next_stop (file : String) (cursor after : TextCursor) (token : Token)
    (read : cursor.next file = (.ok token, after)) :
    token.location = cursor.location file ∧ token.stop = after.location file := by
  have reads := TextCursor.next_reads file cursor after token read
  refine ⟨reads.placed, ?_⟩
  rw [Token.stop, reads.placed, TextCursor.next_advances file cursor after token read, ← String.length_toList,
    cursor.advanceBy_line file _ after.rest reads.split (Token.Spelled.unbroken token reads.spelled)]

inductive ReadInTurn (file : String) : TextCursor → List Token → TextCursor → Prop where
  | done (cursor : TextCursor) : ReadInTurn file cursor [] cursor
  | turn (cursor after final : TextCursor) (token : Token) (tokens : List Token)
      (read : cursor.skipBlanks.next file = (.ok token, after)) (rest : ReadInTurn file after tokens final) :
      ReadInTurn file cursor (token :: tokens) final

theorem ReadInTurn.reached {file : String} {source : List Char} {cursor final : TextCursor} {tokens : List Token}
    (inTurn : ReadInTurn file cursor tokens final) (reached : cursor.Reached source) : final.Reached source := by
  induction inTurn with
  | done cursor => exact reached
  | turn cursor after final token tokens read rest ih =>
      have advanced := TextCursor.next_advances file _ _ _ read
      exact ih (advanced ▸ (reached.further _).further _)

theorem scan_in_turn (file : String) (bound : List Char) (found : List Token) (cursor : TextCursor)
    (enough : cursor.rest.length ≤ bound.length) :
    ∃ tokens final, ReadInTurn file cursor tokens final ∧
      ((final.skipBlanks.rest = [] ∧ Scan.continueFrom file bound found cursor =
          ⟨found.reverse ++ tokens ++ [final.skipBlanks.endToken file], final.skipBlanks, none⟩) ∨
        ∃ error after, final.skipBlanks.next file = (.error error, after) ∧
          Scan.continueFrom file bound found cursor = ⟨found.reverse ++ tokens, after, some error⟩) := by
  induction bound generalizing found cursor with
  | nil =>
      have empty : cursor.rest = [] := by simpa using enough
      have still : cursor.skipBlanks = cursor := by
        simp [TextCursor.skipBlanks, TextCursor.skip, TextCursor.advanceBy, empty]
      refine ⟨[], cursor, .done cursor, .inl ⟨by rw [still, empty], ?_⟩⟩
      rw [Scan.continueFrom_end _ _ _ _ empty, still]
      simp
  | cons c bound ih =>
      rw [Scan.continueFrom]
      by_cases empty : cursor.skipBlanks.rest.isEmpty = true
      · refine ⟨[], cursor, .done cursor, .inl ⟨List.isEmpty_iff.mp empty, ?_⟩⟩
        rw [if_pos empty]
        simp
      · rw [if_neg empty]
        cases read : cursor.skipBlanks.next file with
        | mk result after =>
            cases result with
            | error error =>
                refine ⟨[], cursor, .done cursor, .inr ⟨error, after, read, ?_⟩⟩
                rw [List.append_nil]
            | ok token =>
                have shorter := TextCursor.next_shorter file _ _ _ read
                have notLonger := cursor.skipBlanks_not_longer
                simp only [List.length_cons] at enough
                obtain ⟨tokens, final, inTurn, ending⟩ := ih (token :: found) after (by omega)
                refine ⟨token :: tokens, final, .turn cursor after final token tokens read inTurn, ?_⟩
                simpa using ending

end ExprCompiler
