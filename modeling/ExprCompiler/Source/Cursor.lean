import ExprCompiler.Source.Location

set_option autoImplicit false

namespace ExprCompiler

structure TextCursor where
  rest : List Char
  offset : Nat
  line : Nat
  column : Nat
deriving DecidableEq, Repr

namespace TextCursor

def atStart (source : List Char) : TextCursor :=
  ⟨source, 0, 1, 1⟩

def location (file : String) (cursor : TextCursor) : Location :=
  ⟨file, cursor.line, cursor.column, cursor.offset⟩

def advance (cursor : TextCursor) : TextCursor :=
  match cursor.rest with
  | [] => cursor
  | c :: rest =>
      if c = '\n' then ⟨rest, cursor.offset + 1, cursor.line + 1, 1⟩
      else ⟨rest, cursor.offset + 1, cursor.line, cursor.column + 1⟩

def advanceBy (cursor : TextCursor) : Nat → TextCursor
  | 0 => cursor
  | count + 1 => if cursor.rest.isEmpty then cursor else cursor.advance.advanceBy count

def skip (cursor : TextCursor) (member : Char → Bool) : TextCursor :=
  cursor.advanceBy (cursor.rest.takeWhile member).length

theorem advance_rest (cursor : TextCursor) : cursor.advance.rest = cursor.rest.tail := by
  unfold advance
  split
  · rename_i empty
    simp [empty]
  · rename_i c rest filled
    split <;> simp [filled]

theorem advance_offset (cursor : TextCursor) (c : Char) (rest : List Char)
    (filled : cursor.rest = c :: rest) : cursor.advance.offset = cursor.offset + 1 := by
  unfold advance
  rw [filled]
  by_cases newline : c = '\n' <;> simp [newline]

theorem advanceBy_rest (cursor : TextCursor) (count : Nat) :
    (cursor.advanceBy count).rest = cursor.rest.drop count := by
  induction count generalizing cursor with
  | zero => rfl
  | succ count ih =>
      rw [advanceBy]
      split
      · rename_i empty
        simp [List.isEmpty_iff.mp empty]
      · rw [ih, advance_rest, List.drop_tail]

theorem advanceBy_offset (cursor : TextCursor) (count : Nat) :
    (cursor.advanceBy count).offset = cursor.offset + min count cursor.rest.length := by
  induction count generalizing cursor with
  | zero => simp [advanceBy]
  | succ count ih =>
      rw [advanceBy]
      cases filled : cursor.rest with
      | nil => simp
      | cons c rest =>
          have moved := advance_offset cursor c rest filled
          simp [ih, advance_rest, filled, moved]
          omega

theorem drop_takeWhile (member : Char → Bool) (text : List Char) :
    text.drop (text.takeWhile member).length = text.dropWhile member := by
  induction text with
  | nil => rfl
  | cons c rest ih =>
      by_cases inside : member c <;> simp [inside, ih]

theorem skip_rest (cursor : TextCursor) (member : Char → Bool) :
    (cursor.skip member).rest = cursor.rest.dropWhile member := by
  rw [skip, advanceBy_rest, drop_takeWhile]

end TextCursor

end ExprCompiler
