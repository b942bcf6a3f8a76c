import ExprCompiler.Diagnostic
import ExprCompiler.Proofs.Place

set_option autoImplicit false

namespace ExprCompiler

theorem split_length (text : List Char) : (text.splitOn '\n').length = text.count '\n' + 1 := by
  induction text with
  | nil => rfl
  | cons c text ih =>
      rw [List.splitOn_cons_eq_if_modifyHead]
      by_cases newline : c = '\n'
      · simp [newline, ih]
      · simp [newline, ih]

theorem split_first (text : List Char) : (text.splitOn '\n')[0]? = some (text.takeWhile (· != '\n')) := by
  induction text with
  | nil => rfl
  | cons c text ih =>
      rw [List.splitOn_cons_eq_if_modifyHead]
      by_cases newline : c = '\n'
      · simp [newline]
      · have kept : (c == '\n') = false := by simpa using newline
        rw [kept, if_neg Bool.false_ne_true, List.getElem?_modifyHead, ih]
        simp [bne, kept]

def lastLine (text : List Char) : List Char :=
  (text.reverse.takeWhile (· != '\n')).reverse

theorem last_line_unbroken (text : List Char) : ∀ c ∈ lastLine text, (c != '\n') = true := by
  intro c member
  exact List.all_eq_true.mp List.all_takeWhile c (List.mem_reverse.mp member)

theorem last_line_split (text : List Char) :
    text = lastLine text ∨ ∃ front, text = front ++ '\n' :: lastLine text := by
  have whole := congrArg List.reverse (List.takeWhile_append_dropWhile (p := (· != '\n')) (l := text.reverse))
  rw [List.reverse_append, List.reverse_reverse] at whole
  cases behind : text.reverse.dropWhile (· != '\n') with
  | nil =>
      left
      rw [behind] at whole
      exact whole.symm
  | cons c rest =>
      right
      have stopped := List.head?_dropWhile_not (· != '\n') text.reverse
      rw [behind] at stopped whole
      have newline : c = '\n' := by simpa using stopped
      refine ⟨rest.reverse, ?_⟩
      rw [← newline, ← List.singleton_append, ← List.append_assoc, ← List.reverse_cons]
      exact whole.symm

theorem last_line_plain (text : List Char) : (lastLine text).count '\n' = 0 := by
  rw [List.count_eq_zero]
  intro member
  exact absurd (last_line_unbroken text '\n' member) (by decide)

theorem ended_lines (lines : List (List Char)) (filled : lines ≠ []) :
    lines.flatMap (· ++ ['\n']) = ['\n'].intercalate lines ++ ['\n'] := by
  induction lines with
  | nil => exact absurd rfl filled
  | cons row lines ih =>
      cases lines with
      | nil => rw [List.flatMap_singleton, List.intercalate_singleton]
      | cons next lines =>
          rw [List.flatMap_cons, ih (List.cons_ne_nil _ _), List.intercalate_cons_cons]
          simp only [List.append_assoc]

theorem lines_in_front (before after : List Char) :
    ∃ front : List (List Char), (before ++ after).splitOn '\n' = front ++ (lastLine before ++ after).splitOn '\n' ∧
      front.length = before.count '\n' ∧ before = front.flatMap (· ++ ['\n']) ++ lastLine before := by
  have plain := last_line_plain before
  rcases last_line_split before with whole | ⟨front, split⟩
  · refine ⟨[], ?_, ?_, whole⟩
    · rw [← whole, List.nil_append]
    · rw [whole, plain, List.length_nil]
  · have text : before ++ after = front ++ '\n' :: (lastLine before ++ after) := by
      rw [← List.cons_append, ← List.append_assoc, ← split]
    refine ⟨front.splitOn '\n', ?_, ?_, ?_⟩
    · rw [text, List.splitOn_append_cons_self]
    · rw [split_length, split, List.count_append, List.count_cons_self, plain]
    · rw [ended_lines _ (List.splitOn_ne_nil _ _), List.intercalate_splitOn, List.append_assoc, List.singleton_append]
      exact split

theorem line_numbered (before after : List Char) :
    ((before ++ after).splitOn '\n')[before.count '\n']? = some (lastLine before ++ after.takeWhile (· != '\n')) := by
  obtain ⟨front, split, counted, _⟩ := lines_in_front before after
  rw [split, ← counted, List.getElem?_append_right (Nat.le_refl _), Nat.sub_self, split_first,
    List.takeWhile_append_of_pos (last_line_unbroken before)]

theorem newline_index (text : List Char) :
    match text.findIdx? (· == '\n') with
    | none => text.takeWhile (· != '\n') = text
    | some index => (text.takeWhile (· != '\n')).length = index ∧ index < text.length := by
  induction text with
  | nil => rfl
  | cons c text ih =>
      rw [List.findIdx?_cons]
      by_cases newline : c = '\n'
      · simp [newline]
      · have kept : (c == '\n') = false := by simpa using newline
        rw [kept, if_neg Bool.false_ne_true, List.takeWhile_cons_of_pos (by simpa using newline)]
        cases found : text.findIdx? (· == '\n') with
        | none =>
            rw [found] at ih
            exact congrArg (c :: ·) ih
        | some index =>
            rw [found] at ih
            exact ⟨congrArg (· + 1) ih.1, Nat.succ_lt_succ ih.2⟩

namespace Diagnostic

variable (report : Diagnostic) (source : List Char)

theorem line_start_place :
    report.lineStart source + (lastLine (source.take (report.anchor source))).length = report.anchor source := by
  have searched := newline_index (source.take (report.anchor source)).reverse
  have bound : (source.take (report.anchor source)).length = report.anchor source :=
    List.length_take_of_le (Nat.min_le_right _ _)
  rw [lineStart, newlineBefore, lastLine, List.length_reverse]
  cases found : (source.take (report.anchor source)).reverse.findIdx? (· == '\n') with
  | none =>
      rw [found] at searched
      rw [searched, List.length_reverse, bound]
      exact Nat.zero_add _
  | some back =>
      rw [found, List.length_reverse, bound] at searched
      rw [searched.1]
      dsimp only
      omega

theorem line_stop_place :
    report.lineStop source =
      report.anchor source + ((source.drop (report.anchor source)).takeWhile (· != '\n')).length := by
  have searched := newline_index (source.drop (report.anchor source))
  have bound : report.anchor source ≤ source.length := Nat.min_le_right _ _
  rw [lineStop, newlineFrom]
  cases found : (source.drop (report.anchor source)).findIdx? (· == '\n') with
  | none =>
      rw [found] at searched
      rw [searched, List.length_drop]
      dsimp only
      rw [if_pos rfl]
      omega
  | some ahead =>
      rw [found] at searched
      rw [searched.1]
      dsimp only
      rw [if_neg (by omega)]
      omega

-- The slice between the two indices is what stands around the offset up to the next newlines.
theorem source_line_parts :
    report.sourceLine source =
      lastLine (source.take (report.anchor source)) ++
        (source.drop (report.anchor source)).takeWhile (· != '\n') := by
  have start := report.line_start_place source
  have bound : (source.take (report.anchor source)).length = report.anchor source :=
    List.length_take_of_le (Nat.min_le_right _ _)
  have after : (source.drop (report.anchor source)).take
      ((source.drop (report.anchor source)).takeWhile (· != '\n')).length =
        (source.drop (report.anchor source)).takeWhile (· != '\n') :=
    (List.prefix_iff_eq_take.mp (List.takeWhile_prefix _)).symm
  have before : (source.take (report.anchor source)).drop (report.lineStart source) =
      lastLine (source.take (report.anchor source)) := by
    have ending : lastLine (source.take (report.anchor source)) <:+ source.take (report.anchor source) := by
      rw [lastLine, ← List.reverse_prefix, List.reverse_reverse]
      exact List.takeWhile_prefix _
    rw [List.suffix_iff_eq_drop.mp ending, bound]
    congr 1
    omega
  rw [sourceLine, line_stop_place, List.take_add, List.drop_append_of_le_length (by omega), before, after]

theorem caret_margin_parts :
    report.caretMargin source =
      (lastLine (source.take (report.anchor source))).map fun c => if c = '\t' then '\t' else ' ' := by
  have start := report.line_start_place source
  have width : report.anchor source - report.lineStart source =
      (lastLine (source.take (report.anchor source))).length := by omega
  rw [caretMargin, source_line_parts, width, List.take_left]

theorem anchor_offset (place : report.location.Fits source) :
    report.anchor source = report.location.offset.toNat := by
  have upper := place.upper
  unfold anchor
  omega

theorem source_line_numbered (place : report.location.Fits source) :
    ∃ number : Nat, report.location.line = number + 1 ∧
      (source.splitOn '\n')[number]? = some (report.sourceLine source) := by
  have numbered := line_numbered (source.take (report.anchor source)) (source.drop (report.anchor source))
  rw [List.take_append_drop, ← source_line_parts] at numbered
  refine ⟨(source.take (report.anchor source)).count '\n', ?_, numbered⟩
  rw [report.anchor_offset source place, place.line]
  omega

theorem caret_margin_length (place : report.location.Fits source) :
    ((report.caretMargin source).length : Int) = report.location.column - 1 := by
  rw [caret_margin_parts, List.length_map, lastLine, List.length_reverse, report.anchor_offset source place, place.column]
  omega

theorem caret_margin_under (index : Nat) (c : Char) (shown : (report.caretMargin source)[index]? = some c) :
    ∃ d, (report.sourceLine source)[index]? = some d ∧ c = if d = '\t' then '\t' else ' ' := by
  rw [caret_margin_parts, List.getElem?_map, Option.map_eq_some_iff] at shown
  obtain ⟨d, inside, rfl⟩ := shown
  refine ⟨d, ?_, rfl⟩
  rw [source_line_parts, List.getElem?_append_left (List.getElem?_eq_some_iff.mp inside).1, inside]

end Diagnostic

end ExprCompiler
