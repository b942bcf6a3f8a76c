import ExprCompiler.Proofs.CompileFailure
import ExprCompiler.Proofs.SourceLine

set_option autoImplicit false

namespace ExprCompiler

theorem Token.Stands.slice {source : String} {token : Token} (stands : token.Stands source) :
    (source.toList.drop token.location.offset.toNat).take token.lexeme.length = token.lexeme.toList := by
  obtain ⟨later, text⟩ := stands.text
  rw [text, ← String.length_toList, List.take_left]

theorem rejected_token (tokens : List Token) (terminated : Terminated tokens) (refusal : SyntaxError)
    (failed : Tree.ofTokens tokens = .error (.rejected refusal)) : refusal.token ∈ tokens := by
  obtain ⟨passed, rest, progress, token, rfl, _, _, _, same⟩ := of_tokens_refused tokens _ terminated failed
  cases same
  rw [Progress.complaint_token]
  simp

theorem refused_stands (file source : String) (refusal : SyntaxError)
    (failed : Tree.ofSource file source = .error (.parse (.rejected refusal))) : refusal.token.Stands source := by
  rcases of_source_failed file source _ failed with ⟨cause, _, other⟩ | ⟨tokens, same, scanned, parsed, rejected⟩
  · cases other
  · cases rejected
    exact scanned_stands file source tokens scanned _
      (rejected_token tokens (scanned_terminated file source tokens scanned) refusal parsed)

theorem invalid_character_fits (file source text : String) (place : Location)
    (failed : Token.scan file source = .error (.invalidCharacter text place)) : place.Fits source.toList := by
  obtain ⟨_, final, after, inTurn, refuses, _⟩ := scan_refused file source _ failed
  cases refuses with
  | character c rest =>
      exact (inTurn.reached (TextCursor.reached_start source.toList)).skipBlanks.fits file

theorem report_fits (file source : String) (error : CompileError) (report : Diagnostic)
    (failed : Tree.ofSource file source = .error error) (reported : error.report? = some report) :
    report.location.Fits source.toList := by
  rcases of_source_failed file source error failed with ⟨cause, scanned, rfl⟩ | ⟨_, refusal, _, _, rfl⟩
  · cases cause with
    | invalidCharacter text place =>
        cases reported
        exact invalid_character_fits file source text place scanned
    | literalTooLong digits => cases reported
    | pastEnd => cases reported
  · cases reported
    exact (refused_stands file source refusal failed).place

-- A report lies inside the source, at the token that it is about, and shows the line that it names with
-- the caret at its column.
theorem error_well_placed (file source : String) (format : OutputFormat) (error : CompileError) (report : Diagnostic)
    (failed : compile file source format = .error error) (reported : error.report? = some report) :
    0 ≤ report.location.offset ∧ report.location.offset ≤ source.length ∧
    (∀ refusal, error = .parse (.rejected refusal) →
      report.location = refusal.token.location ∧
        (source.toList.drop report.location.offset.toNat).take refusal.token.lexeme.length =
          refusal.token.lexeme.toList ∧
        (refusal.token.isEnd = true ↔ report.location.offset = source.length)) ∧
    ∃ (number : Nat) (row margin : List Char),
      report.location.line = number + 1 ∧ (source.toList.splitOn '\n')[number]? = some row ∧
      report.render source =
        s!"{report.heading}{report.codeTag}: {report.message}\n  --> {report.location.text}\n" ++
          String.ofList row ++ "\n" ++ String.ofList margin ++ "^ " ++ report.message ++ "\n" ++ report.helpLine ∧
      (margin.length : Int) = report.location.column - 1 ∧
      ∀ (index : Nat) (c : Char), margin[index]? = some c →
        ∃ d, row[index]? = some d ∧ c = if d = '\t' then '\t' else ' ' := by
  have refused := ((compile_error_iff file source format error).mp failed).1
  have place := report_fits file source error report refused reported
  refine ⟨place.lower, ?_, ?_, ?_⟩
  · rw [← String.length_toList]
    exact place.upper
  · rintro refusal rfl
    cases reported
    have stands := refused_stands file source refusal refused
    exact ⟨rfl, stands.slice, stands.last⟩
  · obtain ⟨number, line, shown⟩ := report.source_line_numbered source.toList place
    refine ⟨number, _, report.caretMargin source.toList, line, shown, ?_, report.caret_margin_length _ place,
      report.caret_margin_under source.toList⟩
    simp only [Diagnostic.render, String.append_assoc]
    rfl

theorem trailing_token_well_placed :
    let refusal : SyntaxError := .trailingToken (.mk .number "3" (some 3) ⟨"", 2, 4, 6⟩)
    let report := refusal.report
    compile "" "1+\n\t2 3" .ast = .error (.parse (.rejected refusal)) ∧
      ("1+\n\t2 3".toList.drop report.location.offset.toNat).take refusal.token.lexeme.length =
        refusal.token.lexeme.toList ∧
      ∃ margin : List Char, margin.length = 3 ∧ margin.head? = some '\t' ∧
        report.render "1+\n\t2 3" =
          s!"{report.heading}{report.codeTag}: {report.message}\n  --> {report.location.text}\n" ++
            String.ofList ['\t', '2', ' ', '3'] ++ "\n" ++ String.ofList margin ++ "^ " ++ report.message ++ "\n" ++
            report.helpLine := by
  intro refusal report
  have failed : compile "" "1+\n\t2 3" .ast = .error (.parse (.rejected refusal)) := by
    rw [compile_outline, of_source_apply]
    rfl
  obtain ⟨_, _, named, number, row, margin, counted, shown, rendered, width, under⟩ :=
    error_well_placed "" "1+\n\t2 3" .ast _ report failed rfl
  obtain rfl : number = 1 := by
    have second : (2 : Int) = number + 1 := counted
    omega
  obtain rfl : ['\t', '2', ' ', '3'] = row := Option.some.inj (Eq.trans (by decide) shown)
  have three : margin.length = 3 := Int.natCast_inj.mp width
  refine ⟨failed, (named refusal rfl).2.1, margin, three, ?_, rendered⟩
  obtain ⟨c, rest, rfl⟩ := List.exists_cons_of_length_eq_add_one three
  obtain ⟨d, first, same⟩ := under 0 c rfl
  cases first
  rw [same]
  rfl

end ExprCompiler
