import ExprCompiler.Proofs.CompileFailure
import ExprCompiler.Proofs.LayoutFree
import ExprCompiler.Proofs.Respaced
import ExprCompiler.SourceFile

set_option autoImplicit false

namespace ExprCompiler

theorem Text.unify_respaced (text : List Char) : Respaced text (unifyNewlines text) := by
  have feed : Lexeme.isBlank '\n' = true := rfl
  have carriage : Lexeme.isBlank '\r' = true := rfl
  fun_induction unifyNewlines text with
  | case1 => exact .done
  | case2 rest ih =>
      exact .gap ['\r', '\n'] ['\n'] rest _ (by simp) (by simp) (by simp [feed, carriage]) (by simp [feed]) ih
  | case3 rest _ ih => exact .gap ['\r'] ['\n'] rest _ (by simp) (by simp) (by simp [carriage]) (by simp [feed]) ih
  | case4 c rest _ _ ih => exact .keep c rest _ ih

theorem read_stored (files : FileSystem) (path source : String) (stored : files.read path = .ok source.toUTF8) :
    files.readText path = .ok (String.ofList (Text.unifyNewlines source.toList)) := by
  have decoded : String.fromUTF8? source.toUTF8 = some source := dif_pos source.isValidUTF8
  rw [FileSystem.readText, stored]
  simp only [Text.decode?, decoded, Option.map_some]

theorem Token.content_phrase (one other : Token) (same : one.content = other.content) : one.phrase = other.phrase := by
  obtain ⟨kind, lexeme, _⟩ : one.kind = other.kind ∧ one.lexeme = other.lexeme ∧ one.value = other.value := by
    simpa [content] using same
  rw [phrase, phrase, kind, lexeme]

theorem SyntaxError.about_message (error : SyntaxError) (token : Token) (same : token.phrase = error.token.phrase) :
    (error.about token).message = error.message := by
  cases error with
  | missingSymbol symbol found => exact congrArg (fun text => s!"expected '{symbol}', found {text}") same
  | missingNumber found => exact congrArg (fun text => s!"expected a number, found {text}") same
  | trailingToken found => exact congrArg (fun text => s!"unexpected token {text} after expression") same
  | tooDeep found limit => rfl

namespace CompileError

-- The step that failed, and in scanning also what it failed on.
inductive SameKind : CompileError → CompileError → Prop where
  | character (text other : String) (place second : Location) :
      SameKind (.scan (.invalidCharacter text place)) (.scan (.invalidCharacter other second))
  | literal (digits other : Nat) : SameKind (.scan (.literalTooLong digits)) (.scan (.literalTooLong other))
  | order (error complaint : SyntaxError) : SameKind (.parse (.rejected error)) (.parse (.rejected complaint))

structure SameButPlace (one other : CompileError) : Prop where
  kind : one.SameKind other
  message : one.message = other.message
  report : ∃ place, other.report? = one.report?.map fun report => { report with location := place }

theorem scan_moved (error complaint : ScanError) (moved : error.Moved complaint) :
    SameButPlace (.scan error) (.scan complaint) := by
  cases moved with
  | character text place other =>
      refine ⟨.character _ _ _ _, rfl, other, ?_⟩
      simp only [report?, ScanError.report?, Option.map_some]
      rfl
  | literal digits =>
      refine ⟨.literal _ _, rfl, ⟨"", 0, 0, 0⟩, ?_⟩
      simp only [report?, ScanError.report?, Option.map_none]

theorem parse_about (error : SyntaxError) (token : Token) (same : token.content = error.token.content) :
    SameButPlace (.parse (.rejected error)) (.parse (.rejected (error.about token))) := by
  have message := error.about_message token (Token.content_phrase token error.token same)
  have report : (error.about token).report = { error.report with location := token.location } := by
    simp only [SyntaxError.report, message, error.about_code, error.about_token]
    cases error <;> rfl
  refine ⟨.order _ _, message.symm, token.location, ?_⟩
  simp only [report?, report, Option.map_some]

end CompileError

theorem compile_respaced (file source text : String) (same : Respaced source.toList text.toList) (format : OutputFormat)
    (shown : format = .asm ∨ format = .ast) :
    (∃ output, compile file source format = .ok output ∧ compile file text format = .ok output) ∨
      ∃ error complaint, compile file source format = .error error ∧ compile file text format = .error complaint ∧
        error.SameButPlace complaint := by
  rcases scan_respaced file file source text same with
    ⟨tokens, others, scanned, rescanned, contents⟩ | ⟨error, complaint, failed, refailed, moved⟩
  · have alike := content_alike tokens others contents
    rcases compile_about file file source text tokens others scanned rescanned alike format shown with
      output | ⟨error, token, index, failed, refailed, here, there⟩
    · exact .inl output
    · have content : some token.content = some error.token.content := by
        have both := congrArg (fun all => all[index]?) contents
        simp only [List.getElem?_map, here, there, Option.map_some] at both
        exact both.symm
      exact .inr ⟨_, _, failed, refailed, CompileError.parse_about error token (Option.some.inj content)⟩
  · obtain ⟨render, _, compiled⟩ := compile_rendering format shown
    refine .inr ⟨.scan error, .scan complaint, ?_, ?_, CompileError.scan_moved error complaint moved⟩
    · rw [compiled, of_source_apply, failed]
      rfl
    · rw [compiled, of_source_apply, refailed]
      rfl

theorem line_endings_free (files : FileSystem) (path source label : String)
    (stored : files.read path = .ok source.toUTF8) (shown : label = "asm" ∨ label = "ast") :
    (∃ output, SourceFile.compile files path label = .ok output ∧ compileAs path source label = .ok output) ∨
      ∃ error complaint, SourceFile.compile files path label = .error (.compile error) ∧
        compileAs path source label = .error complaint ∧ error.SameButPlace complaint := by
  obtain ⟨format, named, wanted⟩ : ∃ format : OutputFormat, format.label = label ∧ (format = .asm ∨ format = .ast) := by
    rcases shown with rfl | rfl
    · exact ⟨.asm, rfl, .inl rfl⟩
    · exact ⟨.ast, rfl, .inr rfl⟩
  subst named
  have same : Respaced (String.ofList (Text.unifyNewlines source.toList)).toList source.toList := by
    rw [String.toList_ofList]
    exact (Text.unify_respaced source.toList).symm
  simp only [SourceFile.compile, read_stored files path source stored, compile_as_label]
  rcases compile_respaced path _ source same format wanted with
    ⟨output, compiled, again⟩ | ⟨error, complaint, failed, refailed, sameError⟩
  · exact .inl ⟨output, by rw [compiled]; rfl, again⟩
  · exact .inr ⟨error, complaint, by rw [failed]; rfl, refailed, sameError⟩

-- As stored, the text has one line feed; as read, it has two. Both times the parenthesis is missed at the end.
theorem unclosed_lines_free :
    let files : FileSystem := ⟨fun _ => .ok "(1\r\n+\r2".toUTF8, fun _ => none⟩
    let missing (place : Location) : CompileError :=
      .parse (.rejected (.missingSymbol ")" (.mk .endOfInput "" none place)))
    SourceFile.compile files "a" "ast" = .error (.compile (missing ⟨"a", 3, 2, 6⟩)) ∧
      compileAs "a" "(1\r\n+\r2" "ast" = .error (missing ⟨"a", 2, 4, 7⟩) ∧
      (missing ⟨"a", 3, 2, 6⟩).SameButPlace (missing ⟨"a", 2, 4, 7⟩) := by
  intro files missing
  have unified : String.ofList (Text.unifyNewlines "(1\r\n+\r2".toList) = "(1\n+\n2" := by decide +kernel
  have read : SourceFile.compile files "a" "ast" = .error (.compile (missing ⟨"a", 3, 2, 6⟩)) := by
    rw [SourceFile.compile, read_stored files "a" "(1\r\n+\r2" rfl, unified]
    rfl
  have direct : compileAs "a" "(1\r\n+\r2" "ast" = .error (missing ⟨"a", 2, 4, 7⟩) := rfl
  rcases line_endings_free files "a" "(1\r\n+\r2" "ast" rfl (.inr rfl) with
    ⟨output, compiled, _⟩ | ⟨error, complaint, failed, refailed, same⟩
  · rw [read] at compiled
    cases compiled
  · rw [read] at failed
    rw [direct] at refailed
    cases failed
    cases refailed
    exact ⟨read, direct, same⟩

end ExprCompiler
