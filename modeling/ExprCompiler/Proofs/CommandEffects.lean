import ExprCompiler.Proofs.CommandToolkit
import ExprCompiler.Proofs.Rendering

set_option autoImplicit false

namespace ExprCompiler

namespace CommandLine

variable (kit : Toolkit) (files : FileSystem)

def logOf (level : LogLevel) (name source : String) (format : OutputFormat) : String :=
  Event.log level (CompileM.output name source format).events

theorem log_quiet (name source : String) (format : OutputFormat) : logOf .warning name source format = "" := by
  have quiet (events : List Event) : (events.filter fun event => LogLevel.warning.rank ≤ event.level.rank) = [] := by
    rw [List.filter_eq_nil_iff]
    intro event _
    cases event <;> exact Bool.false_ne_true
  rw [logOf, Event.log, quiet]
  rfl

def conclusion (settings : Settings) (name source : String) : Outcome :=
  match compile name source settings.format with
  | .ok text => deliver kit files settings text
  | .error error =>
      match error.report? with
      | some report => ⟨1, "", kit.echo (report.render source), [], none⟩
      | none => ⟨1, "", "", [], some (.compile error)⟩

theorem compile_source_conclusion (settings : Settings) (name source : String) :
    compileSource kit files settings name source =
      (conclusion kit files settings name source).behind
        (kit.display (logOf settings.level name source settings.format)) := by
  unfold compileSource conclusion
  dsimp only
  rw [show (CompileM.output name source settings.format).result = compile name source settings.format from rfl]
  cases compile name source settings.format with
  | ok text => rfl
  | error error =>
      dsimp only
      cases error.report? with
      | some report => rfl
      | none => rw [Outcome.behind, String.append_empty, logOf]

def SameButLog (log otherLog : String) (one other : Outcome) : Prop :=
  ∃ rest : Outcome, one = rest.behind log ∧ other = rest.behind otherLog

theorem compile_source_same (settings : Settings) (level : LogLevel) (name source : String) :
    SameButLog (kit.display (logOf settings.level name source settings.format))
      (kit.display (logOf level name source settings.format)) (compileSource kit files settings name source)
      (compileSource kit files { settings with level := level } name source) :=
  ⟨_, compile_source_conclusion kit files settings name source, compile_source_conclusion kit files _ name source⟩

-- The target was opened, and then the result could not be written to it.
def Emptied (outcome : Outcome) : Prop :=
  outcome.failure = some .unencodable ∧ ∃ path, outcome.written = [(path, "")] ∧
    ∃ name source format text, compile name source format = .ok text ∧ kit.encodes text = false

def AllOrNothing (outcome : Outcome) : Prop :=
  outcome.status ≠ 0 → outcome.stdout = "" ∧ (outcome.written = [] ∨ Emptied kit outcome)

variable {kit}

theorem complaint_all_or_nothing (outcome : Outcome) (status : Nat) (complains : outcome.Complains status) :
    AllOrNothing kit outcome :=
  fun _ => ⟨complains.stdout, .inl complains.written⟩

theorem deliver_all_or_nothing (documented : kit.Documented) (settings : Settings) (name source text : String)
    (format : OutputFormat) (compiled : compile name source format = .ok text) :
    AllOrNothing kit (deliver kit files settings text) := by
  unfold deliver
  cases settings.output with
  | none =>
      dsimp only
      split
      · exact fun failed => absurd rfl failed
      · exact fun _ => ⟨rfl, .inl rfl⟩
  | some path =>
      dsimp only
      cases opening : kit.opens files path with
      | refused outcome => exact complaint_all_or_nothing outcome 1 (documented.refuses files path outcome opening)
      | failed failure => exact fun _ => ⟨rfl, .inl rfl⟩
      | opened =>
          dsimp only
          split
          · exact fun failed => absurd rfl failed
          · rename_i unencodable
            exact fun _ => ⟨rfl, .inr ⟨rfl, path, rfl, name, source, format, text, compiled, by simpa using unencodable⟩⟩

theorem compile_source_all_or_nothing (documented : kit.Documented) (settings : Settings) (name source : String) :
    AllOrNothing kit (compileSource kit files settings name source) := by
  rw [compile_source_conclusion]
  unfold conclusion
  cases compiled : compile name source settings.format with
  | ok text => exact deliver_all_or_nothing files documented settings name source text settings.format compiled
  | error error =>
      dsimp only
      cases error.report? <;> exact fun _ => ⟨rfl, .inl rfl⟩

theorem run_all_or_nothing (documented : kit.Documented) (environment : Option String) (arguments : List String) :
    AllOrNothing kit (run kit files environment arguments) := by
  unfold run
  cases invoked : kit.invoke files environment arguments with
  | answered outcome =>
      rcases documented.answers files environment arguments outcome invoked with ⟨success, _⟩ | complains
      · exact fun failed => absurd success failed
      · exact complaint_all_or_nothing outcome 2 complains
  | failed failure => exact fun _ => ⟨rfl, .inl rfl⟩
  | started expression settings changed =>
      obtain rfl := documented.lazy files environment arguments expression settings changed invoked
      show AllOrNothing kit (start kit files expression settings)
      unfold start
      split
      · exact complaint_all_or_nothing _ 2 (documented.misuse _)
      · exact complaint_all_or_nothing _ 2 (documented.misuse _)
      · exact compile_source_all_or_nothing files documented settings _ _
      · cases files.readText _ with
        | error error => exact fun _ => ⟨rfl, .inl rfl⟩
        | ok source => exact compile_source_all_or_nothing files documented settings _ source

theorem conclusion_compiled (documented : kit.Documented) (settings : Settings) (name source text : String)
    (opened : ∀ path, settings.output = some path → files.writeFault path = none)
    (compiled : compile name source settings.format = .ok text) :
    conclusion kit files settings name source =
      if kit.encodes text then
        match settings.output with
        | none => ⟨0, text, "", [], none⟩
        | some path => ⟨0, "", "", [(path, text)], none⟩
      else ⟨1, "", "", (settings.output.map fun path => (path, "")).toList, some .unencodable⟩ := by
  rw [conclusion, compiled]
  show deliver kit files settings text = _
  unfold deliver
  cases target : settings.output with
  | none => rfl
  | some path =>
      simp only [documented.opens files path (opened path target)]
      rfl

theorem conclusion_reported (settings : Settings) (name source : String) (error : CompileError) (report : Diagnostic)
    (failed : compile name source settings.format = .error error) (reported : error.report? = some report) :
    conclusion kit files settings name source = ⟨1, "", kit.echo (report.render source), [], none⟩ := by
  unfold conclusion
  simp only [failed, reported]

theorem conclusion_succeeds (documented : kit.Documented) (settings : Settings) (name source : String)
    (opened : ∀ path, settings.output = some path → files.writeFault path = none) :
    (conclusion kit files settings name source).status = 0 ↔
      ∃ text, compile name source settings.format = .ok text ∧ kit.encodes text = true := by
  cases compiled : compile name source settings.format with
  | ok text =>
      rw [conclusion_compiled files documented settings name source text opened compiled]
      cases encoded : kit.encodes text with
      | true =>
          refine ⟨fun _ => ⟨text, rfl, encoded⟩, fun _ => ?_⟩
          cases settings.output <;> rfl
      | false =>
          refine ⟨nofun, ?_⟩
          rintro ⟨_, same, shown⟩
          cases same
          rw [encoded] at shown
          cases shown
  | error error =>
      refine ⟨fun success => ?_, nofun⟩
      unfold conclusion at success
      rw [compiled] at success
      cases reported : error.report? <;> simp [reported] at success

end CommandLine

structure Requests (files : FileSystem) (environment : Option String) (line : CommandText) (settings : Settings)
    (name source : String) : Prop where
  tells : line.arguments.Tells files environment settings
  opened : ∀ path, settings.output = some path → files.writeFault path = none
  origin : (line.arguments.operands = [source] ∧ settings.file = none ∧ name = CommandLine.expressionName) ∨
    (line.arguments.operands = [] ∧ settings.file = some name ∧ files.readText name = .ok source)

theorem Requests.run_compiles {files : FileSystem} {environment : Option String} {line : CommandText}
    {settings : Settings} {name source : String} (request : Requests files environment line settings name source)
    (kit : Toolkit) (documented : kit.Documented) :
    CommandLine.run kit files environment line.words = CommandLine.compileSource kit files settings name source := by
  rcases request.origin with ⟨operands, file, rfl⟩ | ⟨operands, file, read⟩
  · have invoked := documented.reads files environment line (some source) settings operands request.tells
    rw [CommandLine.run, invoked]
    show CommandLine.start kit files (some source) settings = _
    simp only [CommandLine.start, file]
  · have invoked := documented.reads files environment line none settings operands request.tells
    rw [CommandLine.run, invoked]
    show CommandLine.start kit files none settings = _
    simp only [CommandLine.start, file, read]

-- Without success nothing is left behind, unless the result could not be encoded when its file was open
-- already. A proper request succeeds just when its source compiles to a text that can be encoded, and
-- then this text is all that it leaves. A refused source is reported behind the log, by a message that
-- shows the diagnostic as far as the stream does. Another level changes the log alone.
theorem command_all_or_nothing (kit : Toolkit) (documented : kit.Documented) (files : FileSystem) :
    (∀ environment arguments,
      let outcome := CommandLine.run kit files environment arguments
      outcome.status ≠ 0 → outcome.stdout = "" ∧ (outcome.written = [] ∨ CommandLine.Emptied kit outcome)) ∧
    ∀ (environment : Option String) (line : CommandText) (settings : Settings) (name source : String),
      Requests files environment line settings name source →
      let outcome := CommandLine.run kit files environment line.words
      let log (level : LogLevel) := kit.display (CommandLine.logOf level name source settings.format)
      (outcome.status = 0 ↔ ∃ text, compile name source settings.format = .ok text ∧ kit.encodes text = true) ∧
      (∀ text, compile name source settings.format = .ok text → kit.encodes text = true →
        outcome.failure = none ∧ (outcome.stdout, outcome.written) =
          match settings.output with
          | none => (text, [])
          | some path => ("", [(path, text)])) ∧
      (∀ error report, compile name source settings.format = .error error → error.report? = some report →
        outcome.status = 1 ∧ outcome.failure = none ∧
          outcome.stderr = log settings.level ++ kit.echo (report.render source) ∧
          ((∀ c ∈ (report.render source).toList, kit.shows c = true) → '\x1b' ∉ (report.render source).toList →
            outcome.stderr = log settings.level ++ report.render source)) ∧
      ∀ (otherEnvironment : Option String) (other : CommandText) (level : LogLevel),
        line.arguments.AlikeButLevel other.arguments →
        LogLevel.ofLabel? (other.arguments.levelLabel otherEnvironment) = some level →
        CommandLine.SameButLog (log settings.level) (log level) outcome
          (CommandLine.run kit files otherEnvironment other.words) := by
  refine ⟨CommandLine.run_all_or_nothing files documented, ?_⟩
  intro environment line settings name source request outcome log
  -- The level shows in nothing but the log in front.
  have ran : outcome = (CommandLine.conclusion kit files settings name source).behind (log settings.level) :=
    (request.run_compiles kit documented).trans (CommandLine.compile_source_conclusion kit files settings name source)
  refine ⟨?_, ?_, ?_, ?_⟩
  · rw [ran]
    exact CommandLine.conclusion_succeeds files documented settings name source request.opened
  · intro text compiled encoded
    rw [ran, CommandLine.conclusion_compiled files documented settings name source text request.opened compiled,
      if_pos encoded]
    cases settings.output <;> exact ⟨rfl, rfl⟩
  · intro error report failed reported
    rw [ran, CommandLine.conclusion_reported files settings name source error report failed reported]
    refine ⟨rfl, rfl, rfl, fun shows plain => ?_⟩
    rw [documented.echoes _ shows plain]
    rfl
  · intro otherEnvironment other level alike valid
    have again : Requests files otherEnvironment other { settings with level := level } name source :=
      ⟨request.tells.relevel otherEnvironment other.arguments alike level valid, request.opened, alike.1 ▸ request.origin⟩
    rw [again.run_compiles kit documented]
    show CommandLine.SameButLog _ _ (CommandLine.run kit files environment line.words) _
    rw [request.run_compiles kit documented]
    exact CommandLine.compile_source_same kit files settings level name source

theorem Diagnostic.heading_error (report : Diagnostic) (severity : report.severity = "error") :
    report.heading = "ERROR" := by
  rw [← String.toList_inj, heading, String.toList_map, severity]
  rfl

theorem source_overwritten :
    let files : FileSystem := ⟨fun _ => .ok "1+\r\n2".toUTF8, fun _ => none⟩
    let line : CommandText := ⟨[.attached .output 'o' rfl "old" (by decide), .long .file rfl "in", .joined .emit rfl "ast",
      .short .output 'o' rfl "in"], none⟩
    let settings : Settings := ⟨some "in", some "in", .ast, .warning⟩
    let outcome := CommandLine.run .plain files none ["-oold", "--file", "in", "--emit=ast", "-o", "in"]
    line.words = ["-oold", "--file", "in", "--emit=ast", "-o", "in"] ∧
      Requests files none line settings "in" "1+\n2" ∧ outcome.status = 0 ∧
      (outcome.stdout, outcome.written) = ("", [("in", "Add\n  Num 1\n  Num 2\n")]) ∧
      CommandLine.SameButLog "" (CommandLine.logOf .debug "in" "1+\n2" .ast) outcome
        (CommandLine.run .plain files (some "DEBUG") ["-oold", "--file", "in", "--emit=ast", "-o", "in"]) := by
  intro files line settings outcome
  have request : Requests files none line settings "in" "1+\n2" := by
    refine ⟨?_, fun _ _ => rfl, .inr ⟨rfl, rfl, rfl⟩⟩
    constructor
    case format => rfl
    case level => exact LogLevel.of_own_label .warning
    case file => rfl
    case found => exact fun _ _ => ⟨_, rfl⟩
    case output => rfl
  have compiled : compile "in" "1+\n2" .ast = .ok "Add\n  Num 1\n  Num 2\n" := by
    rw [compile_outline, of_source_apply]
    rfl
  obtain ⟨_, result⟩ := command_all_or_nothing .plain Toolkit.plain_documented files
  obtain ⟨succeeds, effects, _, same⟩ := result none line settings "in" "1+\n2" request
  have louder := same (some "DEBUG") line .debug ⟨rfl, rfl⟩ (LogLevel.of_own_label .debug)
  have quiet : Toolkit.plain.display (CommandLine.logOf .warning "in" "1+\n2" .ast) = "" :=
    CommandLine.log_quiet "in" "1+\n2" .ast
  refine ⟨rfl, request, succeeds.mpr ⟨_, compiled, rfl⟩, (effects _ compiled rfl).2, ?_⟩
  rw [← quiet]
  exact louder

theorem control_sequence_left_out :
    let files : FileSystem := ⟨fun _ => .error .missing, fun _ => none⟩
    let line : CommandText := ⟨[.operand "1 + \x1b[m 2" (.inl (by decide))], none⟩
    let help := "    ^ invalid token\n  help: The character '\\x1b' cannot start a token.\n"
    let rendered := "ERROR[L001]: invalid token\n  --> <command-line>:1:5\n1 + \x1b[m 2\n" ++ help
    let shown := "ERROR[L001]: invalid token\n  --> <command-line>:1:5\n1 +  2\n" ++ help
    Requests files none line .initial "<command-line>" "1 + \x1b[m 2" ∧
      (∃ error report, compile "<command-line>" "1 + \x1b[m 2" .asm = .error error ∧
        error.report? = some report ∧ report.render "1 + \x1b[m 2" = rendered) ∧
      CommandLine.run .plain files none ["1 + \x1b[m 2"] = ⟨1, "", shown, [], none⟩ ∧
      ¬ ∃ log, shown = log ++ rendered := by
  intro files line help rendered shown
  have request : Requests files none line .initial "<command-line>" "1 + \x1b[m 2" := by
    refine ⟨?_, fun _ _ => rfl, .inl ⟨rfl, rfl, rfl⟩⟩
    constructor
    case format => rfl
    case level => exact LogLevel.of_own_label .warning
    case file => rfl
    case found => exact fun _ => nofun
    case output => rfl
  have failed : compile "<command-line>" "1 + \x1b[m 2" .asm =
      .error (.scan (.invalidCharacter "\x1b" ⟨"<command-line>", 1, 5, 4⟩)) := rfl
  have display : (ScanError.invalidCharacterReport "\x1b" ⟨"<command-line>", 1, 5, 4⟩).render "1 + \x1b[m 2" =
      rendered := by
    rw [Diagnostic.render, Diagnostic.heading_error _ rfl]
    rfl
  have shortened : Text.withoutControls rendered = shown := by
    simp only [rendered, shown, help]
    decide +kernel
  refine ⟨request, ⟨_, _, failed, rfl, display⟩, ?_, ?_⟩
  · have ran := request.run_compiles .plain Toolkit.plain_documented
    have concluded : CommandLine.conclusion .plain files .initial "<command-line>" "1 + \x1b[m 2" =
        ⟨1, "", Text.withoutControls rendered, [], none⟩ := by
      rw [CommandLine.conclusion_reported files _ _ _ _ _ failed rfl, display]
      rfl
    rw [CommandLine.compile_source_conclusion, concluded, shortened] at ran
    refine ran.trans ?_
    rw [Outcome.behind]
    show Outcome.mk 1 "" (CommandLine.logOf .warning _ _ _ ++ shown) [] none = _
    rw [CommandLine.log_quiet, String.empty_append]
  · rintro ⟨log, ends⟩
    have lengths := congrArg String.length ends
    simp only [shown, rendered, String.length_append] at lengths
    have shorter : "ERROR[L001]: invalid token\n  --> <command-line>:1:5\n1 +  2\n".length <
        "ERROR[L001]: invalid token\n  --> <command-line>:1:5\n1 + \x1b[m 2\n".length := by decide
    omega

end ExprCompiler
