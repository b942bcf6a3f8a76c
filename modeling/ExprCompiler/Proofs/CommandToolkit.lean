import ExprCompiler.Proofs.CommandSettings
import ExprCompiler.Proofs.CommandWords

set_option autoImplicit false

namespace ExprCompiler

namespace Text

theorem control_length_plain (c : Char) (rest : List Char) (plain : c ≠ '\x1b') : controlLength (c :: rest) = 0 := by
  unfold controlLength
  split
  case h_1 later same => exact absurd (List.cons.inj same).1 plain
  case h_2 => rfl

theorem without_controls_from_plain (chars : List Char) (plain : '\x1b' ∉ chars) :
    withoutControlsFrom 0 chars = chars := by
  induction chars with
  | nil => rfl
  | cons c chars ih =>
      rw [List.mem_cons, not_or] at plain
      rw [withoutControlsFrom, control_length_plain c chars (Ne.symm plain.1), ih plain.2]

theorem without_controls_plain (text : String) (plain : '\x1b' ∉ text.toList) : withoutControls text = text := by
  rw [withoutControls, without_controls_from_plain _ plain, String.ofList_toList]

end Text

namespace Arguments

def levelLabel (environment : Option String) (arguments : Arguments) : String :=
  (arguments.effective? environment .logLevel).getD "WARNING"

def AlikeButLevel (one other : Arguments) : Prop :=
  one.operands = other.operands ∧
    one.switches.filter (·.1 != .logLevel) = other.switches.filter (·.1 != .logLevel)

-- The last value of an option counts, or else the default. The input has to be there.
structure Tells (files : FileSystem) (environment : Option String) (arguments : Arguments) (settings : Settings) :
    Prop where
  format : OutputFormat.ofLabel? ((lastValue? arguments.switches .emit).getD "asm") = some settings.format
  level : LogLevel.ofLabel? (arguments.levelLabel environment) = some settings.level
  file : settings.file = lastValue? arguments.switches .file
  found : ∀ path, settings.file = some path → ∃ content, files.read path = .ok content
  output : settings.output = (lastValue? arguments.switches .output).filter (· != "-")

variable {files : FileSystem} {environment : Option String} {arguments : Arguments} {settings : Settings}

theorem Tells.takes (tells : arguments.Tells files environment settings) (switch : Switch) (value : String)
    (given : arguments.effective? environment switch = some value) : Settings.Takes files switch value := by
  cases switch with
  | file => exact tells.found value (tells.file.trans given)
  | output => trivial
  | emit =>
      have format := tells.format
      rw [show lastValue? arguments.switches .emit = some value from given, Option.getD_some] at format
      exact ⟨settings.format, format⟩
  | logLevel =>
      have level := tells.level
      rw [levelLabel, given, Option.getD_some] at level
      exact ⟨settings.level, level⟩
  | version => trivial
  | help => trivial

theorem not_standard (path : Option String) :
    (path.bind fun path => if path = "-" then none else some path) = path.filter (· != "-") := by
  cases path with
  | none => rfl
  | some path => by_cases standard : path = "-" <;> simp [Option.filter, standard]

theorem Tells.settings_known (tells : arguments.Tells files environment settings) :
    Settings.ofArguments files environment arguments = .ok settings := by
  obtain ⟨found, made, reads⟩ := Settings.of_arguments_reads files environment arguments tells.takes
  have file : found.file = settings.file := by
    rw [tells.file, chosen_told some _ _ reads.file]
    exact Option.bind_fun_some _
  have output : found.output = settings.output := by
    rw [tells.output, chosen_told _ _ _ reads.output]
    exact not_standard _
  have format : found.format = settings.format :=
    Option.some.inj ((chosen_or_default OutputFormat.ofLabel? _ "asm" _ _ rfl reads.format).symm.trans tells.format)
  have level : found.level = settings.level :=
    Option.some.inj ((chosen_or_default LogLevel.ofLabel? _ "WARNING" _ _ (LogLevel.of_own_label .warning)
      reads.level).symm.trans tells.level)
  obtain ⟨foundFile, foundOutput, foundFormat, foundLevel⟩ := found
  cases settings
  simp only at file output format level
  rw [made, file, output, format, level]

theorem Tells.relevel (tells : arguments.Tells files environment settings) (otherEnvironment : Option String)
    (others : Arguments) (alike : arguments.AlikeButLevel others) (level : LogLevel)
    (valid : LogLevel.ofLabel? (others.levelLabel otherEnvironment) = some level) :
    others.Tells files otherEnvironment { settings with level := level } := by
  have same (switch : Switch) (different : (switch != .logLevel) = true) :
      lastValue? others.switches switch = lastValue? arguments.switches switch := by
    rw [← last_value_filter others.switches (· != .logLevel) switch different, ← alike.2,
      last_value_filter arguments.switches (· != .logLevel) switch different]
  constructor
  case format =>
    rw [same .emit rfl]
    exact tells.format
  case level => exact valid
  case file =>
    rw [same .file rfl]
    exact tells.file
  case found => exact tells.found
  case output =>
    rw [same .output rfl]
    exact tells.output

end Arguments

structure Outcome.Complains (outcome : Outcome) (status : Nat) : Prop where
  status : outcome.status = status
  stdout : outcome.stdout = ""
  written : outcome.written = []

-- What is promised of a toolkit. A line in one of the common forms is read for what it is; help and
-- version are printed with success, misuse ends with status 2. The output is opened by the first write,
-- and an output that cannot be opened ends with status 1. A message is shown as it is if the stream can
-- show all of it and it holds no escape character.
structure Toolkit.Documented (kit : Toolkit) : Prop where
  reads : ∀ (files : FileSystem) (environment : Option String) (line : CommandText) (expression : Option String)
    (settings : Settings), line.arguments.operands = expression.toList →
      line.arguments.Tells files environment settings →
      kit.invoke files environment line.words = .started expression settings []
  answers : ∀ files environment arguments outcome, kit.invoke files environment arguments = .answered outcome →
    outcome.status = 0 ∧ outcome.written = [] ∨ outcome.Complains 2
  lazy : ∀ files environment arguments expression settings changed,
    kit.invoke files environment arguments = .started expression settings changed → changed = []
  misuse : ∀ message, (kit.misuse message).Complains 2
  opens : ∀ (files : FileSystem) path, files.writeFault path = none → kit.opens files path = .opened
  refuses : ∀ files path outcome, kit.opens files path = .refused outcome → outcome.Complains 1
  echoes : ∀ text, (∀ c ∈ text.toList, kit.shows c = true) → '\x1b' ∉ text.toList → kit.echo text = text

namespace Toolkit

theorem item_valued (item : CommandItem) (entry : Switch × String) (given : item.switch? = some entry) :
    entry.1.isInformation = false := by
  have valued (switch : Switch) (takes : switch.takesValue = true) : switch.isInformation = false := by
    revert takes
    cases switch <;> decide
  have named (switch : Switch) (letter : Char) (known : switch.letter? = some letter) :
      switch.isInformation = false := by
    cases switch <;> cases known <;> rfl
  cases item with
  | operand text plain => cases given
  | long switch takes value | joined switch takes value =>
      cases given
      exact valued switch takes
  | short switch letter known value | attached switch letter known value filled =>
      cases given
      exact named switch letter known

theorem plain_reads (files : FileSystem) (environment : Option String) (line : CommandText)
    (expression : Option String) (settings : Settings) (operands : line.arguments.operands = expression.toList)
    (tells : line.arguments.Tells files environment settings) :
    read files environment line.words = .started expression settings [] := by
  -- Every option of the line takes a value, so none asks about the program.
  have noQuestion : (line.arguments.switches.map Prod.fst).find? Switch.isInformation = none := by
    rw [List.find?_eq_none]
    intro switch member
    obtain ⟨entry, inside, rfl⟩ := List.mem_map.mp member
    obtain ⟨item, _, given⟩ := List.mem_filterMap.mp inside
    simp [item_valued item entry given]
  unfold read
  simp only [line.split_words, noQuestion, tells.settings_known, operands]
  cases expression <;> rfl

def Untouched : Invocation → Prop
  | .answered outcome => outcome.status = 0 ∧ outcome.written = [] ∨ outcome.Complains 2
  | .failed _ => True
  | .started _ _ changed => changed = []

theorem read_untouched (files : FileSystem) (environment : Option String) (arguments : List String) :
    Untouched (read files environment arguments) := by
  have refused (error : UsageError) : (answer 2 "" (CommandLine.usageErrorText error)).Complains 2 := ⟨rfl, rfl, rfl⟩
  unfold read
  cases Arguments.split arguments with
  | error error => exact .inr (refused error)
  | ok parts =>
      dsimp only
      split
      · exact .inl ⟨rfl, rfl⟩
      · exact .inl ⟨rfl, rfl⟩
      · cases Settings.ofArguments files environment parts with
        | error error =>
            cases error with
            | misuse error => exact .inr (refused error)
            | file error => trivial
        | ok settings =>
            dsimp only
            split
            · exact .inr (refused _)
            · rfl
            · rfl

theorem plain_documented : plain.Documented where
  reads := plain_reads
  answers files environment arguments outcome invoked := by
    have untouched := read_untouched files environment arguments
    rwa [show read files environment arguments = .answered outcome from invoked] at untouched
  lazy files environment arguments expression settings changed invoked := by
    have untouched := read_untouched files environment arguments
    rwa [show read files environment arguments = .started expression settings changed from invoked] at untouched
  misuse message := ⟨rfl, rfl, rfl⟩
  opens files path free := by
    show openTarget files path = .opened
    rw [openTarget, free]
  refuses files path outcome refused := by
    have target : openTarget files path = .refused outcome := refused
    unfold openTarget at target
    split at target
    · cases target
    · cases target
    · cases target
      exact ⟨rfl, rfl, rfl⟩
  echoes text _ plain := Text.without_controls_plain text plain

end Toolkit

end ExprCompiler
