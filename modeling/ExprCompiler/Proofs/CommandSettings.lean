import ExprCompiler.CommandLine.Plain

set_option autoImplicit false

namespace ExprCompiler

def lastValue? (entries : List (Switch × String)) (switch : Switch) : Option String :=
  ((entries.filter fun entry => entry.1 == switch).map Prod.snd).getLast?

theorem last_value_append (front entries : List (Switch × String)) (switch : Switch) :
    lastValue? (front ++ entries) switch = (lastValue? entries switch).or (lastValue? front switch) := by
  rw [lastValue?, List.filter_append, List.map_append, List.getLast?_append]
  rfl

theorem last_value_single (switch other : Switch) (value : String) :
    lastValue? [(switch, value)] other = if switch = other then some value else none := by
  by_cases same : switch = other
  · simp [lastValue?, same]
  · simp [lastValue?, same]

theorem last_value_missing (entries : List (Switch × String)) (switch : Switch) :
    lastValue? entries switch = none ↔ switch ∉ entries.map Prod.fst := by
  rw [lastValue?, List.getLast?_eq_none_iff, List.map_eq_nil_iff, List.filter_eq_nil_iff, List.mem_map]
  constructor
  · rintro none ⟨entry, member, rfl⟩
    exact none entry member (beq_self_eq_true _)
  · intro none entry member same
    exact none ⟨entry, member, eq_of_beq same⟩

theorem last_value_mem (entries : List (Switch × String)) (switch : Switch) (value : String)
    (given : lastValue? entries switch = some value) : (switch, value) ∈ entries := by
  obtain ⟨⟨other, text⟩, member, rfl⟩ := List.mem_map.mp (List.mem_of_getLast? given)
  obtain ⟨inside, same⟩ := List.mem_filter.mp member
  rw [← eq_of_beq same]
  exact inside

theorem last_value_filter (entries : List (Switch × String)) (keep : Switch → Bool) (switch : Switch)
    (kept : keep switch = true) :
    lastValue? (entries.filter fun entry => keep entry.1) switch = lastValue? entries switch := by
  have same : (entries.filter fun entry => entry.1 == switch && keep entry.1) =
      entries.filter fun entry => entry.1 == switch := by
    refine List.filter_congr fun entry _ => ?_
    by_cases same : entry.1 = switch <;> simp [same, kept]
  rw [lastValue?, List.filter_filter, same, lastValue?]

theorem settings_last (arguments : Arguments) (entry : Switch × String) (member : entry ∈ arguments.settings) :
    lastValue? arguments.switches entry.1 = some entry.2 := by
  obtain ⟨switch, named, rfl⟩ := List.mem_map.mp member
  cases last : lastValue? arguments.switches switch with
  | none =>
      rw [last_value_missing] at last
      exact absurd (List.mem_eraseDups.mp named) last
  | some value =>
      rw [lastValue?] at last
      rw [List.getLastD_eq_getLast?, last, Option.getD_some]

theorem last_value_settings (arguments : Arguments) (switch : Switch) :
    lastValue? arguments.settings switch = lastValue? arguments.switches switch := by
  cases given : lastValue? arguments.settings switch with
  | some value => exact (settings_last arguments _ (last_value_mem _ switch value given)).symm
  | none =>
      symm
      rw [last_value_missing] at given ⊢
      simpa [Arguments.settings] using given

namespace Arguments

-- The value that counts of each option. The environment can only give a level.
def effective? (environment : Option String) (arguments : Arguments) (switch : Switch) : Option String :=
  let given := lastValue? arguments.switches switch
  if switch = .logLevel then given.or (environment.filter (· != "")) else given

structure Counting (entries : List (Switch × String)) (given : Switch → Option String) : Prop where
  last : ∀ switch, lastValue? entries switch = given switch
  each : ∀ entry ∈ entries, given entry.1 = some entry.2

theorem counting_options (environment : Option String) (arguments : Arguments)
    (unused : lastValue? arguments.switches .logLevel ≠ none ∨ environment.filter (· != "") = none) :
    Counting arguments.settings (arguments.effective? environment) := by
  have same (switch : Switch) : arguments.effective? environment switch = lastValue? arguments.switches switch := by
    by_cases level : switch = .logLevel
    · subst level
      rcases unused with given | none
      · obtain ⟨label, known⟩ := Option.ne_none_iff_exists'.mp given
        simp [effective?, known]
      · simp [effective?, none]
    · simp [effective?, level]
  constructor
  · intro switch
    rw [same, last_value_settings]
  · intro entry member
    rw [same]
    exact settings_last arguments entry member

theorem counting_environment (arguments : Arguments) (label : String) (filled : label ≠ "")
    (missing : lastValue? arguments.switches .logLevel = none) :
    Counting (arguments.settings ++ [(.logLevel, label)]) (arguments.effective? (some label)) := by
  have level : arguments.effective? (some label) .logLevel = some label := by
    simp [effective?, missing, filled]
  have other (switch : Switch) (different : switch ≠ .logLevel) :
      arguments.effective? (some label) switch = lastValue? arguments.switches switch := by
    simp [effective?, different]
  constructor
  · intro switch
    rw [last_value_append, last_value_single, last_value_settings]
    by_cases same : switch = .logLevel
    · rw [same, level, if_pos rfl, Option.some_or]
    · rw [other switch same, if_neg (Ne.symm same), Option.none_or]
  · intro entry member
    rcases List.mem_append.mp member with option | environment
    · have last := settings_last arguments entry option
      rw [other entry.1 ?_, last]
      intro same
      rw [same, missing] at last
      cases last
    · rw [List.mem_singleton.mp environment]
      exact level

theorem effective_entries (files : FileSystem) (environment : Option String) (arguments : Arguments) :
    ∃ entries, Settings.ofArguments files environment arguments = entries.foldlM (Settings.set files) .initial ∧
      Counting entries (arguments.effective? environment) := by
  have mentioned : (arguments.settings.any (·.1 == .logLevel)) = (lastValue? arguments.switches .logLevel).isSome := by
    rw [Bool.eq_iff_iff, List.any_eq_true, ← last_value_settings, Option.isSome_iff_ne_none, ne_eq, last_value_missing,
      Classical.not_not, List.mem_map]
    simp only [beq_iff_eq]
  cases environment with
  | none =>
      refine ⟨arguments.settings, ?_, counting_options none arguments (.inr rfl)⟩
      rw [Settings.ofArguments, List.append_nil]
  | some label =>
      by_cases filled : label = ""
      · subst filled
        refine ⟨arguments.settings, ?_, counting_options (some "") arguments (.inr rfl)⟩
        rw [Settings.ofArguments, List.append_nil]
      · cases given : lastValue? arguments.switches .logLevel with
        | some value =>
            refine ⟨arguments.settings, ?_, counting_options (some label) arguments (.inl (by simp [given]))⟩
            simp [Settings.ofArguments, mentioned, given]
        | none =>
            refine ⟨_, ?_, counting_environment arguments label filled given⟩
            simp [Settings.ofArguments, mentioned, given]

end Arguments

-- One field of the settings: what the value that was given tells, or else as before.
def Chosen {α : Type} (given : Option String) (tells : String → α → Prop) (before after : α) : Prop :=
  match given with
  | some value => tells value after
  | none => after = before

theorem chosen_later {α : Type} (first second : Option String) (tells : String → α → Prop) (before between after : α)
    (one : Chosen first tells before between) (other : Chosen second tells between after) :
    Chosen (second.or first) tells before after := by
  cases second with
  | some value => exact other
  | none =>
      obtain rfl : after = between := other
      exact one

theorem LogLevel.of_own_label (level : LogLevel) : ofLabel? level.label = some level := by
  have upper : level.label.map Char.toUpper = level.label := by
    rw [← String.toList_inj, String.toList_map]
    cases level <;> decide
  rw [ofLabel?, upper]
  cases level <;> rfl

theorem chosen_told {α : Type} (told : String → Option α) (given : Option String) (after : Option α)
    (chosen : Chosen given (fun value after => after = told value) none after) : after = given.bind told := by
  cases given <;> exact chosen

theorem chosen_or_default {α : Type} (ofLabel? : String → Option α) (given : Option String) (default : String)
    (before after : α) (start : ofLabel? default = some before)
    (chosen : Chosen given (fun label after => ofLabel? label = some after) before after) :
    ofLabel? (given.getD default) = some after := by
  cases given with
  | some label => exact chosen
  | none =>
      obtain rfl : after = before := chosen
      exact start

namespace Settings

structure Reads (given : Switch → Option String) (before after : Settings) : Prop where
  file : Chosen (given .file) (fun path file => file = some path) before.file after.file
  output : Chosen (given .output) (fun path output => output = if path = "-" then none else some path)
    before.output after.output
  format : Chosen (given .emit) (fun label format => OutputFormat.ofLabel? label = some format)
    before.format after.format
  level : Chosen (given .logLevel) (fun label level => LogLevel.ofLabel? label = some level) before.level after.level

theorem Reads.append {front entries : List (Switch × String)} {before between after : Settings}
    (first : Reads (lastValue? front) before between) (second : Reads (lastValue? entries) between after) :
    Reads (lastValue? (front ++ entries)) before after := by
  constructor
  · rw [last_value_append]
    exact chosen_later _ _ _ _ _ _ first.file second.file
  · rw [last_value_append]
    exact chosen_later _ _ _ _ _ _ first.output second.output
  · rw [last_value_append]
    exact chosen_later _ _ _ _ _ _ first.format second.format
  · rw [last_value_append]
    exact chosen_later _ _ _ _ _ _ first.level second.level

def Takes (files : FileSystem) (switch : Switch) (value : String) : Prop :=
  match switch with
  | .file => ∃ content, files.read value = .ok content
  | .emit => ∃ format, OutputFormat.ofLabel? value = some format
  | .logLevel => ∃ level, LogLevel.ofLabel? value = some level
  | .output | .version | .help => True

theorem set_reads (files : FileSystem) (before : Settings) (switch : Switch) (value : String)
    (takes : Takes files switch value) :
    ∃ after, before.set files (switch, value) = .ok after ∧ Reads (lastValue? [(switch, value)]) before after := by
  cases switch with
  | file =>
      obtain ⟨content, found⟩ := takes
      refine ⟨{ before with file := some value }, by simp [set, found], ?_⟩
      constructor <;> simp [last_value_single, Chosen]
  | output =>
      refine ⟨{ before with output := if value = "-" then none else some value }, rfl, ?_⟩
      constructor <;> simp [last_value_single, Chosen]
  | emit =>
      obtain ⟨format, found⟩ := takes
      refine ⟨{ before with format := format }, by simp [set, found], ?_⟩
      constructor <;> simp [last_value_single, Chosen, found]
  | logLevel =>
      obtain ⟨level, found⟩ := takes
      refine ⟨{ before with level := level }, by simp [set, found], ?_⟩
      constructor <;> simp [last_value_single, Chosen, found]
  | version =>
      refine ⟨before, rfl, ?_⟩
      constructor <;> simp [last_value_single, Chosen]
  | help =>
      refine ⟨before, rfl, ?_⟩
      constructor <;> simp [last_value_single, Chosen]

theorem fold_reads (files : FileSystem) (entries : List (Switch × String)) (before : Settings)
    (takes : ∀ entry ∈ entries, Takes files entry.1 entry.2) :
    ∃ after, entries.foldlM (set files) before = .ok after ∧ Reads (lastValue? entries) before after := by
  induction entries generalizing before with
  | nil => exact ⟨before, rfl, rfl, rfl, rfl, rfl⟩
  | cons entry entries ih =>
      obtain ⟨between, step, first⟩ := set_reads files before entry.1 entry.2 (takes entry (by simp))
      obtain ⟨after, run, second⟩ := ih between fun other member => takes other (by simp [member])
      refine ⟨after, ?_, first.append second⟩
      rw [List.foldlM_cons]
      show (before.set files (entry.1, entry.2)).bind _ = _
      rw [step]
      exact run

theorem of_arguments_reads (files : FileSystem) (environment : Option String) (arguments : Arguments)
    (takes : ∀ switch value, arguments.effective? environment switch = some value → Takes files switch value) :
    ∃ settings, ofArguments files environment arguments = .ok settings ∧
      Reads (arguments.effective? environment) initial settings := by
  obtain ⟨entries, folded, counting⟩ := Arguments.effective_entries files environment arguments
  obtain ⟨settings, run, reads⟩ := fold_reads files entries initial fun entry member =>
    takes entry.1 entry.2 (counting.each entry member)
  rw [funext counting.last] at reads
  exact ⟨settings, folded.trans run, reads⟩

end Settings

end ExprCompiler
