import ExprCompiler.CommandLine.Arguments

set_option autoImplicit false

namespace ExprCompiler

-- An operand, or an option in one of the forms that it can be written in: `--file in`, `--file=in`,
-- `-f in` and `-fin`.
inductive CommandItem where
  | operand (text : String) (plain : text.toList.head? ≠ some '-' ∨ text = "-")
  | long (switch : Switch) (valued : switch.takesValue = true) (value : String)
  | joined (switch : Switch) (valued : switch.takesValue = true) (value : String)
  | short (switch : Switch) (letter : Char) (named : switch.letter? = some letter) (value : String)
  | attached (switch : Switch) (letter : Char) (named : switch.letter? = some letter) (value : String)
      (filled : value ≠ "")

namespace CommandItem

def words : CommandItem → List String
  | .operand text _ => [text]
  | .long switch _ value => [switch.long, value]
  | .joined switch _ value => [switch.long ++ "=" ++ value]
  | .short _ letter _ value => [String.ofList ['-', letter], value]
  | .attached _ letter _ value _ => [String.ofList ('-' :: letter :: value.toList)]

def switch? : CommandItem → Option (Switch × String)
  | .operand _ _ => none
  | .long switch _ value | .joined switch _ value | .short switch _ _ value | .attached switch _ _ value _ =>
      some (switch, value)

def operand? : CommandItem → Option String
  | .operand text _ => some text
  | .long .. | .joined .. | .short .. | .attached .. => none

end CommandItem

-- A line of items. All that stands behind `--` are operands.
structure CommandText where
  items : List CommandItem
  behind : Option (List String)

namespace CommandText

def words (line : CommandText) : List String :=
  line.items.flatMap CommandItem.words ++
    match line.behind with
    | none => []
    | some operands => "--" :: operands

def arguments (line : CommandText) : Arguments :=
  ⟨line.items.filterMap CommandItem.switch?, line.items.filterMap CommandItem.operand? ++ line.behind.getD []⟩

end CommandText

namespace Reading

theorem of_operand (text : String) (plain : text.toList.head? ≠ some '-' ∨ text = "-") :
    ofArgument text = .operand := by
  unfold ofArgument
  split
  · rename_i second rest split
    rcases plain with other | rfl
    · rw [split] at other
      exact absurd rfl other
    · cases split
  · rfl

theorem split_value_name (text : List Char) : (splitValue text).1 = String.ofList (text.takeWhile (· != '=')) := by
  rw [splitValue]
  split <;> rfl

theorem split_value_some (name value : List Char) (plain : '=' ∉ name) :
    splitValue (name ++ '=' :: value) = (String.ofList name, some (String.ofList value)) := by
  have all : ∀ c ∈ name, (c != '=') = true := fun c member => by
    simpa using fun same : c = '=' => plain (same ▸ member)
  rw [splitValue, List.takeWhile_append_of_pos all, List.dropWhile_append_of_pos all]
  simp

theorem of_long (switch : Switch) (valued : switch.takesValue = true) :
    ofArgument switch.long = .setting switch switch.long none := by
  revert valued
  cases switch <;> decide

theorem of_joined (switch : Switch) (valued : switch.takesValue = true) (value : String) :
    ofArgument (switch.long ++ "=" ++ value) = .setting switch switch.long (some value) := by
  have known : Switch.ofLong? switch.long = some switch := by cases switch <;> rfl
  have split := split_value_some switch.long.toList value.toList (by cases switch <;> decide)
  rw [String.ofList_toList, String.ofList_toList] at split
  obtain ⟨rest, dashed⟩ : ∃ rest, switch.long.toList = '-' :: '-' :: rest := by cases switch <;> exact ⟨_, rfl⟩
  unfold ofArgument
  rw [String.toList_append, String.toList_append, List.append_assoc]
  rw [dashed] at split ⊢
  simp only [List.cons_append] at split ⊢
  simp [split, known, valued]

theorem no_long_name (letter : Char) (other : letter ≠ '-') (rest : List Char) :
    Switch.ofLong? (splitValue ('-' :: letter :: rest)).1 = none := by
  rw [Switch.ofLong?, List.find?_eq_none]
  intro switch _ same
  have second : switch.long.toList.tail.head? = some '-' := by cases switch <;> rfl
  rw [eq_of_beq same, split_value_name, String.toList_ofList, List.takeWhile_cons_of_pos (by rfl), List.tail_cons,
    List.head?_takeWhile] at second
  simp [other] at second

theorem of_letter (switch : Switch) (letter : Char) (named : switch.letter? = some letter) (value : List Char) :
    ofArgument (String.ofList ('-' :: letter :: value)) =
      .setting switch (String.ofList ['-', letter]) (if value.isEmpty then none else some (String.ofList value)) := by
  have known : Switch.ofLetter? letter = some switch := by cases switch <;> cases named <;> rfl
  have other : letter ≠ '-' := by cases switch <;> cases named <;> decide
  unfold ofArgument
  rw [String.toList_ofList]
  simp only [no_long_name letter other value, if_neg other, ofLetter, known]

end Reading

namespace Arguments

def add (arguments : Arguments) (item : CommandItem) : Arguments :=
  ⟨item.switch?.toList ++ arguments.switches, item.operand?.toList ++ arguments.operands⟩

theorem split_item (item : CommandItem) (later : List String) :
    split (item.words ++ later) = (split later).map (·.add item) := by
  cases item with
  | operand text plain =>
      have inside : text ≠ "--" := by
        rintro rfl
        rcases plain with other | dash
        · exact other rfl
        · exact absurd dash (by decide)
      rw [CommandItem.words, List.singleton_append, split, if_neg inside, Reading.of_operand text plain]
      rfl
  | long switch valued value =>
      have inside : switch.long ≠ "--" := by cases switch <;> decide
      rw [CommandItem.words, List.cons_append, split, if_neg inside, Reading.of_long switch valued]
      rfl
  | joined switch valued value =>
      have inside : switch.long ++ "=" ++ value ≠ "--" := by
        intro same
        have equals : '=' ∈ (switch.long ++ "=" ++ value).toList := by simp
        rw [same] at equals
        exact absurd equals (by decide)
      rw [CommandItem.words, List.singleton_append, split, if_neg inside, Reading.of_joined switch valued value]
      rfl
  | short switch letter named value =>
      have inside : String.ofList ['-', letter] ≠ "--" := by cases switch <;> cases named <;> decide
      rw [CommandItem.words, List.cons_append, split, if_neg inside, Reading.of_letter switch letter named]
      rfl
  | attached switch letter named value filled =>
      have inside : String.ofList ('-' :: letter :: value.toList) ≠ "--" := by
        intro same
        have text := congrArg String.toList same
        rw [String.toList_ofList] at text
        cases switch <;> cases named <;> cases text
      have given : value.toList.isEmpty = false := by simpa using filled
      rw [CommandItem.words, List.singleton_append, split, if_neg inside, Reading.of_letter switch letter named, given,
        String.ofList_toList]
      rfl

end Arguments

theorem CommandText.split_words (line : CommandText) : Arguments.split line.words = .ok line.arguments := by
  obtain ⟨items, behind⟩ := line
  induction items with
  | nil => cases behind <;> rfl
  | cons item items ih =>
      rw [words, arguments] at ih
      rw [words, arguments, List.flatMap_cons, List.append_assoc, Arguments.split_item, ih]
      cases item <;> rfl

end ExprCompiler
