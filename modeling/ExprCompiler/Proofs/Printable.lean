import ExprCompiler.Assembly.Listing
import ExprCompiler.Tree.Printer
import Mathlib.Algebra.Ring.Int.Defs

set_option autoImplicit false

namespace ExprCompiler

theorem map_m_ok {α β : Type} (print : α → Except PrintError β) (spelling : α → β) (list : List α)
    (printed : ∀ entry ∈ list, print entry = .ok (spelling entry)) : list.mapM print = .ok (list.map spelling) := by
  induction list with
  | nil => rfl
  | cons entry list ih =>
      rw [List.mapM_cons, printed entry (by simp), ih fun other member => printed other (by simp [member])]
      rfl

namespace Text

theorem decimal_short (value : Int) (short : digitCount value ≤ maxDigits) : decimal value = .ok (toString value) :=
  if_pos short

theorem decimal_long (value : Int) (long : ¬ digitCount value ≤ maxDigits) : decimal value = .error .tooManyDigits :=
  if_neg long

end Text

namespace Token

def Printable (token : Token) : Prop :=
  ∀ value, token.value = some value → Text.digitCount value ≤ Text.maxDigits

def spelling (token : Token) : String :=
  match token.value with
  | some value => s!"{token.kind.name}({Text.quoted token.lexeme} -> {value})"
  | none => s!"{token.kind.name}({Text.quoted token.lexeme})"

def spelledLine (token : Token) : String :=
  s!"{token.location.text}\t{token.spelling}"

theorem text_spelling (token : Token) (printable : token.Printable) : token.text = .ok token.spelling := by
  unfold text TokenKind.text spelling
  cases known : token.value with
  | none => rfl
  | some value =>
      simp only [Text.decimal_short value (printable value known)]
      rfl

theorem dump_shown (tokens : List Token) (printable : ∀ token ∈ tokens, token.Printable) :
    dump tokens = .ok ("\n".intercalate (tokens.map spelledLine)) := by
  rw [dump, map_m_ok dumpLine spelledLine]
  · rfl
  · intro token member
    rw [dumpLine, token.text_spelling (printable token member)]
    rfl

end Token

def Expr.literals : Expr → List Int
  | .num value => [value]
  | .binary _ left right => left.literals ++ right.literals

namespace Instr

def pushed? : Instr → Option Int
  | .pushValue value => some value
  | _ => none

def Printable (instr : Instr) : Prop :=
  ∀ value, instr.pushed? = some value → Text.digitCount value ≤ Text.maxDigits

-- The text of an instruction whose operand may have any number of digits.
def spelling : Instr → String
  | .pushValue value => s!"push {value}"
  | .push register => s!"push {register.text}"
  | .pop register => s!"pop {register.text}"
  | .add => "add rax, rdi"
  | .sub => "sub rax, rdi"
  | .imul => "imul rax, rdi"
  | .cqo => "cqo"
  | .idiv => "idiv rdi"
  | .cmp => "cmp rax, rdi"
  | .set condition => s!"set{condition.suffix} al"
  | .movzb => "movzb rax, al"
  | .ret => "ret"

theorem text_spelling (instr : Instr) (printable : instr.Printable) : instr.text = .ok instr.spelling := by
  cases instr with
  | pushValue value =>
      rw [text, Text.decimal_short value (printable value rfl)]
      rfl
  | _ => rfl

end Instr

namespace Tree

theorem code_num (value : Int) (span : Option Span) : (Tree.num value span).code = [.pushValue value] := by
  simp only [code_nodes, postOrder_num, List.flatMap_cons, List.flatMap_nil, List.append_nil, nodeCode]

theorem code_binary (op : Operator) (left right : Tree) (span : Option Span) :
    (Tree.binary op left right span).code = left.code ++ right.code ++ op.code := by
  simp only [code_nodes, postOrder_binary, List.flatMap_append, List.flatMap_cons, List.flatMap_nil, List.append_nil, nodeCode]

theorem code_pushes (tree : Tree) : tree.code.filterMap Instr.pushed? = tree.expr.literals := by
  induction tree with
  | num value span =>
      rw [code_num]
      rfl
  | binary op left right span ihLeft ihRight =>
      have none : op.code.filterMap Instr.pushed? = [] := by cases op <;> rfl
      rw [code_binary, List.filterMap_append, List.filterMap_append, ihLeft, ihRight, none, List.append_nil, expr,
        Expr.literals]

def Printable (tree : Tree) : Prop :=
  ∀ value ∈ tree.expr.literals, Text.digitCount value ≤ Text.maxDigits

instance (tree : Tree) : Decidable tree.Printable :=
  inferInstanceAs (Decidable (∀ value ∈ tree.expr.literals, Text.digitCount value ≤ Text.maxDigits))

theorem printable_num (value : Int) (span : Option Span) :
    (Tree.num value span).Printable ↔ Text.digitCount value ≤ Text.maxDigits :=
  List.forall_mem_singleton

theorem printable_binary (op : Operator) (left right : Tree) (span : Option Span) :
    (Tree.binary op left right span).Printable ↔ left.Printable ∧ right.Printable :=
  List.forall_mem_append

theorem printable_code (tree : Tree) : tree.Printable ↔ ∀ instr ∈ tree.code, instr.Printable := by
  simp only [Printable, ← tree.code_pushes, List.mem_filterMap, Instr.Printable]
  constructor
  · intro short instr member value pushed
    exact short value ⟨instr, member, pushed⟩
  · rintro short value ⟨instr, member, pushed⟩
    exact short instr member value pushed

theorem instructions_shown (code : List Instr) (printable : ∀ instr ∈ code, instr.Printable) :
    code.mapM Instr.text = .ok (code.map Instr.spelling) :=
  map_m_ok _ _ code fun instr member => instr.text_spelling (printable instr member)

def body (tree : Tree) : List Instr :=
  tree.code ++ [.pop .rax, .ret]

theorem printable_body (tree : Tree) : tree.Printable ↔ ∀ instr ∈ tree.body, instr.Printable := by
  have ending : ∀ instr ∈ [Instr.pop .rax, .ret], instr.Printable := by
    simp [Instr.Printable, Instr.pushed?]
  rw [body, List.forall_mem_append, tree.printable_code]
  exact ⟨fun short => ⟨short, ending⟩, And.left⟩

def assemblyLines (tree : Tree) (entry : String) : List String :=
  [".intel_syntax noprefix", s!".global {entry}", s!"{entry}:"] ++ tree.body.map fun instr => s!"\t{instr.spelling}"

def assembly (tree : Tree) (entry : String) : String :=
  "\n".intercalate (tree.assemblyLines entry) ++ "\n"

theorem listing_lines_shown (tree : Tree) (entry : String) (printable : tree.Printable) :
    tree.listingLines entry = .ok (tree.assemblyLines entry) := by
  rw [listingLines, show tree.code ++ [.pop .rax, .ret] = tree.body from rfl,
    instructions_shown tree.body (tree.printable_body.mp printable)]
  simp only [Except.map, List.map_map, assemblyLines]
  rfl

def label : Tree → String
  | .num value _ => s!"Num {value}"
  | .binary op _ _ _ => op.label

def outlineLines (indent : String) (level : Nat) : Tree → List String
  | .num value span => [String.join (List.replicate level indent) ++ (Tree.num value span).label]
  | .binary op left right span =>
      (String.join (List.replicate level indent) ++ (Tree.binary op left right span).label) ::
        (left.outlineLines indent (level + 1) ++ right.outlineLines indent (level + 1))

theorem node_label_shown (tree : Tree) (printable : tree.Printable) : tree.nodeLabel = .ok tree.label := by
  cases tree with
  | num value span =>
      rw [nodeLabel, Text.decimal_short value ((printable_num value span).mp printable)]
      rfl
  | binary op left right span => rfl

theorem outline_from_shown (indent : String) (pending : List (Nat × Tree)) (found : List String)
    (printable : ∀ entry ∈ pending, entry.2.Printable) :
    outlineFrom indent pending found =
      .ok (found.reverse ++ pending.flatMap fun entry => entry.2.outlineLines indent entry.1) := by
  fun_induction outlineFrom indent pending found with
  | case1 found => simp
  | case2 level tree later found error failed =>
      rw [tree.node_label_shown (printable (level, tree) (by simp))] at failed
      cases failed
  | case3 level later found label line value span shown ih =>
      rw [node_label_shown _ (printable (level, _) (by simp))] at shown
      cases shown
      rw [ih fun entry member => printable entry (by simp [member])]
      simp [line, outlineLines]
  | case4 level later found label line op left right span shown ih =>
      rw [node_label_shown _ (printable (level, _) (by simp))] at shown
      cases shown
      obtain ⟨first, second⟩ := (printable_binary op left right span).mp (printable (level, _) (by simp))
      rw [ih]
      · simp [line, outlineLines]
      · simp only [List.mem_cons, forall_eq_or_imp]
        exact ⟨first, second, fun entry member => printable entry (by simp [member])⟩

theorem node_label_long (value : Int) (span : Option Span) (long : ¬ (Tree.num value span).Printable) :
    (Tree.num value span).nodeLabel = .error .tooManyDigits := by
  rw [nodeLabel, Text.decimal_long value (mt (printable_num value span).mpr long)]
  rfl

theorem node_label_error (tree : Tree) (error : PrintError) (failed : tree.nodeLabel = .error error) :
    error = .tooManyDigits := by
  by_cases printable : tree.Printable
  · rw [tree.node_label_shown printable] at failed
    cases failed
  · cases tree with
    | num value span =>
        rw [node_label_long value span printable] at failed
        exact (Except.error.inj failed).symm
    | binary op left right span => cases failed

theorem outline_from_long (indent : String) (pending : List (Nat × Tree)) (found : List String)
    (long : ∃ entry ∈ pending, ¬ entry.2.Printable) : outlineFrom indent pending found = .error .tooManyDigits := by
  fun_induction outlineFrom indent pending found with
  | case1 found => simp at long
  | case2 level tree later found error failed => rw [tree.node_label_error error failed]
  | case3 level later found label line value span shown ih =>
      apply ih
      obtain ⟨entry, member, bad⟩ := long
      rcases List.mem_cons.mp member with rfl | inside
      · rw [node_label_long value span bad] at shown
        cases shown
      · exact ⟨entry, inside, bad⟩
  | case4 level later found label line op left right span shown ih =>
      -- An operator has a label, so the literal is found later, in one of its operands.
      apply ih
      obtain ⟨entry, member, bad⟩ := long
      rcases List.mem_cons.mp member with rfl | inside
      · rw [printable_binary, Classical.not_and_iff_not_or_not] at bad
        rcases bad with first | second
        · exact ⟨(level + 1, left), by simp, first⟩
        · exact ⟨(level + 1, right), by simp, second⟩
      · exact ⟨entry, by simp [inside], bad⟩

theorem outline_shown (tree : Tree) (indent : String) (printable : tree.Printable) :
    tree.outline indent = .ok ("\n".intercalate (tree.outlineLines indent 0)) := by
  rw [outline, outline_from_shown indent _ _ (List.forall_mem_singleton.mpr printable)]
  simp [Except.map]

theorem outline_long (tree : Tree) (indent : String) (long : ¬ tree.Printable) :
    tree.outline indent = .error .tooManyDigits := by
  rw [outline, outline_from_long indent _ _ ⟨(0, tree), by simp, long⟩]
  rfl

def nested : Tree → String
  | .num value _ => s!"Num({value})"
  | .binary op left right _ => s!"{op.label}({left.nested}, {right.nested})"

-- The nodes of a tree leave one text on the stack, and take nothing that was there before.
theorem replay_shown (tree : Tree) (later : List Tree) (stack : List String) (printable : tree.Printable) :
    replay (tree.postOrder ++ later) stack = replay later (tree.nested :: stack) := by
  induction tree generalizing later stack with
  | num value span =>
      rw [postOrder_num, List.singleton_append, replay,
        Text.decimal_short value ((printable_num value span).mp printable), nested]
      rfl
  | binary op left right span ihLeft ihRight =>
      obtain ⟨first, second⟩ := (printable_binary op left right span).mp printable
      rw [postOrder_binary, List.append_assoc, List.append_assoc, ihLeft _ _ first, ihRight _ _ second,
        List.singleton_append, replay, nested]

theorem replay_long (tree : Tree) (later : List Tree) (stack : List String) (long : ¬ tree.Printable) :
    replay (tree.postOrder ++ later) stack = .error .tooManyDigits := by
  induction tree generalizing later stack with
  | num value span =>
      rw [postOrder_num, List.singleton_append, replay, Text.decimal_long value (mt (printable_num value span).mpr long)]
  | binary op left right span ihLeft ihRight =>
      rw [postOrder_binary, List.append_assoc, List.append_assoc]
      by_cases first : left.Printable
      · have second : ¬ right.Printable := fun second => long ((printable_binary op left right span).mpr ⟨first, second⟩)
        rw [replay_shown left _ _ first, ihRight _ _ second]
      · exact ihLeft _ _ first

theorem replay_whole (tree : Tree) (printable : tree.Printable) : replay tree.postOrder [] = .ok [tree.nested] := by
  have replayed := tree.replay_shown [] [] printable
  rw [List.append_nil] at replayed
  exact replayed

theorem replay_whole_long (tree : Tree) (long : ¬ tree.Printable) : replay tree.postOrder [] = .error .tooManyDigits := by
  have replayed := tree.replay_long [] [] long
  rwa [List.append_nil] at replayed

theorem text_shown (tree : Tree) (printable : tree.Printable) : tree.text = .ok tree.nested := by
  rw [text, tree.replay_whole printable]
  rfl

end Tree

end ExprCompiler
