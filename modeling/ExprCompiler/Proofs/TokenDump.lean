import ExprCompiler.Proofs.AssemblyText
import ExprCompiler.Proofs.CompileFailure
import ExprCompiler.Proofs.LayoutFree
import ExprCompiler.Proofs.SourceLine

set_option autoImplicit false

namespace ExprCompiler

-- A field that does not hold the mark behind it is told from what follows.
theorem field_ends (mark : Char) (field other later rest : List Char) (unmarked : mark ∉ field)
    (otherUnmarked : mark ∉ other) (same : field ++ mark :: later = other ++ mark :: rest) :
    field = other ∧ later = rest := by
  induction field generalizing other with
  | nil =>
      cases other with
      | nil => exact ⟨rfl, (List.cons.inj same).2⟩
      | cons c other =>
          obtain ⟨rfl, _⟩ := List.cons.inj same
          exact absurd (List.mem_cons_self) otherUnmarked
  | cons c field ih =>
      cases other with
      | nil =>
          obtain ⟨rfl, _⟩ := List.cons.inj same
          exact absurd (List.mem_cons_self) unmarked
      | cons d other =>
          obtain ⟨rfl, behind⟩ := List.cons.inj same
          obtain ⟨rfl, rfl⟩ := ih other (List.not_mem_of_not_mem_cons unmarked)
            (List.not_mem_of_not_mem_cons otherUnmarked) behind
          exact ⟨rfl, rfl⟩

theorem value_text_tells (value other : Int) (same : (toString value).toList = (toString other).toList) :
    value = other := by
  have read := congrArg Instr.immediate? same
  rw [Instr.immediate_text, Instr.immediate_text] at read
  exact Option.some.inj read

namespace Text

def isPlain (c : Char) : Bool :=
  quotedChar apostrophe c == [c]

theorem plain_without (text : List Char) (plain : ∀ c ∈ text, isPlain c = true) (c : Char)
    (escaped : isPlain c = false) : c ∉ text := by
  intro member
  rw [plain c member] at escaped
  cases escaped

theorem quoted_plain (text : String) (plain : ∀ c ∈ text.toList, isPlain c = true) :
    (quoted text).toList = apostrophe :: (text.toList ++ [apostrophe]) := by
  have quote : enclosingQuote text.toList = apostrophe := by
    rw [enclosingQuote, if_neg]
    intro both
    exact plain_without text.toList plain apostrophe rfl both.1
  have kept : text.toList.flatMap (quotedChar apostrophe) = text.toList := by
    rw [List.flatMap_congr fun c member => beq_iff_eq.mp (plain c member)]
    exact List.flatMap_singleton' _
  rw [quoted, String.toList_ofList, quotedChars, quote, kept]
  rfl

theorem digit_plain (c : Char) (digit : Lexeme.isDigit c = true) : isPlain c = true := by
  have each : ∀ code ∈ List.range' 48 10, isPlain (Char.ofNat code) = true := by decide
  have inside : c.toNat ∈ List.range' 48 10 := by
    simp only [Lexeme.isDigit, Bool.and_eq_true, decide_eq_true_eq, Char.le_def, UInt32.le_iff_toNat_le] at digit
    rw [List.mem_range'_1]
    exact ⟨digit.1, Nat.lt_succ_of_le digit.2⟩
  have plain := each c.toNat inside
  rw [Char.ofNat_toNat] at plain
  exact plain

theorem operator_plain (operator : String) (listed : operator ∈ Lexeme.operators) :
    ∀ c ∈ operator.toList, isPlain c = true := by
  have each : ∀ operator ∈ Lexeme.operators, operator.toList.all isPlain = true := by decide
  exact List.all_eq_true.mp (each operator listed)

end Text

namespace Token

structure LooksLike (one other : Token) : Prop where
  kind : one.kind = other.kind
  lexeme : one.lexeme = other.lexeme
  value : one.value = other.value
  line : one.location.line = other.location.line
  column : one.location.column = other.location.column

structure Shown (file : String) (token : Token) : Prop where
  named : token.location.file = file
  plain : ∀ c ∈ token.lexeme.toList, Text.isPlain c = true

def closing (token : Token) : List Char :=
  match token.value with
  | some value => " -> ".toList ++ ((toString value).toList ++ [')'])
  | none => [')']

def row (token : Token) : List Char :=
  ':' :: ((toString token.location.line).toList ++ ':' :: ((toString token.location.column).toList ++ '\t' ::
    (token.kind.name.toList ++ '(' :: Text.apostrophe :: (token.lexeme.toList ++ Text.apostrophe :: token.closing))))

variable {file : String} {token other : Token}

theorem text_plain (plain : ∀ c ∈ token.lexeme.toList, Text.isPlain c = true) :
    token.spelling.toList =
      token.kind.name.toList ++ '(' :: Text.apostrophe :: (token.lexeme.toList ++ Text.apostrophe :: token.closing) := by
  have quoted := Text.quoted_plain token.lexeme plain
  cases value : token.value with
  | none =>
      have text : token.spelling = token.kind.name ++ "(" ++ Text.quoted token.lexeme ++ ")" := by
        rw [Token.spelling, value]
        rfl
      rw [text, closing, value]
      simp [quoted]
  | some number =>
      have text : token.spelling =
          token.kind.name ++ "(" ++ Text.quoted token.lexeme ++ " -> " ++ toString number ++ ")" := by
        rw [Token.spelling, value]
        rfl
      rw [text, closing, value]
      simp [quoted]

theorem Shown.line_text (shown : token.Shown file) :
    token.spelledLine.toList = file.toList ++ token.row := by
  show (token.location.file ++ ":" ++ toString token.location.line ++ ":" ++ toString token.location.column ++ "\t" ++
    token.spelling).toList = _
  simp only [String.toList_append, text_plain shown.plain, shown.named, row, List.append_assoc]
  rfl

theorem dump_rows (tokens : List Token) (filled : tokens ≠ []) (shown : ∀ token ∈ tokens, token.Shown file) :
    ("\n".intercalate (tokens.map spelledLine) ++ "\n").toList =
      tokens.flatMap fun token => file.toList ++ token.row ++ ['\n'] := by
  have lines : tokens.map (String.toList ∘ spelledLine) = tokens.map fun token => file.toList ++ token.row :=
    List.map_congr_left fun token member => (shown token member).line_text
  rw [String.toList_append, String.toList_intercalate, List.map_map, lines]
  show ['\n'].intercalate (tokens.map fun token => file.toList ++ token.row) ++ ['\n'] = _
  rw [← ended_lines _ (by simpa using filled), List.flatMap_map]

theorem row_unbroken (plain : ∀ c ∈ token.lexeme.toList, Text.isPlain c = true) : '\n' ∉ token.row := by
  have number (value : Int) : '\n' ∉ (toString value).toList := Instr.value_text_without value '\n' rfl (by decide)
  have name : '\n' ∉ token.kind.name.toList := by cases token.kind <;> decide
  have lexeme := Text.plain_without token.lexeme.toList plain '\n' rfl
  have closing : '\n' ∉ token.closing := by
    unfold Token.closing
    cases token.value with
    | none => decide
    | some value =>
        simp only [List.mem_append, List.mem_singleton, not_or]
        exact ⟨by decide, number value, by decide⟩
  simp only [row, List.mem_cons, List.mem_append, not_or]
  exact ⟨by decide, number _, by decide, number _, by decide, name, by decide, by decide, lexeme, by decide, closing⟩

theorem closing_tells (same : token.closing = other.closing) : token.value = other.value := by
  unfold closing at same
  cases value : token.value with
  | none =>
      cases otherValue : other.value with
      | none => rfl
      | some number => simp [value, otherValue] at same
  | some number =>
      cases otherValue : other.value with
      | none => simp [value, otherValue] at same
      | some otherNumber =>
          simp only [value, otherValue] at same
          rw [value_text_tells number otherNumber (List.append_cancel_right (List.append_cancel_left same))]

theorem name_tells (kind other : TokenKind) (same : kind.name.toList = other.name.toList) : kind = other := by
  cases kind <;> cases other <;> first | rfl | exact absurd same (by decide)

theorem row_tells (plain : ∀ c ∈ token.lexeme.toList, Text.isPlain c = true)
    (otherPlain : ∀ c ∈ other.lexeme.toList, Text.isPlain c = true) (same : token.row = other.row) :
    token.LooksLike other := by
  have number (c : Char) (noDigit : Lexeme.isDigit c = false) (noSign : c ≠ '-') (value : Int) :
      c ∉ (toString value).toList := Instr.value_text_without value c noDigit noSign
  have name (kind : TokenKind) : '(' ∉ kind.name.toList := by cases kind <;> decide
  obtain ⟨line, behindLine⟩ := field_ends ':' _ _ _ _ (number ':' rfl (by decide) _) (number ':' rfl (by decide) _)
    (List.cons.inj same).2
  obtain ⟨column, behindColumn⟩ := field_ends '\t' _ _ _ _ (number '\t' rfl (by decide) _)
    (number '\t' rfl (by decide) _) behindLine
  obtain ⟨kind, behindKind⟩ := field_ends '(' _ _ _ _ (name _) (name _) behindColumn
  obtain ⟨lexeme, closing⟩ := field_ends Text.apostrophe _ _ _ _ (Text.plain_without _ plain _ rfl)
    (Text.plain_without _ otherPlain _ rfl) (List.cons.inj behindKind).2
  exact ⟨name_tells _ _ kind, String.toList_inj.mp lexeme, closing_tells closing, value_text_tells _ _ line,
    value_text_tells _ _ column⟩

theorem LooksLike.alike (looks : token.LooksLike other) : token.Alike other :=
  ⟨looks.kind, fun _ => looks.lexeme, fun _ => looks.value⟩

end Token

theorem Token.Spelled.plain (token : Token) (spelled : token.Spelled) :
    ∀ c ∈ token.lexeme.toList, Text.isPlain c = true := by
  cases spelled with
  | number kind filled digits short value =>
      intro c member
      exact Text.digit_plain c (digits c member)
  | operator kind listed value => exact Text.operator_plain token.lexeme listed

theorem in_turn_shown (file : String) (cursor final : TextCursor) (tokens : List Token)
    (inTurn : ReadInTurn file cursor tokens final) (token : Token) (member : token ∈ tokens) : token.Shown file := by
  induction inTurn with
  | done cursor => cases member
  | turn cursor after final first tokens read rest ih =>
      rcases List.mem_cons.mp member with rfl | inside
      · have reads := TextCursor.next_reads file _ after token read
        exact ⟨by rw [reads.placed, TextCursor.location], Token.Spelled.plain token reads.spelled⟩
      · exact ih inside

theorem scanned_shown (file source : String) (tokens : List Token) (scanned : Token.scan file source = .ok tokens) :
    tokens ≠ [] ∧ ∀ token ∈ tokens, token.Shown file := by
  obtain ⟨front, final, inTurn, _, rfl⟩ := scan_found file source tokens scanned
  refine ⟨by simp, ?_⟩
  intro token member
  rcases List.mem_append.mp member with inside | last
  · exact in_turn_shown file _ final front inTurn token inside
  · obtain rfl := List.mem_singleton.mp last
    exact ⟨rfl, fun c none => absurd none List.not_mem_nil⟩

-- The name of the file may hold any characters, but it is the same in front of every row.
theorem rows_tell (file : String) (tokens others : List Token) (shown : ∀ token ∈ tokens, token.Shown file)
    (otherShown : ∀ token ∈ others, token.Shown file)
    (same : (tokens.flatMap fun token => file.toList ++ token.row ++ ['\n']) =
      others.flatMap fun token => file.toList ++ token.row ++ ['\n']) :
    List.Forall₂ Token.LooksLike tokens others := by
  induction tokens generalizing others with
  | nil =>
      cases others with
      | nil => exact .nil
      | cons other others => simp at same
  | cons token tokens ih =>
      cases others with
      | nil => simp at same
      | cons other others =>
          obtain ⟨first, later⟩ := List.forall_mem_cons.mp shown
          obtain ⟨otherFirst, otherLater⟩ := List.forall_mem_cons.mp otherShown
          simp only [List.flatMap_cons, List.append_assoc, List.singleton_append, List.append_cancel_left_eq] at same
          obtain ⟨rows, behind⟩ := field_ends '\n' _ _ _ _ (Token.row_unbroken first.plain)
            (Token.row_unbroken otherFirst.plain) same
          refine .cons (Token.row_tells first.plain otherFirst.plain rows) (ih others later otherLater ?_)
          simpa only [List.append_assoc] using behind

-- Texts with the same dump have tokens that differ in their offsets at most, which no parser sees.
theorem dump_tells_program (file source text : String) (tokens others : List Token)
    (scanned : Token.scan file source = .ok tokens) (rescanned : Token.scan file text = .ok others)
    (same : compile file source .tokens = compile file text .tokens) :
    tokens.length = others.length ∧ List.Forall₂ Token.LooksLike tokens others ∧
    ∀ format : OutputFormat, format = .asm ∨ format = .ast →
      (∃ output, compile file source format = .ok output ∧ compile file text format = .ok output) ∨
      ∃ (error complaint : SyntaxError) (index : Nat),
        compile file source format = .error (.parse (.rejected error)) ∧
        compile file text format = .error (.parse (.rejected complaint)) ∧ error.code = complaint.code ∧
        tokens[index]? = some error.token ∧ others[index]? = some complaint.token := by
  obtain ⟨filled, shown⟩ := scanned_shown file source tokens scanned
  obtain ⟨otherFilled, otherShown⟩ := scanned_shown file text others rescanned
  have dumps : "\n".intercalate (tokens.map Token.spelledLine) ++ "\n" =
      "\n".intercalate (others.map Token.spelledLine) ++ "\n" := by
    simpa only [compile_dump, scanned, rescanned, Except.ok.injEq] using same
  have rows := congrArg String.toList dumps
  rw [Token.dump_rows tokens filled shown, Token.dump_rows others otherFilled otherShown] at rows
  have looks := rows_tell file tokens others shown otherShown rows
  refine ⟨looks.length_eq, looks, ?_⟩
  exact compile_alike file file source text tokens others scanned rescanned (looks.imp fun _ _ => Token.LooksLike.alike)

theorem trailing_blank_not_dumped :
    let tokens (offset : Int) := [Token.mk .number "1" (some 1) ⟨"a:1\n", 1, 1, 0⟩,
      .mk .reserved "+" none ⟨"a:1\n", 2, 1, offset⟩, .mk .reserved "(" none ⟨"a:1\n", 2, 2, offset + 1⟩,
      .mk .endOfInput "" none ⟨"a:1\n", 2, 3, offset + 2⟩]
    Token.scan "a:1\n" "1\n+(" = .ok (tokens 2) ∧ Token.scan "a:1\n" "1 \n+(" = .ok (tokens 3) ∧
      compile "a:1\n" "1\n+(" .tokens = compile "a:1\n" "1 \n+(" .tokens ∧
      ∃ error complaint : SyntaxError,
        compile "a:1\n" "1\n+(" .asm = .error (.parse (.rejected error)) ∧
        compile "a:1\n" "1 \n+(" .asm = .error (.parse (.rejected complaint)) ∧
        error.code = .missingNumber ∧ complaint.code = .missingNumber := by
  intro tokens
  have scanned : Token.scan "a:1\n" "1\n+(" = .ok (tokens 2) := rfl
  have rescanned : Token.scan "a:1\n" "1 \n+(" = .ok (tokens 3) := rfl
  have same : compile "a:1\n" "1\n+(" .tokens = compile "a:1\n" "1 \n+(" .tokens := by
    rw [compile_dump, compile_dump, scanned, rescanned]
    rfl
  have failed : compile "a:1\n" "1\n+(" .asm =
      .error (.parse (.rejected (.missingNumber (.mk .endOfInput "" none ⟨"a:1\n", 2, 3, 4⟩)))) := rfl
  obtain ⟨_, _, outcomes⟩ := dump_tells_program "a:1\n" "1\n+(" "1 \n+(" _ _ scanned rescanned same
  rcases outcomes .asm (.inl rfl) with ⟨output, compiled, _⟩ | ⟨error, complaint, _, rejected, again, code, _⟩
  · rw [failed] at compiled
    cases compiled
  · rw [failed] at rejected
    cases rejected
    exact ⟨scanned, rescanned, same, _, complaint, failed, again, rfl, code.symm⟩

end ExprCompiler
