import ExprCompiler.Proofs.ParseAlike
import ExprCompiler.Proofs.Rendering
import ExprCompiler.Proofs.Written

set_option autoImplicit false

namespace ExprCompiler

inductive Token.ReadAs (token : Token) (lexeme : String) : Prop where
  | number (numeral : Lexeme.IsNumeral lexeme) (kind : token.kind = .number) (same : token.lexeme = lexeme)
      (value : token.value = some (Lexeme.positionalValue lexeme.toList : Int))
  | operator (listed : lexeme ∈ Lexeme.operators) (kind : token.kind = .reserved) (same : token.lexeme = lexeme)
      (value : token.value = none)

theorem Token.Spelled.read (token : Token) (spelled : token.Spelled) : token.ReadAs token.lexeme := by
  cases spelled with
  | number kind filled digits short value =>
      have positive : 1 ≤ token.lexeme.length := by
        rw [← String.length_toList]
        exact List.length_pos_iff.mpr filled
      exact .number ⟨positive, short, digits⟩ kind rfl (by rw [value, Lexeme.decimal_value_positional])
  | operator kind listed value => exact .operator listed kind rfl value

theorem Lexeme.numeral_no_operator (lexeme : String) (numeral : IsNumeral lexeme) : lexeme ∉ operators := by
  intro listed
  obtain ⟨c, rest, text, noDigit, _⟩ := operator_start lexeme listed
  rw [numeral.2.2 c (by simp [text])] at noDigit
  cases noDigit

theorem Token.ReadAs.alike (one other : Token) (lexeme : String) (first : one.ReadAs lexeme)
    (second : other.ReadAs lexeme) : one.Alike other := by
  cases first with
  | number numeral kind same value =>
      cases second with
      | number _ otherKind otherSame otherValue =>
          exact ⟨kind.trans otherKind.symm, fun _ => same.trans otherSame.symm, fun _ => value.trans otherValue.symm⟩
      | operator listed => exact absurd listed (Lexeme.numeral_no_operator lexeme numeral)
  | operator listed kind same value =>
      cases second with
      | number numeral => exact absurd listed (Lexeme.numeral_no_operator lexeme numeral)
      | operator _ otherKind otherSame otherValue =>
          exact ⟨kind.trans otherKind.symm, fun _ => same.trans otherSame.symm, fun _ => value.trans otherValue.symm⟩

theorem read_alike (tokens others : List Token) (lexemes : List String)
    (first : List.Forall₂ Token.ReadAs tokens lexemes) (second : List.Forall₂ Token.ReadAs others lexemes) :
    List.Forall₂ Token.Alike tokens others := by
  induction first generalizing others with
  | nil =>
      cases second
      exact .nil
  | cons read _ ih =>
      obtain ⟨other, rest, again, later, rfl⟩ := List.forall₂_cons_right_iff.mp second
      exact .cons (read.alike _ other _ again) (ih rest later)

theorem scan_written (front : String) (pieces : List Piece) (spaced : Spaced front pieces) (file : String) :
    ∃ (tokens : List Token) (last : Token), Token.scan file (written front pieces) = .ok (tokens ++ [last]) ∧
      List.Forall₂ Token.ReadAs tokens (pieces.map Piece.lexeme) ∧ last.isEnd = true := by
  obtain ⟨placed, layout, lexemes⟩ := written_layout front pieces spaced 0
  obtain ⟨tokens, last, scanned, content, ends⟩ := layout_scan 0 (written front pieces) placed layout file
  obtain ⟨_, _, split, found, _⟩ := scan_layout file _ _ scanned
  obtain ⟨rfl, _⟩ := List.append_inj' split rfl
  have same : tokens.map Token.lexeme = pieces.map Piece.lexeme := by
    have projected := congrArg (List.map fun content => content.2.1) content
    rw [List.map_map, List.map_map] at projected
    exact projected.trans lexemes
  refine ⟨tokens, last, scanned, ?_, ends⟩
  rw [← same, List.forall₂_map_right_iff, List.forall₂_same]
  intro token member
  exact Token.Spelled.read token (layout_spelled 0 _ tokens found token member)

-- Texts whose tokens the grammar cannot tell apart have the same assembly and the same outline, or
-- none at all, for the same reason.
theorem compile_about (file name source text : String) (tokens others : List Token)
    (scanned : Token.scan file source = .ok tokens) (rescanned : Token.scan name text = .ok others)
    (alike : List.Forall₂ Token.Alike tokens others) (format : OutputFormat) (shown : format = .asm ∨ format = .ast) :
    (∃ output, compile file source format = .ok output ∧ compile name text format = .ok output) ∨
      ∃ (error : SyntaxError) (token : Token) (index : Nat),
        compile file source format = .error (.parse (.rejected error)) ∧
        compile name text format = .error (.parse (.rejected (error.about token))) ∧
        tokens[index]? = some error.token ∧ others[index]? = some token := by
  obtain ⟨render, unplaced, compiled⟩ := compile_rendering format shown
  obtain ⟨front, last, split, _, ends⟩ := scan_layout file source tokens scanned
  simp only [compiled, of_source_apply, scanned, rescanned]
  rcases of_tokens_alike tokens others ⟨front, last, split, ends⟩ alike with
    ⟨tree, other, parsed, reparsed, same⟩ | ⟨error, token, index, failed, refailed, here, there⟩
  · left
    refine ⟨render tree, by rw [parsed]; rfl, ?_⟩
    rw [reparsed, ← unplaced tree, same, unplaced]
    rfl
  · right
    exact ⟨error, token, index, by rw [failed]; rfl, by rw [refailed]; rfl, here, there⟩

theorem compile_alike (file name source text : String) (tokens others : List Token)
    (scanned : Token.scan file source = .ok tokens) (rescanned : Token.scan name text = .ok others)
    (alike : List.Forall₂ Token.Alike tokens others) (format : OutputFormat) (shown : format = .asm ∨ format = .ast) :
    (∃ output, compile file source format = .ok output ∧ compile name text format = .ok output) ∨
      ∃ (error complaint : SyntaxError) (index : Nat),
        compile file source format = .error (.parse (.rejected error)) ∧
        compile name text format = .error (.parse (.rejected complaint)) ∧ error.code = complaint.code ∧
        tokens[index]? = some error.token ∧ others[index]? = some complaint.token := by
  rcases compile_about file name source text tokens others scanned rescanned alike format shown with
    output | ⟨error, token, index, failed, refailed, here, there⟩
  · exact .inl output
  · refine .inr ⟨error, error.about token, index, failed, refailed, (error.about_code token).symm, here, ?_⟩
    rw [error.about_token]
    exact there

theorem layout_free (front : String) (pieces : List Piece) (spaced : Spaced front pieces) :
    (∀ file, ∃ (tokens : List Token) (last : Token),
      Token.scan file (written front pieces) = .ok (tokens ++ [last]) ∧
      List.Forall₂ Token.ReadAs tokens (pieces.map Piece.lexeme) ∧ last.isEnd = true) ∧
    ∀ (other : String) (others : List Piece), Spaced other others →
      others.map Piece.lexeme = pieces.map Piece.lexeme →
      ∀ (file name : String) (format : OutputFormat), format = .asm ∨ format = .ast →
        (∃ output, compile file (written front pieces) format = .ok output ∧
          compile name (written other others) format = .ok output) ∨
        ∃ (tokens again : List Token) (error complaint : SyntaxError) (index : Nat),
          Token.scan file (written front pieces) = .ok tokens ∧
          Token.scan name (written other others) = .ok again ∧
          compile file (written front pieces) format = .error (.parse (.rejected error)) ∧
          compile name (written other others) format = .error (.parse (.rejected complaint)) ∧
          error.code = complaint.code ∧ tokens[index]? = some error.token ∧ again[index]? = some complaint.token := by
  refine ⟨scan_written front pieces spaced, ?_⟩
  intro other others otherSpaced same file name format shown
  obtain ⟨tokens, last, scanned, read, ends⟩ := scan_written front pieces spaced file
  obtain ⟨again, final, rescanned, reread, finalEnds⟩ := scan_written other others otherSpaced name
  have alike : List.Forall₂ Token.Alike (tokens ++ [last]) (again ++ [final]) :=
    List.rel_append (read_alike tokens again _ read (same ▸ reread)) (.cons (Token.alike_ends ends finalEnds) .nil)
  rcases compile_alike file name _ _ _ _ scanned rescanned alike format shown with
    output | ⟨error, complaint, index, failed, refailed, code, here, there⟩
  · exact .inl output
  · exact .inr ⟨_, _, error, complaint, index, scanned, rescanned, failed, refailed, code, here, there⟩

-- With the gap, `<` and `==` are two operators, and an operand is missing between them.
theorem separate_operators_layout_free :
    let dense := [Piece.mk "12" "", .mk "<" " ", .mk "==" "", .mk "3" ""]
    let spread := [Piece.mk "12" "\n", .mk "<" "\t", .mk "==" "\r\n", .mk "3" " "]
    Spaced "" dense ∧ Spaced " " spread ∧ written "" dense = "12< ==3" ∧
      ∃ error complaint : SyntaxError, compile "" "12< ==3" .asm = .error (.parse (.rejected error)) ∧
        compile "" (written " " spread) .asm = .error (.parse (.rejected complaint)) ∧
        error.code = .missingNumber ∧ complaint.code = .missingNumber := by
  intro dense spread
  have denseSpaced : Spaced "" dense := by decide
  have spreadSpaced : Spaced " " spread := by decide
  obtain ⟨_, others⟩ := layout_free "" dense denseSpaced
  have failed : compile "" "12< ==3" .asm =
      .error (.parse (.rejected (.missingNumber (.onFirstLine .reserved "==" none "" 4)))) := rfl
  rcases others " " spread spreadSpaced rfl "" "" .asm (.inl rfl) with
    ⟨output, compiled, _⟩ | ⟨_, _, error, complaint, _, _, _, rejected, again, code, _⟩
  · rw [show written "" dense = "12< ==3" from rfl, failed] at compiled
    cases compiled
  · rw [show written "" dense = "12< ==3" from rfl, failed] at rejected
    cases rejected
    exact ⟨denseSpaced, spreadSpaced, rfl, _, complaint, failed, again, rfl, code.symm⟩

end ExprCompiler
