import ExprCompiler.Proofs.EarliestError
import ExprCompiler.Proofs.Rendering
import ExprCompiler.Proofs.ScanFailure

set_option autoImplicit false

namespace ExprCompiler

theorem scanned_terminated (file source : String) (tokens : List Token) (scanned : Token.scan file source = .ok tokens) :
    Terminated tokens := by
  obtain ⟨front, last, split, _, ends⟩ := scan_layout file source tokens scanned
  exact ⟨front, last, split, ends⟩

theorem Token.Spelled.printable (token : Token) (spelled : token.Spelled) : token.Printable := by
  intro value known
  cases numeral : token.isNumber with
  | true => exact Token.Spelled.numeral_short token spelled value (by rw [Token.numeral?, if_pos numeral, known])
  | false =>
      cases spelled with
      | number kind => simp [Token.isNumber, kind] at numeral
      | operator kind listed none =>
          rw [none] at known
          cases known

theorem scanned_printable (file source : String) (tokens : List Token) (scanned : Token.scan file source = .ok tokens) :
    ∀ token ∈ tokens, token.Printable := by
  obtain ⟨front, last, rfl, layout, _⟩ := scan_layout file source tokens scanned
  obtain ⟨_, _, _, _, split⟩ := scan_found file source _ scanned
  obtain ⟨_, final⟩ := List.append_inj' split rfl
  intro token member
  rcases List.mem_append.mp member with inside | ending
  · exact Token.Spelled.printable token (layout_spelled 0 _ _ layout token inside)
  · obtain rfl := List.mem_singleton.mp (final ▸ ending)
    exact fun _ => nofun

theorem compile_dump (file source : String) :
    compile file source .tokens =
      match Token.scan file source with
      | .error error => .error (.scan error)
      | .ok tokens => .ok ("\n".intercalate (tokens.map Token.spelledLine) ++ "\n") := by
  simp only [compile, CompileM.output, CompileM.scan, CompileM.result, bind, EStateM.bind]
  cases scanned : Token.scan file source with
  | error error => rfl
  | ok tokens =>
      have shown := Token.dump_shown tokens (scanned_printable file source tokens scanned)
      simp only [CompileM.tell_apply, pure, EStateM.pure, EStateM.bind, shown, CompileM.print]

theorem of_source_failed (file source : String) (error : CompileError)
    (failed : Tree.ofSource file source = .error error) :
    (∃ cause, Token.scan file source = .error cause ∧ error = .scan cause) ∨
      ∃ tokens refusal, Token.scan file source = .ok tokens ∧ Tree.ofTokens tokens = .error (.rejected refusal) ∧
        error = .parse (.rejected refusal) := by
  rw [of_source_apply] at failed
  cases scanned : Token.scan file source with
  | error cause =>
      rw [scanned] at failed
      cases failed
      exact .inl ⟨cause, rfl, rfl⟩
  | ok tokens =>
      cases parsed : Tree.ofTokens tokens with
      | ok tree =>
          simp only [scanned, parsed] at failed
          cases failed
      | error refusal =>
          simp only [scanned, parsed] at failed
          cases failed
          obtain ⟨_, _, _, _, _, _, _, _, rfl⟩ :=
            of_tokens_refused tokens refusal (scanned_terminated file source tokens scanned) parsed
          exact .inr ⟨tokens, _, rfl, parsed, rfl⟩

theorem map_error_iff {ε α β : Type} (result : Except ε α) (render : α → β) (error : ε) :
    result.map render = .error error ↔ result = .error error := by
  cases result <;> simp [Except.map]

theorem compile_error_iff (file source : String) (format : OutputFormat) (error : CompileError) :
    compile file source format = .error error ↔
      Tree.ofSource file source = .error error ∧ (format = .tokens → ∃ cause, error = .scan cause) := by
  cases format with
  | asm => simp [compile_listing, map_error_iff]
  | ast => simp [compile_outline, map_error_iff]
  | tokens =>
      rw [compile_dump, of_source_apply]
      cases Token.scan file source with
      | error cause =>
          constructor
          · intro failed
            cases failed
            exact ⟨rfl, fun _ => ⟨cause, rfl⟩⟩
          · rintro ⟨failed, _⟩
            cases failed
            rfl
      | ok tokens =>
          constructor
          · intro failed
            cases failed
          · rintro ⟨failed, scanFault⟩
            obtain ⟨cause, rfl⟩ := scanFault rfl
            cases parsed : Tree.ofTokens tokens <;> simp [parsed] at failed

inductive CompileError.OfText (source : String) : CompileError → Prop where
  | character (c : Char) (place : Location) (inside : c ∈ source.toList) :
      OfText source (.scan (.invalidCharacter (String.singleton c) place))
  | literal (digits : List Char) (run : digits <:+: source.toList) (all : ∀ c ∈ digits, Lexeme.isDigit c = true)
      (long : 4300 < digits.length) : OfText source (.scan (.literalTooLong digits.length))
  | order (error : SyntaxError) : OfText source (.parse (.rejected error))

theorem scan_error_of_text (file source : String) (cause : ScanError) (failed : Token.scan file source = .error cause) :
    CompileError.OfText source (.scan cause) := by
  obtain ⟨_, final, after, inTurn, refuses, _⟩ := scan_refused file source cause failed
  have reached := (inTurn.reached (TextCursor.reached_start source.toList)).skipBlanks
  have ahead : final.skipBlanks.rest <:+: source.toList := by
    rw [reached.rest]
    exact (List.drop_suffix _ _).isInfix
  cases refuses with
  | character c rest here => exact .character c _ (ahead.subset (by simp [here]))
  | literal long =>
      refine .literal _ ((List.takeWhile_prefix _).isInfix.trans ahead) ?_ long
      intro c member
      exact List.all_eq_true.mp List.all_takeWhile c member

theorem of_source_error_of_text (file source : String) (error : CompileError)
    (failed : Tree.ofSource file source = .error error) : error.OfText source := by
  rcases of_source_failed file source error failed with ⟨cause, scanned, rfl⟩ | ⟨_, refusal, _, _, rfl⟩
  · exact scan_error_of_text file source cause scanned
  · exact .order refusal

def ParseState.followedBy (state : ParseState) (behind : List Token) : ParseState :=
  { state with ahead := state.ahead ++ behind }

-- Tokens behind the mark at the end are never looked at: whatever they are, they change nothing.
theorem parse_start_unread (tokens behind : List Token) (limit : Int) (terminated : Terminated tokens)
    (followed : Terminated (tokens ++ behind)) :
    Tree.parseStart (tokens ++ behind) limit =
      (Tree.parseStart tokens limit).map fun found => (found.1, found.2.followedBy behind) := by
  cases started : Tree.parseStart tokens limit with
  | ok found =>
      obtain ⟨tree, after⟩ := found
      obtain ⟨phrase, _, fits, rfl, _, stops⟩ := parse_start_found tokens limit tree after terminated started
      rw [parse_start_phrase phrase limit after.current after.ahead terminated fits stops] at started
      obtain ⟨rfl, place⟩ := Prod.mk.inj (Except.ok.inj started)
      rw [List.append_assoc, List.cons_append] at followed ⊢
      rw [parse_start_phrase phrase limit _ _ followed fits stops, ← place]
      rfl
  | error error =>
      obtain ⟨passed, rest, progress, token, rfl, walked, stuck, inside, rfl⟩ :=
        parse_start_refused tokens limit error terminated started
      rw [List.append_assoc, List.cons_append] at followed ⊢
      cases again : Tree.parseStart (passed ++ token :: (rest ++ behind)) limit with
      | ok found =>
          obtain ⟨phrase, _, fits, split, _, stops⟩ := parse_start_found _ limit found.1 found.2 followed again
          have phraseWalked := phrase.walked limit 0 (by simpa using fits)
          have phraseStuck : Progress.step limit ⟨.continuation, 0⟩ found.2.current = none := by
            simp [Progress.step, stops]
          obtain ⟨_, rfl, _⟩ := Progress.stuck_unique _ _ _ _ _ _ _ _ _ _ walked stuck phraseWalked phraseStuck split
          exact absurd (inside rfl) (Nat.lt_irrefl 0)
      | error other =>
          obtain ⟨gone, later, stopped, second, split, walkedAgain, stuckAgain, _, rfl⟩ :=
            parse_start_refused _ limit other followed again
          obtain ⟨_, rfl, rfl⟩ := Progress.stuck_unique _ _ _ _ _ _ _ _ _ _ walked stuck walkedAgain stuckAgain split
          rfl

theorem of_label (kind : NodeKind) : NodeKind.ofLabel? kind.label = some kind := by
  cases kind with
  | num => rfl
  | binary op => cases op <;> rfl

def Tree.Formed : Tree → Prop
  | .num _ _ => True
  | .binary op left right span =>
      Tree.ofParts op.label (some left) (some right) span = .ok (.binary op left right span) ∧
        (NodeKind.binary op).joiningCode = .ok (Tree.binary op left right span).nodeCode

theorem Tree.formed (tree : Tree) : tree.Formed := by
  cases tree with
  | num value span => trivial
  | binary op left right span =>
      refine ⟨?_, rfl⟩
      rw [Tree.ofParts, Operator.label, of_label]
      rfl

theorem compile_as_label (file source : String) (format : OutputFormat) :
    compileAs file source format.label = compile file source format := by
  cases format <;> rfl

-- A text compiles or is refused for what stands in it. What is refused as assembly is refused as an
-- outline, and as tokens if it cannot be scanned. No check inside fails: the tokens end with a mark,
-- which the parser does not pass, every operator node is made from parts that fit and has its code,
-- and printing a tree never lacks an operand.
theorem compile_refuses_text_only (file source : String) :
    (∀ label ∈ ["asm", "ast", "tokens"], (∃ text, compileAs file source label = .ok text) ∨
      ∃ error, compileAs file source label = .error error ∧ error.OfText source) ∧
    (∀ error, compileAs file source "asm" = .error error ↔ compileAs file source "ast" = .error error) ∧
    (∀ error, compileAs file source "tokens" = .error error ↔
      compileAs file source "asm" = .error error ∧ ∃ cause, error = .scan cause) ∧
    (∀ tokens, Token.scan file source = .ok tokens →
      (∃ parser, Parser.ofTokens tokens maxNesting = .ok parser) ∧
      ∀ behind, Terminated (tokens ++ behind) →
        Tree.parseStart (tokens ++ behind) maxNesting =
          (Tree.parseStart tokens maxNesting).map fun found => (found.1, found.2.followedBy behind)) ∧
    (∀ tree, Tree.ofSource file source = .ok tree → tree.Printable) ∧
    ∀ tree : Tree, tree.Formed ∧
      ((∃ text, tree.text = .ok text ∧ Tree.replay tree.postOrder [] = .ok [text]) ∨
        ¬ tree.Printable ∧ Tree.replay tree.postOrder [] = .error .tooManyDigits) := by
  have asm := compile_as_label file source .asm
  have ast := compile_as_label file source .ast
  have tokens := compile_as_label file source .tokens
  simp only [OutputFormat.label] at asm ast tokens
  have whole (format : OutputFormat) : (∃ text, compile file source format = .ok text) ∨
      ∃ error, compile file source format = .error error ∧ error.OfText source := by
    cases compiled : compile file source format with
    | ok text => exact .inl ⟨text, rfl⟩
    | error error =>
        have failed := ((compile_error_iff file source format error).mp compiled).1
        exact .inr ⟨error, rfl, of_source_error_of_text file source error failed⟩
  refine ⟨?_, ?_, ?_, ?_, of_source_printable file source, ?_⟩
  · simp only [List.mem_cons, List.not_mem_nil, or_false, forall_eq_or_imp, forall_eq, asm, ast, tokens]
    exact ⟨whole .asm, whole .ast, whole .tokens⟩
  · intro error
    simp [asm, ast, compile_error_iff]
  · intro error
    simp [asm, tokens, compile_error_iff]
  · intro scanned found
    have terminated := scanned_terminated file source scanned found
    refine ⟨?_, fun behind followed => parse_start_unread scanned behind maxNesting terminated followed⟩
    obtain ⟨first, ahead, rfl⟩ := terminated_filled scanned terminated
    rw [Parser.ofTokens, if_pos (terminated_last first ahead terminated)]
    exact ⟨_, rfl⟩
  · intro tree
    refine ⟨tree.formed, ?_⟩
    by_cases printable : tree.Printable
    · exact .inl ⟨_, tree.text_shown printable, tree.replay_whole printable⟩
    · exact .inr ⟨printable, tree.replay_whole_long printable⟩

theorem unclosed_expression_refused :
    let error : CompileError := .parse (.rejected (.missingSymbol ")" (.onFirstLine .endOfInput "" none "" 2)))
    let tokens := [Token.onFirstLine .reserved "(" none "" 0, .onFirstLine .number "1" (some 1) "" 1,
      .onFirstLine .endOfInput "" none "" 2]
    compileAs "" "(1" "asm" = .error error ∧ error.OfText "(1" ∧ compileAs "" "(1" "ast" = .error error ∧
      (∃ text, compileAs "" "(1" "tokens" = .ok text) ∧ Token.scan "" "(1" = .ok tokens ∧
      ∃ parser, Parser.ofTokens tokens maxNesting = .ok parser := by
  intro error tokens
  obtain ⟨each, together, scanner, constructed, _⟩ := compile_refuses_text_only "" "(1"
  have failed : compileAs "" "(1" "asm" = .error error := rfl
  refine ⟨failed, ?_, (together error).mp failed, ?_, rfl, (constructed tokens rfl).1⟩
  · rcases each "asm" (by simp) with ⟨text, compiled⟩ | ⟨other, refused, ofText⟩
    · rw [failed] at compiled
      cases compiled
    · rw [failed] at refused
      exact Except.error.inj refused ▸ ofText
  · rcases each "tokens" (by simp) with shown | ⟨other, refused, _⟩
    · exact shown
    · obtain ⟨again, cause, rfl⟩ := (scanner other).mp refused
      exact CompileError.noConfusion (Except.error.inj (failed.symm.trans again))

end ExprCompiler
