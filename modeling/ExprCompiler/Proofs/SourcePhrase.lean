import ExprCompiler.Compile
import ExprCompiler.Proofs.Alike
import ExprCompiler.Proofs.Conservation
import ExprCompiler.Proofs.GrammarExact
import ExprCompiler.Proofs.Layout
import Mathlib.Algebra.Group.Nat.Defs

set_option autoImplicit false

namespace ExprCompiler

theorem CompileM.tell_apply (event : Event) (events : List Event) :
    CompileM.tell event events = .ok ⟨⟩ (events ++ [event]) := rfl

theorem CompileM.tell_parsed_apply (tree : Tree) (position : Nat) (events : List Event) :
    ∃ more, CompileM.tellParsed tree position events = .ok ⟨⟩ (events ++ more) := by
  unfold tellParsed
  cases tree.text with
  | error error => exact ⟨[], by rw [List.append_nil]; rfl⟩
  | ok text => exact ⟨_, rfl⟩

theorem of_source_apply (file source : String) :
    Tree.ofSource file source =
      match Token.scan file source with
      | .error error => .error (.scan error)
      | .ok tokens =>
          match Tree.ofTokens tokens with
          | .error error => .error (.parse error)
          | .ok tree => .ok tree := by
  simp only [Tree.ofSource, CompileM.result, CompileM.tree, CompileM.scan, bind, EStateM.bind]
  cases Token.scan file source with
  | error error => rfl
  | ok tokens =>
      simp only [of_tokens_apply, CompileM.parse, CompileM.tell_apply, pure, EStateM.pure, EStateM.bind, bind]
      cases Tree.parseStart tokens maxNesting with
      | error error => rfl
      | ok result =>
          obtain ⟨more, told⟩ := CompileM.tell_parsed_apply result.1 result.2.position
            ([] ++ [Event.scanned file tokens.length] ++ [Event.tokensReady file tokens.length])
          simp only [ParseState.finish, EStateM.bind, told]
          by_cases last : result.2.current.isEnd = true
          · simp only [last, if_true]
            rfl
          · simp only [last, Bool.false_eq_true, if_false]
            rfl

-- The mark at the end comes behind all that is laid out.
theorem scanned_phrase (file source : String) (tokens : List Token) (tree : Tree)
    (scanned : Token.scan file source = .ok tokens) (parsed : Tree.ofTokens tokens = .ok tree) :
    ∃ (phrase : Phrase .expression) (last : Token), phrase.tree = tree ∧ tokens = phrase.tokens ++ [last] ∧
      last.isEnd = true ∧ phrase.nesting ≤ maxNesting.toNat ∧ Layout 0 source.toList phrase.tokens := by
  obtain ⟨front, last, rfl, layout, ends⟩ := scan_layout file source tokens scanned
  obtain ⟨phrase, stop, ahead, same, fits, split, stopped⟩ :=
    of_tokens_found _ tree ⟨front, last, rfl, ends⟩ parsed
  rcases List.eq_nil_or_concat ahead with rfl | ⟨between, final, rfl⟩
  · obtain ⟨rfl, _⟩ := List.append_inj' split rfl
    exact ⟨phrase, last, same, rfl, ends, fits, layout⟩
  · rw [List.concat_eq_append, ← List.cons_append, ← List.append_assoc] at split
    obtain ⟨rfl, _⟩ := List.append_inj' split rfl
    have inside := Token.Spelled.not_end stop (layout_spelled _ _ _ layout stop (by simp))
    rw [stopped] at inside
    cases inside

theorem accepted_tokens (file source : String) (tree : Tree) (accepted : Tree.ofSource file source = .ok tree) :
    ∃ tokens, Token.scan file source = .ok tokens ∧ Tree.ofTokens tokens = .ok tree := by
  rw [of_source_apply] at accepted
  cases scanned : Token.scan file source with
  | error error =>
      rw [scanned] at accepted
      cases accepted
  | ok tokens =>
      cases parsed : Tree.ofTokens tokens with
      | error error =>
          simp only [scanned, parsed] at accepted
          cases accepted
      | ok found =>
          simp only [scanned, parsed] at accepted
          cases accepted
          exact ⟨tokens, rfl, parsed⟩

theorem accepted_phrase (file source : String) (tree : Tree) (accepted : Tree.ofSource file source = .ok tree) :
    ∃ phrase : Phrase .expression, phrase.tree = tree ∧ phrase.nesting ≤ maxNesting.toNat ∧
      Layout 0 source.toList phrase.tokens := by
  obtain ⟨tokens, scanned, parsed⟩ := accepted_tokens file source tree accepted
  obtain ⟨phrase, last, same, _, _, fits, layout⟩ := scanned_phrase file source tokens tree scanned parsed
  exact ⟨phrase, same, fits, layout⟩

namespace Lexeme

theorem decimal_value_from (digits : List Char) (all : ∀ c ∈ digits, isDigit c = true) (start : Nat) :
    digits.foldl (fun value digit => 10 * value + (digit.toNat - '0'.toNat)) start < (start + 1) * 10 ^ digits.length := by
  induction digits generalizing start with
  | nil => simp
  | cons c digits ih =>
      have digit : c.toNat - '0'.toNat ≤ 9 := by
        have bounds := all c (by simp)
        rw [isDigit, Bool.and_eq_true, decide_eq_true_iff, decide_eq_true_iff] at bounds
        have upper : c.toNat ≤ '9'.toNat := bounds.2
        have nine : '9'.toNat = '0'.toNat + 9 := rfl
        omega
      have later := ih (fun d member => all d (by simp [member])) (10 * start + (c.toNat - '0'.toNat))
      refine Nat.lt_of_lt_of_le later ?_
      rw [List.length_cons, Nat.pow_succ', ← Nat.mul_assoc]
      exact Nat.mul_le_mul_right _ (by omega)

-- Zeros in front only make the literal longer than its value.
theorem decimal_value_short (digits : List Char) (filled : digits ≠ []) (all : ∀ c ∈ digits, isDigit c = true) :
    Text.digitCount (decimalValue digits) ≤ digits.length := by
  have bounded := decimal_value_from digits all 0
  rw [Nat.zero_add, Nat.one_mul] at bounded
  exact (Nat.length_toDigits_le_iff (by decide) (List.length_pos_iff.mpr filled)).mpr bounded

end Lexeme

theorem Token.Spelled.numeral_short (token : Token) (spelled : token.Spelled) (value : Int)
    (numeral : token.numeral? = some value) : Text.digitCount value ≤ Text.maxDigits := by
  cases spelled with
  | number kind filled digits short same =>
      rw [Token.numeral?, Option.ite_none_right_eq_some, same] at numeral
      cases numeral.2
      have bounded := Lexeme.decimal_value_short token.lexeme.toList filled digits
      rw [String.length_toList] at bounded
      exact Nat.le_trans bounded short
  | operator kind listed same => simp [Token.numeral?, same] at numeral

theorem of_source_printable (file source : String) (tree : Tree) (accepted : Tree.ofSource file source = .ok tree) :
    tree.Printable := by
  obtain ⟨phrase, rfl, _, layout⟩ := accepted_phrase file source tree accepted
  intro value inside
  rw [phrase.tree_expr] at inside
  -- A literal of the tree is one of the text, or the zero that a sign subtracts from.
  rcases List.mem_append.mp (phrase.literals_conserved.mem_iff.mp inside) with literal | zero
  · obtain ⟨token, member, numeral⟩ := List.mem_filterMap.mp literal
    exact Token.Spelled.numeral_short token (layout_spelled 0 _ _ layout token member) value numeral
  · obtain rfl := List.eq_of_mem_replicate zero
    decide

theorem read_apply (file source : String) :
    (∃ error events, CompileM.tree file source [] = .error error events ∧ Tree.ofSource file source = .error error) ∨
      ∃ tree events, CompileM.tree file source [] = .ok tree events ∧ Tree.ofSource file source = .ok tree ∧
        tree.Printable := by
  cases read : CompileM.tree file source [] with
  | error error events => exact .inl ⟨error, events, rfl, by simp only [Tree.ofSource, CompileM.result, read]⟩
  | ok tree events =>
      have accepted : Tree.ofSource file source = .ok tree := by simp only [Tree.ofSource, CompileM.result, read]
      exact .inr ⟨tree, events, rfl, accepted, of_source_printable file source tree accepted⟩

theorem compile_listing (file source : String) :
    compile file source .asm = (Tree.ofSource file source).map fun tree => tree.assembly Tree.defaultEntry := by
  simp only [compile, CompileM.output, CompileM.result, bind, EStateM.bind]
  rcases read_apply file source with ⟨error, events, read, failed⟩ | ⟨tree, events, read, accepted, printable⟩
  · simp only [read, failed]
    rfl
  · simp only [read, accepted, tree.listing_lines_shown Tree.defaultEntry printable]
    rfl

theorem compile_outline (file source : String) :
    compile file source .ast =
      (Tree.ofSource file source).map fun tree => "\n".intercalate (tree.outlineLines Tree.defaultIndent 0) ++ "\n" := by
  simp only [compile, CompileM.output, CompileM.result, bind, EStateM.bind]
  rcases read_apply file source with ⟨error, events, read, failed⟩ | ⟨tree, events, read, accepted, printable⟩
  · simp only [read, failed]
    rfl
  · simp only [read, accepted, tree.outline_shown Tree.defaultIndent printable]
    rfl

theorem compile_assembly (file source listing : String) (compiled : compile file source .asm = .ok listing) :
    ∃ tree, Tree.ofSource file source = .ok tree ∧ listing = tree.assembly Tree.defaultEntry := by
  rw [compile_listing] at compiled
  cases accepted : Tree.ofSource file source with
  | error error =>
      rw [accepted] at compiled
      cases compiled
  | ok tree =>
      rw [accepted] at compiled
      cases compiled
      exact ⟨tree, rfl, rfl⟩

theorem content_alike (tokens others : List Token) (same : tokens.map Token.content = others.map Token.content) :
    List.Forall₂ Token.Alike tokens others := by
  induction tokens generalizing others with
  | nil =>
      cases others with
      | nil => exact .nil
      | cons other others => cases same
  | cons token tokens ih =>
      cases others with
      | nil => cases same
      | cons other others =>
          obtain ⟨first, rest⟩ := List.cons.inj same
          simp only [Token.content, Prod.mk.injEq] at first
          exact .cons ⟨first.1, fun _ => first.2.1, fun _ => first.2.2⟩ (ih others rest)

theorem scanned_accepted (file source : String) (phrase : Phrase .expression) (last : Token)
    (scanned : Token.scan file source = .ok (phrase.tokens ++ [last])) (ends : last.isEnd = true)
    (fits : phrase.nesting ≤ maxNesting.toNat) : Tree.ofSource file source = .ok phrase.tree := by
  rw [of_source_apply, scanned]
  simp only
  rw [of_tokens_phrase phrase last [] ⟨_, last, rfl, ends⟩ fits ends]

theorem phrase_accepted (start : Nat) (source : String) (phrase : Phrase .expression)
    (layout : Layout start source.toList phrase.tokens) (fits : phrase.nesting ≤ maxNesting.toNat) (file : String) :
    ∃ other : Phrase .expression, Tree.ofSource file source = .ok other.tree ∧ phrase.Rewritten other := by
  obtain ⟨scanned, last, tokens, same, ends⟩ := layout_scan start source phrase.tokens layout file
  obtain ⟨other, rfl, rewritten⟩ := phrase.rewrite_alike scanned (content_alike _ _ same)
  exact ⟨other, scanned_accepted file source other last tokens ends (rewritten.nesting ▸ fits), rewritten⟩

-- However a text is read as a phrase, its tree is that of the phrase.
theorem phrase_unique (file source : String) (tree : Tree) (accepted : Tree.ofSource file source = .ok tree)
    (start : Nat) (phrase : Phrase .expression) (layout : Layout start source.toList phrase.tokens) :
    ∃ other : Phrase .expression, other.tree = tree ∧ phrase.Rewritten other := by
  obtain ⟨tokens, scanned, parsed⟩ := accepted_tokens file source tree accepted
  obtain ⟨found, last, _, rfl, _, foundFits, _⟩ := scanned_phrase file source tokens tree scanned parsed
  obtain ⟨again, final, rescanned, content, _⟩ := layout_scan start source phrase.tokens layout file
  obtain ⟨written, sameTokens, nested⟩ := phrase.rewrite_alike again (content_alike _ _ content)
  rw [scanned] at rescanned
  obtain ⟨same, _⟩ := List.append_inj' (Except.ok.inj rescanned) rfl
  have fits : phrase.nesting ≤ maxNesting.toNat := by
    rw [← nested.nesting, ← written.shallow_iff, sameTokens, ← same, found.shallow_iff]
    exact foundFits
  obtain ⟨other, reread, rewritten⟩ := phrase_accepted start source phrase layout fits file
  rw [accepted] at reread
  exact ⟨other, (Except.ok.inj reread).symm, rewritten⟩

end ExprCompiler
