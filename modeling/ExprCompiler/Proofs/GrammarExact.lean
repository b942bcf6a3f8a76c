import ExprCompiler.Proofs.ParseList

set_option autoImplicit false

namespace ExprCompiler

def nestingLevel (tokens : List Token) (index : Nat) : Int :=
  ((tokens.take (index + 1)).countP fun token => token.isSymbol "(") -
    ((tokens.take (index + 1)).countP fun token => token.isSymbol ")")

def Shallow (limit : Int) (tokens : List Token) : Prop :=
  ∀ (index : Nat) (token : Token), tokens[index]? = some token → token.isSymbol "(" = true →
    nestingLevel tokens index ≤ limit

-- The tokens in front of index `stop` are a phrase for the expression, and go no further.
structure DerivedUpTo (tokens : List Token) (limit : Int) (stop : Nat) (expr : Expr) : Prop where
  derived : ∃ phrase : Phrase .expression, phrase.tokens = tokens.take stop ∧ phrase.expr = expr
  shallow : Shallow limit (tokens.take stop)
  ends : ∃ next : Token, tokens[stop]? = some next ∧
    ∀ connective : Connective, next.isSymbol connective.symbol = false

def Within (limit level : Int) : List Token → Prop
  | [] => True
  | token :: later =>
      (token.isSymbol "(" = true → level + 1 ≤ limit) ∧ Within limit (level + token.weight) later

theorem nesting_level_sum (tokens : List Token) (index : Nat) :
    nestingLevel tokens index = ((tokens.take (index + 1)).map Token.weight).sum :=
  (Token.weight_sum _).symm

theorem nesting_level_first (token : Token) (later : List Token) :
    nestingLevel (token :: later) 0 = token.weight := by
  simp [nesting_level_sum]

theorem nesting_level_later (token : Token) (later : List Token) (index : Nat) :
    nestingLevel (token :: later) (index + 1) = token.weight + nestingLevel later index := by
  simp [nesting_level_sum]

theorem levels_within (limit level : Int) (tokens : List Token) :
    (∀ (index : Nat) (token : Token), tokens[index]? = some token → token.isSymbol "(" = true →
      level + nestingLevel tokens index ≤ limit) ↔ Within limit level tokens := by
  induction tokens generalizing level with
  | nil => simp [Within]
  | cons first later ih =>
      rw [Within, ← ih]
      constructor
      · intro bounded
        constructor
        · intro opens
          have level := bounded 0 first rfl opens
          rw [nesting_level_first, Token.weight, if_pos opens] at level
          exact level
        · intro index token found opens
          have level := bounded (index + 1) token found opens
          rw [nesting_level_later] at level
          omega
      · rintro ⟨firstBounded, laterBounded⟩ index token found opens
        cases index with
        | zero =>
            cases found
            rw [nesting_level_first, Token.weight, if_pos opens]
            exact firstBounded opens
        | succ index =>
            have level := laterBounded index token found opens
            rw [nesting_level_later]
            omega

theorem within_plain (limit level : Int) (token : Token) (later : List Token)
    (plain : token.isSymbol "(" = false ∧ token.isSymbol ")" = false) :
    Within limit level (token :: later) ↔ Within limit level later := by
  simp [Within, token.weight_plain plain, plain]

theorem Phrase.within {layer : Layer} (phrase : Phrase layer) (limit level : Int) (later : List Token) :
    Within limit level (phrase.tokens ++ later) ↔
      (phrase.nesting = 0 ∨ level + phrase.nesting ≤ limit) ∧ Within limit level later := by
  induction phrase generalizing level later with
  | number token numeral =>
      have plain := And.intro (token.number_no_symbol "(" numeral) (token.number_no_symbol ")" numeral)
      simp only [tokens, nesting, List.cons_append, List.nil_append, within_plain _ _ _ _ plain, true_or, true_and]
  | group opening closing opens closes inner ih =>
      have notOpening : closing.isSymbol "(" = false := by simp [closing.symbol_unique _ _ closes]
      have closedLevel : level + opening.weight + closing.weight = level := by
        simp only [Token.weight, opens, notOpening, closes, if_true, Bool.false_eq_true, if_false]
        omega
      simp only [tokens, List.cons_append, List.append_assoc, List.nil_append, Within, ih, closedLevel]
      simp only [opens, notOpening, Token.weight, if_true, nesting, Bool.false_eq_true, false_implies, true_and,
        true_implies, ← and_assoc, and_congr_left_iff]
      omega
  | positive sign written operand ih =>
      rw [tokens, List.cons_append, within_plain _ _ _ _ (Connective.plain .plus sign written), ih, nesting]
  | negative sign written operand ih =>
      rw [tokens, List.cons_append, within_plain _ _ _ _ (Connective.plain .minus sign written), ih, nesting]
  | single compound part ih => exact ih level later
  | joined connective inLayer symbol written left right ihLeft ihRight =>
      rw [tokens, List.append_assoc, List.cons_append, ihLeft, within_plain _ _ _ _ (connective.plain symbol written),
        ihRight, nesting, ← and_assoc]
      simp only [and_congr_left_iff]
      omega

theorem Phrase.shallow_iff {layer : Layer} (phrase : Phrase layer) (limit : Int) :
    Shallow limit phrase.tokens ↔ phrase.nesting ≤ limit.toNat := by
  have within := phrase.within limit 0 []
  have levels := levels_within limit 0 phrase.tokens
  simp only [List.append_nil, Within, and_true] at within
  simp only [Int.zero_add] at levels within
  rw [Shallow, levels, within]
  omega

theorem parse_start_derived (tokens : List Token) (limit : Int) (tree : Tree) (after : ParseState)
    (terminated : Terminated tokens) (parsed : Tree.parseStart tokens limit = .ok (tree, after)) :
    DerivedUpTo tokens limit after.position tree.expr := by
  obtain ⟨phrase, rfl, fits, rfl, place, stops⟩ := parse_start_found tokens limit tree after terminated parsed
  have front : (phrase.tokens ++ after.current :: after.ahead).take after.position = phrase.tokens := by
    simp [place]
  constructor
  · exact ⟨phrase, front.symm, phrase.tree_expr.symm⟩
  · rw [front, phrase.shallow_iff]
    exact fits
  · refine ⟨after.current, by simp [place], ?_⟩
    intro connective
    exact (Layer.expression_stops_iff after.current).mpr stops connective (Nat.zero_le _)

theorem derived_parse_start (tokens : List Token) (limit : Int) (stop : Nat) (expr : Expr)
    (terminated : Terminated tokens) (derived : DerivedUpTo tokens limit stop expr) :
    ∃ tree after, Tree.parseStart tokens limit = .ok (tree, after) ∧ tree.expr = expr ∧
      after.position = stop ∧ tokens[stop]? = some after.current := by
  obtain ⟨⟨phrase, front, rfl⟩, shallow, next, found, ends⟩ := derived
  have within : stop < tokens.length := (List.getElem?_eq_some_iff.mp found).1
  have place : phrase.tokens.length = stop := by
    rw [front, List.length_take]
    omega
  have split : tokens = phrase.tokens ++ next :: tokens.drop (stop + 1) := by
    rw [front, ← (List.getElem?_eq_some_iff.mp found).2, List.getElem_cons_drop, List.take_append_drop]
  have fits : phrase.nesting ≤ limit.toNat := by
    rw [← phrase.shallow_iff, front]
    exact shallow
  have stops : next.isConnective = false :=
    (Layer.expression_stops_iff next).mp fun connective _ => ends connective
  have parsed := parse_start_phrase phrase limit next (tokens.drop (stop + 1)) (split ▸ terminated) fits stops
  rw [← split] at parsed
  exact ⟨_, _, parsed, phrase.tree_expr, place, found⟩

-- The parser stops behind the longest phrase that the tokens start with, and there is no other way
-- to read them. The whole list is accepted when the mark at the end comes next.
theorem parser_exact (tokens : List Token) (terminated : Terminated tokens) :
    (∀ (limit : Int) (stop : Nat) (expr : Expr),
      (∃ tree after, Tree.parseStart tokens limit = .ok (tree, after) ∧ tree.expr = expr ∧
        after.position = stop ∧ tokens[stop]? = some after.current) ↔ DerivedUpTo tokens limit stop expr) ∧
    (∀ (limit : Int) (stop other : Nat) (expr second : Expr), DerivedUpTo tokens limit stop expr →
      DerivedUpTo tokens limit other second → stop = other ∧ expr = second) ∧
    (∀ expr : Expr, (∃ tree, Tree.ofTokens tokens = .ok tree ∧ tree.expr = expr) ↔
      ∃ stop last, DerivedUpTo tokens 100 stop expr ∧ tokens[stop]? = some last ∧ last.isEnd = true) := by
  refine ⟨?_, ?_, ?_⟩
  · intro limit stop expr
    constructor
    · rintro ⟨tree, after, parsed, rfl, rfl, _⟩
      exact parse_start_derived tokens limit tree after terminated parsed
    · exact derived_parse_start tokens limit stop expr terminated
  · intro limit stop other expr second one two
    obtain ⟨tree, after, parsed, rfl, rfl, _⟩ := derived_parse_start tokens limit stop expr terminated one
    obtain ⟨tree', after', parsed', rfl, rfl, _⟩ := derived_parse_start tokens limit other second terminated two
    rw [parsed] at parsed'
    cases parsed'
    exact ⟨rfl, rfl⟩
  · intro expr
    rw [of_tokens_apply]
    constructor
    · rintro ⟨tree, parsed, rfl⟩
      cases started : Tree.parseStart tokens maxNesting with
      | error error =>
          rw [started] at parsed
          cases parsed
      | ok result =>
          obtain ⟨found, after⟩ := result
          have derived := parse_start_derived tokens maxNesting found after terminated started
          simp only [started] at parsed
          split at parsed
          · rename_i last
            cases parsed
            obtain ⟨_, _, again, _, _, next⟩ := derived_parse_start _ _ _ _ terminated derived
            rw [started] at again
            cases again
            exact ⟨after.position, after.current, derived, next, last⟩
          · cases parsed
    · rintro ⟨stop, last, derived, next, ends⟩
      obtain ⟨tree, after, parsed, same, _, current⟩ := derived_parse_start tokens 100 stop expr terminated derived
      rw [next] at current
      cases current
      refine ⟨tree, ?_, same⟩
      change Tree.parseStart tokens maxNesting = _ at parsed
      simp only [parsed, ends, if_true]

theorem parser_exact_reversed_comparison :
    let tokens := [Token.onFirstLine .number "1" (some 1) "" 0, .onFirstLine .reserved ">" none "" 1,
      .onFirstLine .reserved "-" none "" 2, .onFirstLine .reserved "(" none "" 3,
      .onFirstLine .number "2" (some 2) "" 4, .onFirstLine .reserved ")" none "" 5,
      .onFirstLine .endOfInput "" none "" 6]
    DerivedUpTo tokens 1 6 (.binary .lessThan (.binary .sub (.num 0) (.num 2)) (.num 1)) := by
  intro tokens
  have terminated : Terminated tokens := ⟨tokens.take 6, .onFirstLine .endOfInput "" none "" 6, rfl, rfl⟩
  exact ((parser_exact tokens terminated).1 1 6 _).mp ⟨_, _, rfl, rfl, rfl, rfl⟩

end ExprCompiler
