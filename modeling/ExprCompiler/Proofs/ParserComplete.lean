import ExprCompiler.Proofs.ParserSteps

set_option autoImplicit false

namespace ExprCompiler

theorem Connective.stops_operand (connective : Connective) (token : Token)
    (written : token.isSymbol connective.symbol = true) : connective.layer.tighter.Stops token := by
  intro other reached
  rw [token.symbol_unique _ _ written, decide_eq_false_iff_not]
  intro same
  have equal := symbol_injective connective other same
  subst equal
  revert reached
  cases connective <;> decide

theorem Connective.layer_chained (connective : Connective) (primary : ParseM Tree) (state : ParseState) :
    connective.layer.builtOn primary state =
      ParseM.chain connective.layer.rules (connective.layer.tighter.builtOn primary) state := by
  cases connective <;> rfl

theorem Layer.rules_stop (layer : Layer) (token : Token) (stops : layer.Stops token) :
    (layer.rules.find? fun rule => token.isSymbol rule.symbol) = none := by
  cases found : layer.rules.find? fun rule => token.isSymbol rule.symbol with
  | none => rfl
  | some rule =>
      obtain ⟨connective, inLayer, _, written⟩ := layer.rule_found token rule found
      rw [stops connective (Nat.le_of_eq (congrArg rank inLayer.symm))] at written
      cases written

namespace ParseState

def behind (state : ParseState) (tokens : List Token) (next : Token) (ahead : List Token) : ParseState :=
  ⟨state.position + tokens.length, next, ahead, state.depth⟩

theorem advance_split (state : ParseState) (token : Token) (later : List Token)
    (split : state.remaining = token :: later) (filled : later ≠ []) :
    state.current = token ∧ state.advance.remaining = later ∧ state.advance.position = state.position + 1 := by
  obtain ⟨current, ahead⟩ := List.cons.inj split
  cases later with
  | nil => exact absurd rfl filled
  | cons next later =>
      rw [state.advance_cons next later ahead]
      exact ⟨current, rfl, rfl⟩

end ParseState

namespace Phrase

variable {layer : Layer}

def Complete (phrase : Phrase layer) : Prop :=
  ∀ (limit : Int) (room : Nat) (state : ParseState) (next : Token) (ahead : List Token),
    state.remaining = phrase.tokens ++ next :: ahead → phrase.nesting ≤ room → layer.Stops next →
    layer.builtOn (ParseM.primary limit room) state = .ok phrase.tree (state.behind phrase.tokens next ahead)

-- Behind a phrase of a repetition the loop goes on as if it had started with the phrase's tree.
def Resumes (phrase : Phrase layer) : Prop :=
  ∀ (limit : Int) (room : Nat) (state : ParseState) (next : Token) (ahead : List Token),
    state.remaining = phrase.tokens ++ next :: ahead → phrase.nesting ≤ room → layer.tighter.Stops next →
    ∃ bound : List Token, ahead.length ≤ bound.length ∧
      layer.builtOn (ParseM.primary limit room) state =
        ParseM.chainFrom layer.rules (layer.tighter.builtOn (ParseM.primary limit room)) bound phrase.tree
          (state.behind phrase.tokens next ahead)

theorem complete_of_resumes (phrase : Phrase layer) (resumes : phrase.Resumes) : phrase.Complete := by
  intro limit room state next ahead split fits stops
  obtain ⟨bound, _, resumed⟩ := resumes limit room state next ahead split fits (layer.stops_tighter next stops)
  rw [resumed]
  exact ParseM.chainFrom_stop _ _ _ _ _ (layer.rules_stop next stops)

theorem single_resumes (connective : Connective) (compound : connective.layer ≠ .primary)
    (part : Phrase connective.layer.tighter) (complete : part.Complete) :
    (single compound part).Resumes := by
  intro limit room state next ahead split fits stops
  refine ⟨ahead, Nat.le_refl _, ?_⟩
  have chained := connective.layer_chained (ParseM.primary limit room) state
  rw [ParseM.chain_apply, complete limit room state next ahead split fits stops] at chained
  exact chained

theorem joined_resumes (connective : Connective) (symbol : Token)
    (written : symbol.isSymbol connective.symbol = true) (left : Phrase connective.layer)
    (right : Phrase connective.layer.tighter) (resumes : left.Resumes) (complete : right.Complete) :
    (joined connective rfl symbol written left right).Resumes := by
  intro limit room state next ahead split fits stops
  simp only [tokens, List.append_assoc, List.cons_append] at split
  simp only [nesting] at fits
  obtain ⟨bound, enough, resumed⟩ := resumes limit room state symbol (right.tokens ++ next :: ahead) split
    (by omega) (connective.stops_operand symbol written)
  cases bound with
  | nil => simp at enough
  | cons token bound =>
      refine ⟨bound, ?_, ?_⟩
      · simp only [List.length_append, List.length_cons] at enough
        omega
      · let middle := state.behind left.tokens symbol (right.tokens ++ next :: ahead)
        obtain ⟨_, unread, moved⟩ := middle.advance_split symbol (right.tokens ++ next :: ahead) rfl (by simp)
        have operand := complete limit room middle.advance next ahead unread (by omega) stops
        have place : middle.advance.behind right.tokens next ahead =
            state.behind (joined connective rfl symbol written left right).tokens next ahead := by
          simp only [ParseState.behind, moved, middle.advance_depth, tokens, List.length_append, List.length_cons]
          simp only [middle, ParseState.behind, ParseState.mk.injEq, and_self, and_true]
          omega
        rw [resumed, ParseM.chainFrom_turn _ _ _ _ _ _ _ (Layer.find_rule connective symbol written), operand,
          ← place]
        rfl

theorem number_complete (token : Token) (numeral : token.isNumber = true) :
    (number token numeral).Complete := by
  intro limit room state next ahead split fits stops
  obtain ⟨rfl, filled⟩ := List.cons.inj split
  have plain := state.current.number_no_symbol "(" numeral
  change ParseM.primary limit room state = _
  rw [ParseM.primary_number limit room state plain, dif_pos numeral, state.advance_cons next ahead filled]
  rfl

theorem group_complete (opening closing : Token) (opens : opening.isSymbol "(" = true)
    (closes : closing.isSymbol ")" = true) (inner : Phrase .expression) (complete : inner.Complete) :
    (group opening closing opens closes inner).Complete := by
  intro limit room state next ahead split fits stops
  simp only [tokens, List.cons_append, List.append_assoc, List.nil_append] at split
  simp only [nesting] at fits
  obtain ⟨rfl, unread, moved⟩ := state.advance_split opening _ split (by simp)
  have innerStops : Layer.expression.Stops closing := by
    intro connective _
    rw [closing.symbol_unique _ _ closes, decide_eq_false_iff_not]
    exact connective.symbol_no_parenthesis.2.symm
  cases room with
  | zero => omega
  | succ room =>
      have read := complete limit room state.advance.openParenthesis closing (next :: ahead) unread
        (by omega) innerStops
      change ParseM.equality (ParseM.primary limit room) state.advance.openParenthesis = _ at read
      change ParseM.primary limit (room + 1) state = _
      rw [ParseM.primary_group limit room state opens, read]
      dsimp only [ParseState.behind]
      rw [if_pos closes, ParseState.advance_cons _ next ahead rfl]
      simp only [ParseState.closeParenthesis, ParseState.openParenthesis, state.advance_depth, moved, tree,
        tokens, List.length_cons, List.length_append, List.length_nil, Nat.add_sub_cancel]
      simp only [EStateM.Result.ok.injEq, ParseState.mk.injEq, and_true, true_and]
      omega

theorem signed_place (state : ParseState) (sign next : Token) (operand ahead : List Token)
    (split : state.remaining = sign :: (operand ++ next :: ahead)) :
    state.current = sign ∧ state.advance.remaining = operand ++ next :: ahead ∧
      state.advance.behind operand next ahead = state.behind (sign :: operand) next ahead := by
  obtain ⟨current, unread, moved⟩ := state.advance_split sign _ split (by simp)
  refine ⟨current, unread, ?_⟩
  simp only [ParseState.behind, moved, state.advance_depth, List.length_cons, ParseState.mk.injEq, and_true]
  omega

theorem positive_complete (sign : Token) (written : sign.isSymbol "+" = true) (operand : Phrase .primary)
    (complete : operand.Complete) : (positive sign written operand).Complete := by
  intro limit room state next ahead split fits stops
  obtain ⟨rfl, unread, place⟩ := signed_place state sign next operand.tokens ahead split
  have read := complete limit room state.advance next ahead unread fits (Layer.operand_stops _ (.inr rfl) next)
  change ParseM.primary limit room state.advance = _ at read
  have applied := ParseM.unary_plus (ParseM.primary limit room) state written
  rw [read, place] at applied
  exact applied

theorem negative_complete (sign : Token) (written : sign.isSymbol "-" = true) (operand : Phrase .primary)
    (complete : operand.Complete) : (negative sign written operand).Complete := by
  intro limit room state next ahead split fits stops
  obtain ⟨rfl, unread, place⟩ := signed_place state sign next operand.tokens ahead split
  have read := complete limit room state.advance next ahead unread fits (Layer.operand_stops _ (.inr rfl) next)
  change ParseM.primary limit room state.advance = _ at read
  have applied := ParseM.unary_minus (ParseM.primary limit room) state written
  rw [read, place] at applied
  exact applied

theorem unsigned_complete (compound : Layer.unary ≠ .primary) (operand : Phrase .primary)
    (complete : operand.Complete) : (single compound operand : Phrase .unary).Complete := by
  intro limit room state next ahead split fits stops
  obtain ⟨first, rest, start, unsigned⟩ := primary_first operand
  change state.remaining = operand.tokens ++ next :: ahead at split
  have read := complete limit room state next ahead split fits (Layer.operand_stops _ (.inr rfl) next)
  change ParseM.primary limit room state = _ at read
  rw [start] at split
  obtain ⟨rfl, _⟩ := List.cons.inj split
  have applied := ParseM.unary_plain (ParseM.primary limit room) state unsigned
  rw [read] at applied
  exact applied

theorem single_complete (compound : layer ≠ .primary) (part : Phrase layer.tighter)
    (complete : part.Complete) : (single compound part).Complete := by
  cases layer with
  | expression =>
      intro limit room state next ahead split fits stops
      exact complete limit room state next ahead split fits (Layer.stops_tighter .expression next stops)
  | equality => exact complete_of_resumes _ (single_resumes .equal compound part complete)
  | relational => exact complete_of_resumes _ (single_resumes .less compound part complete)
  | additive => exact complete_of_resumes _ (single_resumes .plus compound part complete)
  | multiplicative => exact complete_of_resumes _ (single_resumes .times compound part complete)
  | unary => exact unsigned_complete compound part complete
  | primary => exact absurd rfl compound

theorem complete_and_resumes (phrase : Phrase layer) :
    phrase.Complete ∧ ∀ connective : Connective, connective.layer = layer → phrase.Resumes := by
  induction phrase with
  | number token numeral =>
      refine ⟨number_complete token numeral, ?_⟩
      intro connective inLayer
      exact absurd inLayer (connective_not_primary connective)
  | group opening closing opens closes inner ih =>
      refine ⟨group_complete opening closing opens closes inner ih.1, ?_⟩
      intro connective inLayer
      exact absurd inLayer (connective_not_primary connective)
  | positive sign written operand ih =>
      refine ⟨positive_complete sign written operand ih.1, ?_⟩
      intro connective inLayer
      cases connective <;> cases inLayer
  | negative sign written operand ih =>
      refine ⟨negative_complete sign written operand ih.1, ?_⟩
      intro connective inLayer
      cases connective <;> cases inLayer
  | single compound part ih =>
      refine ⟨single_complete compound part ih.1, ?_⟩
      rintro connective rfl
      exact single_resumes connective compound part ih.1
  | joined connective inLayer symbol written left right ihLeft ihRight =>
      subst inLayer
      have resumes := joined_resumes connective symbol written left right (ihLeft.2 connective rfl) ihRight.1
      exact ⟨complete_of_resumes _ resumes, fun _ _ => resumes⟩

theorem parsed (phrase : Phrase layer) (limit : Int) (state : ParseState) (next : Token)
    (ahead : List Token) (split : state.remaining = phrase.tokens ++ next :: ahead)
    (fits : phrase.nesting ≤ (limit - state.depth).toNat) (stops : layer.Stops next) :
    layer.parse limit state = .ok phrase.tree (state.behind phrase.tokens next ahead) :=
  phrase.complete_and_resumes.1 limit _ state next ahead split fits stops

end Phrase

end ExprCompiler
