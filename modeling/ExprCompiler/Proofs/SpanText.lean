import ExprCompiler.Proofs.PhraseSpan
import ExprCompiler.Proofs.SourcePhrase

set_option autoImplicit false

namespace ExprCompiler

def Span.slice (span : Span) (source : String) : String :=
  String.ofList ((source.toList.drop span.start.offset.toNat).take (span.stop.offset - span.start.offset).toNat)

theorem stop_offset (token : Token) : token.stop.offset = token.location.offset + token.lexeme.length := rfl

theorem spelled_length (token : Token) (spelled : token.Spelled) : 0 < token.lexeme.length := by
  obtain ⟨c, rest, text, _⟩ := Token.Spelled.first token spelled
  rw [← String.length_toList, text]
  exact Nat.succ_pos _

theorem layout_in_order (start : Nat) (text : List Char) (tokens : List Token) (layout : Layout start text tokens) :
    InOrder tokens ∧ ∀ token ∈ tokens, (start : Int) ≤ token.location.offset := by
  induction layout with
  | blank start gap blanks => exact ⟨⟨.nil, by simp⟩, by simp⟩
  | token start gap blanks token later tokens spelled longest placed rest ih =>
      obtain ⟨ordered, behind⟩ := ih
      have positive := spelled_length token spelled
      have stop := stop_offset token
      refine ⟨⟨List.pairwise_cons.mpr ⟨?_, ordered.apart⟩, ?_⟩, ?_⟩
      · intro other member
        have further := behind other member
        omega
      · intro other member
        rcases List.mem_cons.mp member with rfl | inside
        · omega
        · exact ordered.filled other inside
      · intro other member
        rcases List.mem_cons.mp member with rfl | inside
        · omega
        · have further := behind other inside
          omega

theorem layout_from (start : Nat) (text : List Char) (before : List Token) (first : Token) (rest : List Token)
    (layout : Layout start text (before ++ first :: rest)) :
    ∃ front behind, text = front ++ behind ∧ ((start + front.length : Nat) : Int) = first.location.offset ∧
      Layout (start + front.length) behind (first :: rest) := by
  induction before generalizing start text with
  | nil =>
      cases layout with
      | token _ gap blanks _ later _ spelled longest placed rest =>
          refine ⟨gap, first.lexeme.toList ++ later, rfl, placed.symm, ?_⟩
          exact Layout.token (start + gap.length) [] (by simp) first later _ spelled longest placed rest
  | cons token before ih =>
      cases layout with
      | token _ gap blanks _ later _ spelled longest placed tail =>
          obtain ⟨front, behind, rfl, reached, found⟩ := ih _ _ tail
          have moved : start + gap.length + token.lexeme.length + front.length =
              start + (gap ++ token.lexeme.toList ++ front).length := by
            simp only [List.length_append, String.length_toList]
            omega
          rw [moved] at reached found
          exact ⟨gap ++ token.lexeme.toList ++ front, behind, by simp only [List.append_assoc], reached, found⟩

-- The text up to the end of a token is laid out as the tokens up to there. What is cut off behind a
-- lexeme cannot make it longer.
theorem layout_up_to (start : Nat) (text : List Char) (tokens after : List Token) (last : Token)
    (ends : tokens.getLast? = some last) (layout : Layout start text (tokens ++ after)) :
    ∃ inside behind, text = inside ++ behind ∧ ((start + inside.length : Nat) : Int) = last.stop.offset ∧
      Layout start inside tokens := by
  induction tokens generalizing start text with
  | nil => cases ends
  | cons token tokens ih =>
      cases layout with
      | token _ gap blanks _ later _ spelled longest placed tail =>
          cases tokens with
          | nil =>
              obtain rfl : token = last := by simpa using ends
              refine ⟨gap ++ (token.lexeme.toList ++ []), later, by simp, ?_, ?_⟩
              · rw [stop_offset, placed, List.append_nil, List.length_append, String.length_toList]
                omega
              · exact Layout.token start gap blanks token [] [] spelled (.front _ [] later longest) placed
                  (.blank _ [] (by simp))
          | cons next tokens =>
              obtain ⟨inside, behind, rfl, reached, found⟩ := ih _ _ (by simpa using ends) tail
              refine ⟨gap ++ (token.lexeme.toList ++ inside), behind, by simp only [List.append_assoc], ?_, ?_⟩
              · rw [← reached]
                simp only [List.length_append, String.length_toList]
                omega
              · exact Layout.token start gap blanks token inside _ spelled (.front _ inside behind longest) placed found

theorem slice_exact (span : Span) (source : String) (front inside behind : List Char)
    (split : source.toList = front ++ inside ++ behind) (starts : (front.length : Int) = span.start.offset)
    (stops : ((front.length + inside.length : Nat) : Int) = span.stop.offset) :
    (span.slice source).toList = inside := by
  have skipped : span.start.offset.toNat = front.length := by omega
  have width : (span.stop.offset - span.start.offset).toNat = inside.length := by omega
  rw [Span.slice, String.toList_ofList, skipped, width, split, List.append_assoc, List.drop_left, List.take_left]

theorem covered_slice (source : String) (before middle after : List Token) (span : Span)
    (layout : Layout 0 source.toList (before ++ middle ++ after)) (covers : Covers middle span) :
    Layout span.start.offset.toNat (span.slice source).toList middle ∧ 0 ≤ span.start.offset ∧
      span.stop.offset ≤ source.length ∧
      ((span.slice source).toList.length : Int) = span.stop.offset - span.start.offset := by
  obtain ⟨first, last, starts, ends, rfl⟩ := covers
  obtain ⟨rest, rfl⟩ := List.head?_eq_some_iff.mp starts
  rw [List.append_assoc] at layout
  obtain ⟨front, behind, split, reached, fromFirst⟩ :=
    layout_from 0 source.toList before first (rest ++ after) layout
  obtain ⟨inside, later, rfl, stopped, found⟩ := layout_up_to _ behind (first :: rest) after last ends fromFirst
  rw [Nat.zero_add] at reached stopped found
  have slice := slice_exact ⟨first.location, last.stop⟩ source front inside later
    (by rw [split, List.append_assoc]) reached stopped
  have total : source.length = front.length + (inside.length + later.length) := by
    rw [← String.length_toList, split, List.length_append, List.length_append]
  have offset : first.location.offset.toNat = front.length := by omega
  rw [slice, offset]
  refine ⟨found, ?_, ?_, ?_⟩ <;> dsimp only <;> omega

theorem single_slice (start : Nat) (text : List Char) (token : Token) (layout : Layout start text [token])
    (starts : (start : Int) = token.location.offset) (width : text.length = token.lexeme.length) :
    text = token.lexeme.toList := by
  cases layout with
  | token _ gap blanks _ later _ spelled longest placed rest =>
      simp only [List.length_append, String.length_toList] at width
      obtain rfl : gap = [] := List.eq_nil_of_length_eq_zero (by omega)
      obtain rfl : later = [] := List.eq_nil_of_length_eq_zero (by omega)
      rw [List.nil_append, List.append_nil]

-- The span lies inside the text, and the text under it is read as the node; but a zero that is there
-- only to be subtracted from lies on the minus sign.
theorem span_text_parses (file source : String) (tree : Tree) (accepted : Tree.ofSource file source = .ok tree)
    (node : Tree) (member : node ∈ tree.postOrder) :
    ∃ span, node.span = some span ∧ 0 ≤ span.start.offset ∧ span.start.offset < span.stop.offset ∧
      span.stop.offset ≤ source.length ∧
      ((span.slice source = "-" ∧ node = .num 0 (some span) ∧
          ∃ right outer, Tree.binary .sub node right outer ∈ tree.postOrder) ∨
        ∀ name, ∃ again, Tree.ofSource name (span.slice source) = .ok again ∧ again.expr = node.expr) := by
  obtain ⟨phrase, rfl, fits, layout⟩ := accepted_phrase file source tree accepted
  have ordered := (layout_in_order 0 _ _ layout).1
  cases phrase.placed node member with
  | part before after part split shallow same =>
      rw [split] at layout ordered
      have partOrdered := InOrder.part before part.tokens after ordered
      obtain ⟨span, known, covers⟩ := part.covered partOrdered
      obtain ⟨found, starts, stops, width⟩ := covered_slice source before part.tokens after span layout covers
      refine ⟨span, same ▸ known, starts, covers_filled _ span partOrdered covers, stops, .inr ?_⟩
      intro name
      obtain ⟨again, read, rewritten⟩ := phrase_accepted _ (span.slice source) part found
        (Nat.le_trans shallow fits) name
      refine ⟨again.tree, read, ?_⟩
      rw [again.tree_expr, rewritten.expr, ← part.tree_expr, same]
  | sign before after sign split written zero right outer operand =>
      rw [split] at layout ordered
      obtain ⟨found, starts, stops, width⟩ := covered_slice source before [sign] after sign.span layout
        (covers_single sign)
      have filled := ordered.filled sign (by simp)
      refine ⟨sign.span, by rw [zero]; rfl, starts, filled, stops, .inl ⟨?_, zero, right, outer, operand⟩⟩
      have minus : sign.lexeme = "-" := ((sign.isSymbol_iff "-").mp written).2
      have startOffset : ((sign.span.start.offset.toNat : Nat) : Int) = sign.location.offset :=
        Int.toNat_of_nonneg starts
      have length : (sign.span.slice source).toList.length = sign.lexeme.length := by
        have stop : sign.span.stop.offset - sign.span.start.offset = sign.lexeme.length := by
          show sign.stop.offset - sign.location.offset = _
          rw [stop_offset]
          omega
        omega
      have text := single_slice _ _ sign found startOffset length
      rw [minus] at text
      exact String.toList_inj.mp text

theorem parenthesized_negation_reparses :
    let place (offset : Int) : Location := ⟨"", 1, offset + 1, offset⟩
    let negation := Tree.binary .sub (.num 0 (some ⟨place 5, place 6⟩)) (.num 2 (some ⟨place 6, place 7⟩))
      (some ⟨place 4, place 8⟩)
    let tree := Tree.binary .lessThan negation (.num 1 (some ⟨place 0, place 1⟩)) (some ⟨place 0, place 8⟩)
    Tree.ofSource "" "1 > (-2)" = .ok tree ∧ negation ∈ tree.postOrder ∧
      ∀ name, ∃ again, Tree.ofSource name "(-2)" = .ok again ∧ again.expr = negation.expr := by
  intro place negation tree
  have accepted : Tree.ofSource "" "1 > (-2)" = .ok tree := by
    rw [of_source_apply]
    rfl
  have member : negation ∈ tree.postOrder :=
    (Tree.mem_post_order tree negation).mpr (.inr ⟨negation, .head _, (Tree.mem_post_order _ _).mpr (.inl rfl)⟩)
  obtain ⟨span, known, _, _, _, ⟨_, zero, _⟩ | again⟩ := span_text_parses "" "1 > (-2)" tree accepted negation member
  · exact Tree.noConfusion zero
  · cases Option.some.inj known
    exact ⟨accepted, member, again⟩

end ExprCompiler
