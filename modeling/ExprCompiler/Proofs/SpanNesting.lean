import ExprCompiler.Proofs.ScanFailure
import ExprCompiler.Proofs.SpanText

set_option autoImplicit false

namespace ExprCompiler

namespace Span

def Inside (inner outer : Span) : Prop :=
  outer.start.offset ≤ inner.start.offset ∧ inner.stop.offset ≤ outer.stop.offset

def Apart (one other : Span) : Prop :=
  one.stop.offset ≤ other.start.offset ∨ other.stop.offset ≤ one.start.offset

end Span

theorem in_turn_fits (file : String) (source : List Char) (cursor final : TextCursor) (tokens : List Token)
    (inTurn : ReadInTurn file cursor tokens final) (reached : cursor.Reached source) (token : Token)
    (member : token ∈ tokens) : token.location.Fits source ∧ token.stop.Fits source := by
  induction inTurn with
  | done cursor => cases member
  | turn cursor after final first tokens read rest ih =>
      have start := reached.skipBlanks
      have behind : after.Reached source := TextCursor.next_advances file _ _ _ read ▸ start.further _
      rcases List.mem_cons.mp member with rfl | inside
      · obtain ⟨placed, stopped⟩ := next_stop file _ after token read
        rw [placed, stopped]
        exact ⟨start.fits file, behind.fits file⟩
      · exact ih behind inside

theorem scanned_fits (file source : String) (tokens : List Token) (last : Token)
    (scanned : Token.scan file source = .ok (tokens ++ [last])) (token : Token) (member : token ∈ tokens) :
    token.location.Fits source.toList ∧ token.stop.Fits source.toList := by
  obtain ⟨front, final, inTurn, _, split⟩ := scan_found file source _ scanned
  obtain ⟨rfl, _⟩ := List.append_inj' split rfl
  exact in_turn_fits file source.toList _ final tokens inTurn (TextCursor.reached_start _) token member

theorem InOrder.from_first (tokens : List Token) (first : Token) (ordered : InOrder tokens)
    (starts : tokens.head? = some first) (token : Token) (member : token ∈ tokens) :
    first.location.offset ≤ token.location.offset := by
  obtain ⟨rest, rfl⟩ := List.head?_eq_some_iff.mp starts
  rcases List.mem_cons.mp member with rfl | behind
  · exact Int.le_refl _
  · have gap := (List.pairwise_cons.mp ordered.apart).1 token behind
    have filled := ordered.filled first (by simp)
    omega

theorem InOrder.to_last (tokens : List Token) (last : Token) (ordered : InOrder tokens)
    (ends : tokens.getLast? = some last) (token : Token) (member : token ∈ tokens) :
    token.stop.offset ≤ last.stop.offset := by
  obtain ⟨front, rfl⟩ := List.getLast?_eq_some_iff.mp ends
  rcases List.mem_append.mp member with inFront | isLast
  · have gap := (List.pairwise_append.mp ordered.apart).2.2 token inFront last (by simp)
    have filled := ordered.filled last (by simp)
    omega
  · obtain rfl := List.mem_singleton.mp isLast
    exact Int.le_refl _

theorem covers_inside (before middle after : List Token) (outer inner : Span)
    (ordered : InOrder (before ++ middle ++ after)) (whole : Covers (before ++ middle ++ after) outer)
    (part : Covers middle inner) : inner.Inside outer := by
  obtain ⟨first, last, starts, ends, rfl⟩ := whole
  obtain ⟨start, stop, startFirst, stopLast, rfl⟩ := part
  have startMember := List.mem_of_head? startFirst
  have stopMember := List.mem_of_getLast? stopLast
  constructor
  · exact InOrder.from_first _ first ordered starts start (by simp [startMember])
  · exact InOrder.to_last _ last ordered ends stop (by simp [stopMember])

structure Neighbours (tokens middle : List Token) (one other : Span) : Prop where
  split : ∃ before front back after, tokens = before ++ (front ++ middle ++ back) ++ after ∧ Covers front one ∧
    Covers back other
  apart : one.stop.offset ≤ other.start.offset

namespace Neighbours

variable {one other : Span}

theorem of_covers (front middle back : List Token) (ordered : InOrder (front ++ middle ++ back))
    (first : Covers front one) (second : Covers back other) :
    Neighbours (front ++ middle ++ back) middle one other := by
  refine ⟨⟨[], front, back, [], by simp, first, second⟩, ?_⟩
  obtain ⟨_, last, _, ends, rfl⟩ := first
  obtain ⟨next, _, starts, _, rfl⟩ := second
  have lastMember := List.mem_of_getLast? ends
  have nextMember := List.mem_of_head? starts
  exact (List.pairwise_append.mp ordered.apart).2.2 last (by simp [lastMember]) next nextMember

variable {tokens middle : List Token}

theorem extend (before after : List Token) (near : Neighbours tokens middle one other) :
    Neighbours (before ++ tokens ++ after) middle one other := by
  obtain ⟨⟨start, front, back, rest, rfl, first, second⟩, apart⟩ := near
  exact ⟨⟨before ++ start, front, back, rest ++ after, by simp only [List.append_assoc], first, second⟩, apart⟩

theorem inside (near : Neighbours tokens middle one other) (outer : Span) (ordered : InOrder tokens)
    (whole : Covers tokens outer) : one.Inside outer ∧ other.Inside outer := by
  obtain ⟨⟨before, front, back, after, rfl, first, second⟩, _⟩ := near
  constructor
  · exact covers_inside before front (middle ++ back ++ after) outer one (by simpa using ordered) (by simpa using whole)
      first
  · exact covers_inside (before ++ front ++ middle) back after outer other (by simpa using ordered)
      (by simpa using whole) second

end Neighbours

-- How the operands of a node are written. A sign stands alone: the zero in front of it is not in the
-- text, and lies on the sign.
inductive OperandOrder (tokens : List Token) (op : Operator) (left right : Span) : Prop where
  | forward (symbol : Token) (written : symbol.isSymbol op.symbol = true)
      (operands : Neighbours tokens [symbol] left right)
  | backward (symbol : Token)
      (written : op = .lessThan ∧ symbol.isSymbol ">" = true ∨ op = .lessOrEqual ∧ symbol.isSymbol ">=" = true)
      (operands : Neighbours tokens [symbol] right left)
  | sign (symbol : Token) (member : symbol ∈ tokens) (written : op = .sub ∧ symbol.isSymbol "-" = true)
      (zero : left = symbol.span) (operands : Neighbours tokens [] left right)

namespace OperandOrder

variable {tokens : List Token} {op : Operator} {left right : Span}

theorem extend (before after : List Token) (order : OperandOrder tokens op left right) :
    OperandOrder (before ++ tokens ++ after) op left right := by
  cases order with
  | forward symbol written operands => exact .forward symbol written (operands.extend before after)
  | backward symbol written operands => exact .backward symbol written (operands.extend before after)
  | sign symbol member written zero operands =>
      exact .sign symbol (by simp [member]) written zero (operands.extend before after)

theorem inside (order : OperandOrder tokens op left right) (outer : Span) (ordered : InOrder tokens)
    (whole : Covers tokens outer) : left.Inside outer ∧ right.Inside outer := by
  cases order with
  | forward symbol written operands => exact operands.inside outer ordered whole
  | backward symbol written operands => exact (operands.inside outer ordered whole).symm
  | sign symbol member written zero operands => exact operands.inside outer ordered whole

theorem apart (order : OperandOrder tokens op left right) : left.Apart right := by
  cases order with
  | forward symbol written operands => exact .inl operands.apart
  | backward symbol written operands => exact .inr operands.apart
  | sign symbol member written zero operands => exact .inl operands.apart

end OperandOrder

theorem Connective.build_cases (connective : Connective) (left right : Tree) :
    (∃ op : Operator, connective.rule.build left right = .combine op left right ∧ connective.symbol = op.symbol) ∨
      ∃ op : Operator, connective.rule.build left right = .combine op right left ∧
        (op = .lessThan ∧ connective.symbol = ">" ∨ op = .lessOrEqual ∧ connective.symbol = ">=") := by
  cases connective <;> first | exact .inl ⟨_, rfl, rfl⟩ | exact .inr ⟨_, rfl, by decide⟩

theorem stretch_root (tree : Tree) (first : Token) (last : Option Token) (op : Operator) (left right : Tree)
    (outer : Option Span) (root : tree.stretch first last = .binary op left right outer) :
    ∃ span, tree = .binary op left right span := by
  unfold Tree.stretch at root
  split at root
  · exact ⟨outer, root⟩
  · cases tree with
    | num value span => cases root
    | binary op left right span =>
        cases root
        exact ⟨span, rfl⟩

namespace Phrase

variable {layer : Layer}

theorem operands (phrase : Phrase layer) (ordered : InOrder phrase.tokens) (op : Operator) (left right : Tree)
    (outer : Option Span) (root : phrase.tree = .binary op left right outer) :
    ∃ one other, left.span = some one ∧ right.span = some other ∧ OperandOrder phrase.tokens op one other := by
  induction phrase generalizing outer with
  | number token numeral => cases root
  | group opening closing opens closes inner ih =>
      obtain ⟨span, same⟩ := stretch_root inner.tree opening (some closing) op left right outer root
      have part := InOrder.part [opening] inner.tokens [closing] (by simpa [tokens] using ordered)
      obtain ⟨one, other, first, second, order⟩ := ih part span same
      exact ⟨one, other, first, second, by simpa [tokens] using order.extend [opening] [closing]⟩
  | positive sign written operand ih =>
      obtain ⟨span, same⟩ := stretch_root operand.tree sign none op left right outer root
      have part := InOrder.part [sign] operand.tokens [] (by simpa [tokens] using ordered)
      obtain ⟨one, other, first, second, order⟩ := ih part span same
      exact ⟨one, other, first, second, by simpa [tokens] using order.extend [sign] []⟩
  | negative sign written operand ih =>
      cases root
      have part := InOrder.part [sign] operand.tokens [] (by simpa [tokens] using ordered)
      obtain ⟨span, known, covers⟩ := operand.covered part
      have near := Neighbours.of_covers [sign] [] operand.tokens (by simpa [tokens] using ordered)
        (covers_single sign) covers
      exact ⟨sign.span, span, rfl, known, .sign sign (.head _) ⟨rfl, written⟩ rfl (by simpa [tokens] using near)⟩
  | single compound part ih => exact ih ordered outer root
  | joined connective inLayer symbol written front back ihFront ihBack =>
      have split : (Phrase.joined connective inLayer symbol written front back).tokens =
          front.tokens ++ [symbol] ++ back.tokens := by simp [tokens]
      rw [split] at ordered ⊢
      obtain ⟨one, frontKnown, frontCovers⟩ :=
        front.covered (InOrder.part [] front.tokens ([symbol] ++ back.tokens) (by simpa using ordered))
      obtain ⟨other, backKnown, backCovers⟩ :=
        back.covered (InOrder.part (front.tokens ++ [symbol]) back.tokens [] (by simpa using ordered))
      have near := Neighbours.of_covers front.tokens [symbol] back.tokens ordered frontCovers backCovers
      rw [tree] at root
      rcases connective.build_cases front.tree back.tree with ⟨made, same, spelled⟩ | ⟨made, same, spelled⟩
      · rw [same] at root
        cases root
        exact ⟨one, other, frontKnown, backKnown, .forward symbol (spelled ▸ written) near⟩
      · rw [same] at root
        cases root
        refine ⟨other, one, backKnown, frontKnown, .backward symbol ?_ near⟩
        rcases spelled with ⟨less, spelled⟩ | ⟨lessOrEqual, spelled⟩
        · exact .inl ⟨less, spelled ▸ written⟩
        · exact .inr ⟨lessOrEqual, spelled ▸ written⟩

theorem node_covers (phrase : Phrase layer) (ordered : InOrder phrase.tokens) (node : Tree)
    (member : node ∈ phrase.tree.postOrder) :
    ∃ before part after span, phrase.tokens = before ++ part ++ after ∧ node.span = some span ∧ Covers part span := by
  cases phrase.placed node member with
  | part before after part split shallow same =>
      obtain ⟨span, known, covers⟩ := part.covered (InOrder.part before part.tokens after (split ▸ ordered))
      exact ⟨before, part.tokens, after, span, split, same ▸ known, covers⟩
  | sign before after sign split written zero right outer operand =>
      exact ⟨before, [sign], after, sign.span, split, by rw [zero]; rfl, covers_single sign⟩

theorem node_operands (phrase : Phrase layer) (ordered : InOrder phrase.tokens) (op : Operator) (left right : Tree)
    (outer : Option Span) (member : Tree.binary op left right outer ∈ phrase.tree.postOrder) :
    ∃ span one other, outer = some span ∧ left.span = some one ∧ right.span = some other ∧ one.Inside span ∧
      other.Inside span ∧ OperandOrder phrase.tokens op one other := by
  cases phrase.placed _ member with
  | part before after part split shallow same =>
      have inner := InOrder.part before part.tokens after (split ▸ ordered)
      obtain ⟨span, known, covers⟩ := part.covered inner
      obtain ⟨one, other, first, second, order⟩ := part.operands inner op left right outer same
      obtain ⟨oneInside, otherInside⟩ := order.inside span inner covers
      rw [same] at known
      exact ⟨span, one, other, known, first, second, oneInside, otherInside, split ▸ order.extend before after⟩
  | sign before after sign split written zero => cases zero

end Phrase

theorem spans_nest (file source : String) (tree : Tree) (accepted : Tree.ofSource file source = .ok tree) :
    ∃ (tokens : List Token) (last : Token),
      Token.scan file source = .ok (tokens ++ [last]) ∧ last.isEnd = true ∧
      (∃ span, tree.span = some span ∧ Covers tokens span) ∧
      (∀ node ∈ tree.postOrder, ∃ span, node.span = some span ∧ span.start.offset < span.stop.offset ∧
        span.start.Fits source.toList ∧ span.stop.Fits source.toList) ∧
      ∀ (op : Operator) (left right : Tree) (outer : Option Span),
        Tree.binary op left right outer ∈ tree.postOrder →
        ∃ span one other, outer = some span ∧ left.span = some one ∧ right.span = some other ∧
          one.Inside span ∧ other.Inside span ∧ one.Apart other ∧ OperandOrder tokens op one other := by
  obtain ⟨scan, scanned, parsed⟩ := accepted_tokens file source tree accepted
  obtain ⟨phrase, last, rfl, rfl, ends, _, layout⟩ := scanned_phrase file source scan tree scanned parsed
  have ordered := (layout_in_order 0 _ _ layout).1
  refine ⟨phrase.tokens, last, scanned, ends, phrase.covered ordered, ?_, ?_⟩
  · intro node member
    obtain ⟨before, part, after, span, split, known, covers⟩ := phrase.node_covers ordered node member
    have filled := covers_filled part span (InOrder.part before part after (split ▸ ordered)) covers
    obtain ⟨first, final, starts, stops, rfl⟩ := covers
    have firstMember := List.mem_of_head? starts
    have finalMember := List.mem_of_getLast? stops
    have fits := scanned_fits file source phrase.tokens last scanned
    have start := (fits first (by simp [split, firstMember])).1
    have stop := (fits final (by simp [split, finalMember])).2
    exact ⟨_, known, filled, start, stop⟩
  · intro op left right outer member
    obtain ⟨span, one, other, known, first, second, oneInside, otherInside, order⟩ :=
      phrase.node_operands ordered op left right outer member
    exact ⟨span, one, other, known, first, second, oneInside, otherInside, order.apart, order⟩

theorem reversed_operands_nest :
    let place (offset : Int) : Location := ⟨"", 2, offset - 1, offset⟩
    let four : Span := ⟨⟨"", 1, 1, 0⟩, ⟨"", 1, 2, 1⟩⟩
    let negation := Tree.binary .sub (.num 0 (some ⟨place 10, place 11⟩)) (.num 3 (some ⟨place 11, place 12⟩))
      (some ⟨place 10, place 12⟩)
    let difference := Tree.binary .sub (.num 2 (some ⟨place 6, place 7⟩)) negation (some ⟨place 5, place 13⟩)
    let tree := Tree.binary .lessOrEqual difference (.num 4 (some four)) (some ⟨four.start, place 13⟩)
    Tree.ofSource "" "4\n>= (2 - -3)" = .ok tree ∧
      ∃ (tokens : List Token) (last symbol : Token), Token.scan "" "4\n>= (2 - -3)" = .ok (tokens ++ [last]) ∧
        symbol.isSymbol ">=" = true ∧ Neighbours tokens [symbol] four ⟨place 5, place 13⟩ := by
  intro place four negation difference tree
  have accepted : Tree.ofSource "" "4\n>= (2 - -3)" = .ok tree := by
    rw [of_source_apply]
    rfl
  obtain ⟨tokens, last, scanned, _, _, _, operands⟩ := spans_nest "" "4\n>= (2 - -3)" tree accepted
  have root : tree ∈ tree.postOrder := (Tree.mem_post_order tree tree).mpr (.inl rfl)
  obtain ⟨_, one, other, _, left, right, _, _, _, order⟩ := operands _ _ _ _ root
  cases left
  cases right
  cases order with
  | forward symbol written near => exact absurd near.apart (by decide)
  | backward symbol written near =>
      rcases written with ⟨less, _⟩ | ⟨_, written⟩
      · cases less
      · exact ⟨accepted, tokens, last, symbol, scanned, written, near⟩
  | sign symbol member written => cases written.1

end ExprCompiler
