import ExprCompiler.Proofs.Phrase
import ExprCompiler.Tree.Traversal

set_option autoImplicit false

namespace ExprCompiler

structure InOrder (tokens : List Token) : Prop where
  apart : tokens.Pairwise fun one other => one.stop.offset ≤ other.location.offset
  filled : ∀ token ∈ tokens, token.location.offset < token.stop.offset

theorem InOrder.part (before middle after : List Token) (ordered : InOrder (before ++ middle ++ after)) :
    InOrder middle := by
  refine ⟨?_, fun token member => ordered.filled token (by simp [member])⟩
  have front := (List.pairwise_append.mp ordered.apart).1
  exact (List.pairwise_append.mp front).2.1

def Covers (tokens : List Token) (span : Span) : Prop :=
  ∃ first last, tokens.head? = some first ∧ tokens.getLast? = some last ∧ span = ⟨first.location, last.stop⟩

theorem covers_single (token : Token) : Covers [token] token.span :=
  ⟨token, token, rfl, rfl, rfl⟩

theorem covers_filled (tokens : List Token) (span : Span) (ordered : InOrder tokens) (covers : Covers tokens span) :
    span.start.offset < span.stop.offset := by
  obtain ⟨first, last, starts, ends, rfl⟩ := covers
  obtain ⟨rest, rfl⟩ := List.head?_eq_some_iff.mp starts
  have firstFilled := ordered.filled first (by simp)
  have lastMember := List.mem_of_mem_getLast? (by simp [ends] : last ∈ (first :: rest).getLast?)
  rcases List.mem_cons.mp lastMember with rfl | behind
  · exact firstFilled
  · have gap := (List.pairwise_cons.mp ordered.apart).1 last behind
    have lastFilled := ordered.filled last lastMember
    dsimp only
    omega

theorem hull_apart (front back : Span) (starts : front.start.offset < back.start.offset)
    (stops : front.stop.offset < back.stop.offset) :
    Span.hull front back = ⟨front.start, back.stop⟩ ∧ Span.hull back front = ⟨front.start, back.stop⟩ := by
  have before : front.start.offset ≤ back.start.offset := by omega
  have notAfter : ¬ back.start.offset ≤ front.start.offset := by omega
  have shorter : front.stop.offset ≤ back.stop.offset := by omega
  have notLonger : ¬ back.stop.offset ≤ front.stop.offset := by omega
  simp only [Span.hull, if_pos before, if_neg notAfter, if_pos shorter, if_neg notLonger, and_self]

-- The hull of two parts covers all that lies between them, in whichever order they are given.
theorem covers_hull (front middle back : List Token) (one other : Span)
    (ordered : InOrder (front ++ middle ++ back)) (first : Covers front one) (second : Covers back other) :
    Covers (front ++ middle ++ back) (Span.hull one other) ∧ Span.hull other one = Span.hull one other := by
  obtain ⟨start, frontLast, startFirst, frontEnds, rfl⟩ := first
  obtain ⟨backFirst, stop, backStarts, stopLast, rfl⟩ := second
  have frontMember := List.mem_of_mem_head? (by simp [startFirst] : start ∈ front.head?)
  have frontLastMember := List.mem_of_mem_getLast? (by simp [frontEnds] : frontLast ∈ front.getLast?)
  have backMember := List.mem_of_mem_head? (by simp [backStarts] : backFirst ∈ back.head?)
  have backLastMember := List.mem_of_mem_getLast? (by simp [stopLast] : stop ∈ back.getLast?)
  have apart := (List.pairwise_append.mp ordered.apart).2.2
  have starts : start.location.offset < backFirst.location.offset := by
    have gap := apart start (by simp [frontMember]) backFirst backMember
    have filled := ordered.filled start (by simp [frontMember])
    omega
  have stops : frontLast.stop.offset < stop.stop.offset := by
    have gap := apart frontLast (by simp [frontLastMember]) stop backLastMember
    have filled := ordered.filled stop (by simp [backLastMember])
    omega
  obtain ⟨forward, backward⟩ :=
    hull_apart ⟨start.location, frontLast.stop⟩ ⟨backFirst.location, stop.stop⟩ starts stops
  rw [forward, backward]
  refine ⟨⟨start, stop, ?_, ?_, rfl⟩, rfl⟩
  · simp [startFirst]
  · simp [stopLast]

theorem Tree.mem_post_order (tree node : Tree) :
    node ∈ tree.postOrder ↔ node = tree ∨ ∃ child ∈ tree.children, node ∈ child.postOrder := by
  cases tree with
  | num value span => simp [Tree.postOrder_num, Tree.children]
  | binary op left right span =>
      simp only [Tree.postOrder_binary, Tree.children, List.mem_append, List.mem_cons, List.not_mem_nil, or_false,
        exists_eq_or_imp, exists_eq_left]
      exact or_comm

theorem Tree.stretch_children (tree : Tree) (first : Token) (last : Option Token) :
    (tree.stretch first last).children = tree.children := by
  unfold Tree.stretch
  split
  · rfl
  · cases tree <;> rfl

theorem Connective.mem_build_children (connective : Connective) (left right child : Tree) :
    child ∈ (connective.rule.build left right).children ↔ child = left ∨ child = right := by
  have forward (op : Operator) : child ∈ (Tree.combine op left right).children ↔ child = left ∨ child = right := by
    simp [Tree.combine_apply, Tree.children]
  have backward (op : Operator) : child ∈ (Tree.combine op right left).children ↔ child = left ∨ child = right := by
    simp [Tree.combine_apply, Tree.children, or_comm]
  cases connective <;> first | exact forward _ | exact backward _

theorem Connective.build_span (connective : Connective) (left right : Tree) :
    (connective.rule.build left right).span = Span.join left.span right.span ∨
      (connective.rule.build left right).span = Span.join right.span left.span := by
  cases connective <;> first | exact .inl rfl | exact .inr rfl

theorem stretch_span (tree : Tree) (span : Span) (first : Token) (last : Option Token)
    (known : tree.span = some span) :
    (tree.stretch first last).span =
      some ⟨first.location, match last with | some token => token.stop | none => span.stop⟩ := by
  unfold Tree.stretch
  rw [known]
  cases tree <;> rfl

namespace Phrase

variable {layer : Layer}

theorem covered (phrase : Phrase layer) (ordered : InOrder phrase.tokens) :
    ∃ span, phrase.tree.span = some span ∧ Covers phrase.tokens span := by
  induction phrase with
  | number token numeral => exact ⟨token.span, rfl, covers_single token⟩
  | group opening closing opens closes inner ih =>
      obtain ⟨span, known, _⟩ := ih (InOrder.part [opening] inner.tokens [closing] (by simpa [tokens] using ordered))
      refine ⟨_, stretch_span inner.tree span opening (some closing) known, opening, closing, rfl, ?_, rfl⟩
      rw [tokens, ← List.cons_append, List.getLast?_append]
      rfl
  | positive sign written operand ih =>
      obtain ⟨span, known, first, last, _, ends, rfl⟩ :=
        ih (InOrder.part [sign] operand.tokens [] (by simpa [tokens] using ordered))
      refine ⟨_, stretch_span operand.tree _ sign none known, sign, last, rfl, ?_, rfl⟩
      rw [tokens, List.getLast?_cons, ends]
      rfl
  | negative sign written operand ih =>
      obtain ⟨span, known, covers⟩ := ih (InOrder.part [sign] operand.tokens [] (by simpa [tokens] using ordered))
      have joined := (covers_hull [sign] [] operand.tokens sign.span span (by simpa [tokens] using ordered)
        (covers_single sign) covers).1
      refine ⟨Span.hull sign.span span, ?_, by simpa [tokens] using joined⟩
      show Span.join (some sign.span) operand.tree.span = _
      rw [known, Span.join]
  | single compound part ih => exact ih ordered
  | joined connective inLayer symbol written left right ihLeft ihRight =>
      have split : (Phrase.joined connective inLayer symbol written left right).tokens =
          left.tokens ++ [symbol] ++ right.tokens := by simp [tokens]
      rw [split] at ordered ⊢
      obtain ⟨leftSpan, leftKnown, leftCovers⟩ :=
        ihLeft (InOrder.part [] left.tokens ([symbol] ++ right.tokens) (by simpa using ordered))
      obtain ⟨rightSpan, rightKnown, rightCovers⟩ :=
        ihRight (InOrder.part (left.tokens ++ [symbol]) right.tokens [] (by simpa using ordered))
      obtain ⟨covers, reversed⟩ := covers_hull left.tokens [symbol] right.tokens leftSpan rightSpan ordered
        leftCovers rightCovers
      refine ⟨Span.hull leftSpan rightSpan, ?_, covers⟩
      rw [tree]
      rcases connective.build_span left.tree right.tree with forward | backward
      · rw [forward, leftKnown, rightKnown, Span.join]
      · rw [backward, leftKnown, rightKnown, Span.join, reversed]

-- The tree of the inner phrase is part of the tree of the outer one, but that its root may cover more there.
structure PartOf {inside : Layer} (inner : Phrase inside) (outer : Phrase layer) : Prop where
  split : ∃ before after, outer.tokens = before ++ inner.tokens ++ after
  shallow : inner.nesting ≤ outer.nesting
  kept : ∀ op left right span, Tree.binary op left right span ∈ inner.tree.postOrder →
    ∃ wider, Tree.binary op left right wider ∈ outer.tree.postOrder

theorem PartOf.child {inside : Layer} (inner : Phrase inside) (outer : Phrase layer) (before after : List Token)
    (split : outer.tokens = before ++ inner.tokens ++ after) (shallow : inner.nesting ≤ outer.nesting)
    (child : inner.tree ∈ outer.tree.children) : PartOf inner outer := by
  refine ⟨⟨before, after, split⟩, shallow, ?_⟩
  intro op left right span member
  exact ⟨span, (Tree.mem_post_order _ _).mpr (.inr ⟨inner.tree, child, member⟩)⟩

theorem PartOf.stretched {inside : Layer} (inner : Phrase inside) (outer : Phrase layer) (before after : List Token)
    (split : outer.tokens = before ++ inner.tokens ++ after) (shallow : inner.nesting ≤ outer.nesting)
    (first : Token) (last : Option Token) (stretched : outer.tree = inner.tree.stretch first last) :
    PartOf inner outer := by
  refine ⟨⟨before, after, split⟩, shallow, ?_⟩
  intro op left right span member
  rw [stretched]
  rcases (Tree.mem_post_order _ _).mp member with root | ⟨child, among, inside⟩
  · rw [← root]
    refine ⟨((Tree.binary op left right span).stretch first last).span, (Tree.mem_post_order _ _).mpr (.inl ?_)⟩
    cases span <;> rfl
  · refine ⟨span, (Tree.mem_post_order _ _).mpr (.inr ⟨child, ?_, inside⟩)⟩
    rwa [Tree.stretch_children]

-- A node is the tree of a phrase among the tokens, or the zero that a minus sign takes its operand from.
inductive Placed (phrase : Phrase layer) (node : Tree) : Prop where
  | part (before after : List Token) (part : Phrase .expression)
      (split : phrase.tokens = before ++ part.tokens ++ after) (shallow : part.nesting ≤ phrase.nesting)
      (same : part.tree = node)
  | sign (before after : List Token) (sign : Token) (split : phrase.tokens = before ++ [sign] ++ after)
      (written : sign.isSymbol "-" = true) (zero : node = .num 0 (some sign.span)) (right : Tree)
      (outer : Option Span) (operand : Tree.binary .sub node right outer ∈ phrase.tree.postOrder)

theorem placed_whole (phrase : Phrase layer) : phrase.Placed phrase.tree := by
  obtain ⟨whole, tokens, tree, nesting⟩ := phrase.is_expression
  exact .part [] [] whole (by simp [tokens]) (Nat.le_of_eq nesting) tree

theorem Placed.outward {inside : Layer} (inner : Phrase inside) (outer : Phrase layer) (within : PartOf inner outer)
    (node : Tree) (placed : inner.Placed node) : outer.Placed node := by
  obtain ⟨start, rest, tokens⟩ := within.split
  cases placed with
  | part before after part split shallow same =>
      refine .part (start ++ before) (after ++ rest) part ?_ (Nat.le_trans shallow within.shallow) same
      rw [tokens, split]
      simp only [List.append_assoc]
  | sign before after sign split written zero right span operand =>
      obtain ⟨wider, kept⟩ := within.kept .sub node right span operand
      refine .sign (start ++ before) (after ++ rest) sign ?_ written zero right wider kept
      rw [tokens, split]
      simp only [List.append_assoc]

theorem Placed.of_stretched {inside : Layer} (inner : Phrase inside) (outer : Phrase layer)
    (within : PartOf inner outer) (first : Token) (last : Option Token)
    (stretched : outer.tree = inner.tree.stretch first last) (node : Tree) (member : node ∈ outer.tree.postOrder)
    (known : node ∈ inner.tree.postOrder → inner.Placed node) : outer.Placed node := by
  rcases (Tree.mem_post_order _ _).mp member with rfl | ⟨child, among, inside⟩
  · exact outer.placed_whole
  · rw [stretched, Tree.stretch_children] at among
    exact Placed.outward inner outer within node (known ((Tree.mem_post_order _ _).mpr (.inr ⟨child, among, inside⟩)))

theorem placed (phrase : Phrase layer) (node : Tree) (member : node ∈ phrase.tree.postOrder) :
    phrase.Placed node := by
  induction phrase with
  | number token numeral =>
      rw [tree, Tree.postOrder_num, List.mem_singleton] at member
      rw [member]
      exact placed_whole (.number token numeral)
  | group opening closing opens closes inner ih =>
      have within : PartOf inner (.group opening closing opens closes inner) :=
        PartOf.stretched inner _ [opening] [closing] rfl (Nat.le_succ _) opening (some closing) rfl
      exact Placed.of_stretched inner _ within opening (some closing) rfl node member ih
  | positive sign written operand ih =>
      have within : PartOf operand (.positive sign written operand) :=
        PartOf.stretched operand _ [sign] [] (by simp [tokens]) (Nat.le_refl _) sign none rfl
      exact Placed.of_stretched operand _ within sign none rfl node member ih
  | negative sign written operand ih =>
      have within : PartOf operand (.negative sign written operand) :=
        PartOf.child operand _ [sign] [] (by simp [tokens]) (Nat.le_refl _)
          (by simp [tree, Tree.combine_apply, Tree.children])
      rcases (Tree.mem_post_order _ _).mp member with rfl | ⟨child, among, inside⟩
      · exact placed_whole (.negative sign written operand)
      · simp only [tree, Tree.combine_apply, Tree.children, List.mem_cons, List.not_mem_nil, or_false] at among
        rcases among with rfl | rfl
        · rw [Tree.postOrder_num, List.mem_singleton] at inside
          have operation : (Phrase.negative sign written operand).tree ∈ _ :=
            (Tree.mem_post_order (Phrase.negative sign written operand).tree _).mpr (.inl rfl)
          rw [inside]
          exact .sign [] operand.tokens sign rfl written rfl operand.tree _ operation
        · exact Placed.outward operand _ within node (ih inside)
  | single compound part ih =>
      have within : PartOf part (.single compound part) :=
        ⟨⟨[], [], by simp [tokens]⟩, Nat.le_refl _, fun op left right span inside => ⟨span, inside⟩⟩
      exact Placed.outward part _ within node (ih member)
  | joined connective inLayer symbol written left right ihLeft ihRight =>
      have among := connective.mem_build_children left.tree right.tree
      have leftWithin : PartOf left (.joined connective inLayer symbol written left right) :=
        PartOf.child left _ [] (symbol :: right.tokens) rfl (Nat.le_max_left _ _) ((among left.tree).mpr (.inl rfl))
      have rightWithin : PartOf right (.joined connective inLayer symbol written left right) :=
        PartOf.child right _ (left.tokens ++ [symbol]) [] (by simp [tokens]) (Nat.le_max_right _ _)
          ((among right.tree).mpr (.inr rfl))
      rcases (Tree.mem_post_order _ _).mp member with rfl | ⟨child, isChild, inside⟩
      · exact placed_whole (.joined connective inLayer symbol written left right)
      · rcases (among child).mp isChild with rfl | rfl
        · exact Placed.outward left _ leftWithin node (ihLeft inside)
        · exact Placed.outward right _ rightWithin node (ihRight inside)

end Phrase

end ExprCompiler
