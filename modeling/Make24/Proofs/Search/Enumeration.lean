import Mathlib
import Make24.Proofs.Search.Forest

/-! What the enumeration ends in. A step joins two trees of a forest, whichever and either way
around, so the trees at the end are exactly those that the forest is a cut through and that divide
by no zero. From the numbers of a round these are all trees over the numbers. -/

namespace Make24.Search

section Picks

variable {α β : Type}

theorem picks_map (f : α → β) (list : List α) :
    picks (list.map f) = (picks list).map fun pick => (f pick.1, pick.2.map f) := by
  induction list with
  | nil => rfl
  | cons a rest ih =>
      simp only [List.map_cons, picks, ih, List.map_map]
      rfl

theorem perm_of_mem_picks {list : List α} {pick : α × List α} (h : pick ∈ picks list) :
    list.Perm (pick.1 :: pick.2) := by
  induction list generalizing pick with
  | nil => cases h
  | cons a rest ih =>
      rw [picks, List.mem_cons, List.mem_map] at h
      rcases h with rfl | ⟨inner, hMem, rfl⟩
      · exact .refl _
      · exact ((ih hMem).cons a).trans (.swap inner.1 a inner.2)

theorem exists_mem_picks {list : List α} {a : α} (h : a ∈ list) :
    ∃ others, (a, others) ∈ picks list := by
  induction list with
  | nil => cases h
  | cons b rest ih =>
      rw [picks]
      rcases List.mem_cons.mp h with rfl | hRest
      · exact ⟨rest, List.mem_cons_self⟩
      · obtain ⟨others, hMem⟩ := ih hRest
        exact ⟨b :: others, List.mem_cons_of_mem _ (List.mem_map.mpr ⟨(a, others), hMem, rfl⟩)⟩

/-- Any element may be picked, and what is left is the rest in some order. -/
theorem exists_mem_picks_of_eq_cons {list : List α} {a : α} {rest : Multiset α}
    (h : (list : Multiset α) = a ::ₘ rest) :
    ∃ others : List α, (a, others) ∈ picks list ∧ (others : Multiset α) = rest := by
  have hMem : a ∈ (list : Multiset α) := h ▸ Multiset.mem_cons_self a rest
  obtain ⟨others, hPick⟩ := exists_mem_picks (Multiset.mem_coe.mp hMem)
  refine ⟨others, hPick, ?_⟩
  rw [Multiset.coe_eq_coe.mpr (perm_of_mem_picks hPick), ← Multiset.cons_coe] at h
  exact (Multiset.cons_inj_right a).mp h

end Picks

section Steps

/-- An operation that does not divide by zero is among the reductions of its operands. -/
theorem join_mem_reductions {op : Op} {a b : Tree} (h : op = .div → (b.value == 0.0) = false) :
    (Tree.node op a b).term ∈ a.term.reductions b.term := by
  unfold Term.reductions
  rw [Tree.value_term, Tree.value_term]
  cases op with
  | additive sign => cases sign <;> simp [Tree.term, Op.add, Op.sub]
  | multiplicative scale =>
      cases scale with
      | multiply => simp [Tree.term, Op.mul]
      | divide => simp [Tree.term, Op.div, h rfl]

/-- A reduction is an operation on the two operands, either way around. -/
theorem exists_join_of_mem_reductions {a b : Tree} {term : Term}
    (h : term ∈ a.term.reductions b.term) :
    ∃ op, (op = .div → (b.value == 0.0) = false) ∧ term = (Tree.node op a b).term ∨
      (op = .div → (a.value == 0.0) = false) ∧ term = (Tree.node op b a).term := by
  unfold Term.reductions at h
  rw [Tree.value_term, Tree.value_term] at h
  simp only [List.mem_append, List.mem_cons, List.not_mem_nil, or_false] at h
  rcases h with ((rfl | rfl | rfl | rfl) | hDiv) | hDiv
  · exact ⟨.add, .inl ⟨nofun, rfl⟩⟩
  · exact ⟨.sub, .inl ⟨nofun, rfl⟩⟩
  · exact ⟨.sub, .inr ⟨nofun, rfl⟩⟩
  · exact ⟨.mul, .inl ⟨nofun, rfl⟩⟩
  · cases hZero : b.value == 0.0 with
    | true => simp [hZero] at hDiv
    | false =>
        rw [hZero, if_neg Bool.false_ne_true, List.mem_singleton] at hDiv
        exact ⟨.div, .inl ⟨fun _ => rfl, hDiv⟩⟩
  · cases hZero : a.value == 0.0 with
    | true => simp [hZero] at hDiv
    | false =>
        rw [hZero, if_neg Bool.false_ne_true, List.mem_singleton] at hDiv
        exact ⟨.div, .inr ⟨fun _ => rfl, hDiv⟩⟩

/-- A step joins two trees of the forest. -/
theorem exists_join_of_mem_steps {forest : List Tree} {next : List Term}
    (h : next ∈ steps (forest.map Tree.term)) :
    ∃ (op : Op) (a b : Tree) (rest : List Tree), (forest : Multiset Tree) = a ::ₘ b ::ₘ ↑rest ∧
      (op = .div → (b.value == 0.0) = false) ∧
      next = (rest ++ [Tree.node op a b]).map Tree.term := by
  simp only [steps, picks_map, List.mem_flatMap, List.mem_map, exists_exists_and_eq_and] at h
  obtain ⟨⟨a, others⟩, hFirst, ⟨b, rest⟩, hSecond, term, hTerm, rfl⟩ := h
  have hForest : (forest : Multiset Tree) = a ::ₘ b ::ₘ ↑rest := by
    rw [Multiset.cons_coe, Multiset.cons_coe, Multiset.coe_eq_coe]
    exact (perm_of_mem_picks hFirst).trans ((perm_of_mem_picks hSecond).cons a)
  obtain ⟨op, ⟨hDivides, rfl⟩ | ⟨hDivides, rfl⟩⟩ := exists_join_of_mem_reductions hTerm
  · exact ⟨op, a, b, rest, hForest, hDivides, by simp⟩
  · exact ⟨op, b, a, rest, hForest.trans (Multiset.cons_swap ..), hDivides, by simp⟩

/-- Any two trees of the forest are joined by any operation in some step. -/
theorem exists_mem_steps {forest : List Tree} {op : Op} {a b : Tree} {others : Multiset Tree}
    (hForest : (forest : Multiset Tree) = a ::ₘ b ::ₘ others)
    (hDivides : op = .div → (b.value == 0.0) = false) :
    ∃ rest : List Tree, (rest : Multiset Tree) = others ∧
      (rest ++ [Tree.node op a b]).map Tree.term ∈ steps (forest.map Tree.term) := by
  obtain ⟨more, hFirst, hMore⟩ := exists_mem_picks_of_eq_cons hForest
  obtain ⟨rest, hSecond, hRest⟩ := exists_mem_picks_of_eq_cons hMore
  refine ⟨rest, hRest, ?_⟩
  simp only [steps, picks_map, List.mem_flatMap, List.mem_map, exists_exists_and_eq_and]
  exact ⟨(a, more), hFirst, (b, rest), hSecond, _, join_mem_reductions hDivides, by simp⟩

theorem coe_append_singleton {α : Type} (list : List α) (a : α) :
    ((list ++ [a] : List α) : Multiset α) = a ::ₘ ↑list := by
  rw [← Multiset.coe_add, Multiset.coe_singleton, add_comm, Multiset.singleton_add]

/-- A step leads to a forest that only cuts through trees that the one before it cuts through. -/
theorem exists_forest_of_mem_steps {forest : List Tree} {next : List Term}
    (hForest : ∀ part ∈ forest, part.Divides) (h : next ∈ steps (forest.map Tree.term)) :
    ∃ forest' : List Tree, next = forest'.map Tree.term ∧ (∀ part ∈ forest', part.Divides) ∧
      ∀ tree, Cut tree forest' → Cut tree forest := by
  obtain ⟨op, a, b, rest, hPair, hOp, rfl⟩ := exists_join_of_mem_steps h
  have hParts : ∀ part ∈ a ::ₘ b ::ₘ (rest : Multiset Tree), part.Divides := by
    rw [← hPair]
    exact hForest
  refine ⟨rest ++ [Tree.node op a b], rfl, fun part hPart => ?_, fun tree hCut => ?_⟩
  · rcases List.mem_append.mp hPart with hRest | hNode
    · exact hParts part (by simp [hRest])
    · rw [List.mem_singleton.mp hNode]
      exact ⟨hParts a (by simp), hParts b (by simp), hOp⟩
  · rw [coe_append_singleton] at hCut
    rw [hPair]
    exact hCut.split

/-- Some step leads on to a tree that the forest cuts through. -/
theorem exists_cut_mem_steps {forest : List Tree} {tree : Tree} (cut : Cut tree forest)
    (hDivides : tree.Divides) (hSingle : ∀ part, forest ≠ [part]) :
    ∃ forest' : List Tree, forest'.map Tree.term ∈ steps (forest.map Tree.term) ∧
      Cut tree forest' := by
  have hTwo : 2 ≤ (forest : Multiset Tree).card := by
    have hPos := cut.card_pos
    have hNotOne : forest.length ≠ 1 := fun hOne =>
      (List.length_eq_one_iff.mp hOne).elim hSingle
    rw [Multiset.coe_card] at hPos ⊢
    omega
  obtain ⟨op, a, b, others, hPair, hJoined⟩ := cut.exists_siblings hTwo
  obtain ⟨-, -, hOp⟩ := hJoined.divides hDivides _ (Multiset.mem_cons_self _ _)
  obtain ⟨rest, rfl, hNext⟩ := exists_mem_steps hPair hOp
  rw [← coe_append_singleton] at hJoined
  exact ⟨_, hNext, hJoined⟩

end Steps

/-- The enumeration ends in the trees that a forest is a cut through. -/
theorem mem_outcomes_iff {forest : List Tree} {term : Term}
    (hForest : ∀ part ∈ forest, part.Divides) :
    term ∈ outcomes (forest.map Tree.term) ↔
      ∃ tree : Tree, Cut tree forest ∧ tree.Divides ∧ tree.term = term := by
  induction hLength : forest.length using Nat.strong_induction_on generalizing forest with
  | _ length ih =>
      by_cases hSingle : ∃ part, forest = [part]
      · obtain ⟨part, rfl⟩ := hSingle
        rw [List.map_singleton, outcomes, List.mem_singleton]
        constructor
        · rintro rfl
          exact ⟨part, .whole part, hForest part List.mem_cons_self, rfl⟩
        · rintro ⟨tree, hCut, -, rfl⟩
          have hWhole := hCut.eq_of_card_eq_one rfl
          rw [Multiset.coe_singleton, Multiset.singleton_inj] at hWhole
          rw [hWhole]
      · push Not at hSingle
        have hTerms : ∀ term, forest.map Tree.term ≠ [term] := by
          intro term hTerm
          obtain ⟨part, hPart, -⟩ := List.map_eq_singleton_iff.mp hTerm
          exact hSingle part hPart
        have hShorter {forest' : List Tree}
            (hNext : forest'.map Tree.term ∈ steps (forest.map Tree.term)) :
            forest'.length < length := by
          have hSteps := length_of_mem_steps hNext
          rw [List.length_map, List.length_map] at hSteps
          omega
        rw [outcomes_of_ne hTerms, List.mem_flatMap]
        constructor
        · rintro ⟨next, hNext, hTerm⟩
          obtain ⟨forest', rfl, hParts, hCuts⟩ := exists_forest_of_mem_steps hForest hNext
          obtain ⟨tree, hCut, hTree⟩ := (ih _ (hShorter hNext) hParts rfl).mp hTerm
          exact ⟨tree, hCuts tree hCut, hTree⟩
        · rintro ⟨tree, hCut, hDivides, rfl⟩
          obtain ⟨forest', hNext, hCut'⟩ := exists_cut_mem_steps hCut hDivides hSingle
          have hParts := hCut'.divides hDivides
          exact ⟨_, hNext, (ih _ (hShorter hNext) hParts rfl).mpr ⟨tree, hCut', hDivides, rfl⟩⟩

section Texts

theorem bareText_ofNumber (number : UInt8) :
    (Term.ofNumber number).bareText = toString number.toNat := by
  unfold Term.bareText
  split
  case h_2 => rfl
  case h_1 inner hText =>
      have hDigits : (toString number.toNat).toList = Nat.toDigits 10 number.toNat :=
        Nat.toList_repr
      have hMem : '(' ∈ Nat.toDigits 10 number.toNat := by
        rw [← hDigits]
        exact hText ▸ List.mem_cons_self
      exact absurd (Nat.isDigit_of_mem_toDigits (by omega) (by omega) hMem) (by decide)

/-- Only the last operation loses its parentheses. -/
theorem bareText_term (tree : Tree) : tree.term.bareText = tree.text := by
  cases tree with
  | leaf number => exact bareText_ofNumber number
  | node op left right =>
      have hText : (Tree.node op left right).term.text.toList =
          '(' :: ((Tree.node op left right).text.toList ++ [')']) := by
        rw [Tree.text_term]
        simp [Tree.wrappedText, Tree.text, String.toList_append]
      unfold Term.bareText
      rw [hText]
      simp

end Texts

end Make24.Search

namespace Make24

open Search

/-- The expressions that are found are those of trees over the numbers. -/
theorem mem_solve {numbers : Vector UInt8 Round.size} {text : String} :
    text ∈ solve numbers ↔
      ∃ tree : Tree, tree.leaves.Perm numbers.toList ∧ tree.Divides ∧
        isTarget tree.value = true ∧ tree.text = text := by
  have hTerms : numbers.toList.map Term.ofNumber =
      (numbers.toList.map Tree.leaf).map Tree.term := by
    rw [List.map_map]
    rfl
  have hLeaves : ∀ part ∈ numbers.toList.map Tree.leaf, part.Divides := by
    rw [List.forall_mem_map]
    exact fun _ _ => trivial
  unfold solve
  rw [mem_search_empty, discoveries, List.mem_map, hTerms]
  simp only [List.mem_filter, mem_outcomes_iff hLeaves, Cut.map_leaf_iff]
  constructor
  · rintro ⟨term, ⟨⟨tree, hPerm, hDivides, rfl⟩, hTarget⟩, rfl⟩
    rw [tree.value_term] at hTarget
    exact ⟨tree, hPerm, hDivides, hTarget, (bareText_term tree).symm⟩
  · rintro ⟨tree, hPerm, hDivides, hTarget, rfl⟩
    rw [← tree.value_term] at hTarget
    exact ⟨tree.term, ⟨⟨tree, hPerm, hDivides, rfl⟩, hTarget⟩, bareText_term tree⟩

/-- A solution is the text of a tree with the four numbers at its leaves, in any order and of any
shape, which divides by no zero and makes 24 exactly. All such texts are found, each of them once,
and no others. -/
theorem nodup_solve_and_mem_iff (numbers : Vector UInt8 Round.size) :
    (solve numbers).Nodup ∧
      ∀ text : String, text ∈ solve numbers ↔
        ∃ tree : Tree, tree.leaves.Perm numbers.toList ∧ tree.Divides ∧
          (tree.value == 24.0) = true ∧ tree.text = text :=
  ⟨nodup_search_empty _, fun _ => mem_solve⟩

end Make24
