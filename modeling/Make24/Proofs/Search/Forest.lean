import Mathlib
import Make24.Proofs.Search.Discovery
import Make24.Search.Tree

/-! The enumeration on trees. A list of terms is a forest whose trees are still to be joined, and
what a search ends in are the trees that the forest is a cut through: joining two trees of a cut
that are next to each other gives a cut nearer to the root, and any cut but the whole tree has two
such. -/

namespace Make24

theorem Tree.length_leaves_pos (tree : Tree) : 0 < tree.leaves.length := by
  induction tree with
  | leaf number => exact Nat.one_pos
  | node op left right ihLeft ihRight =>
      rw [leaves, List.length_append]
      omega

/-- A forest is a cut through a tree if every path from the root to a leaf meets one tree of it. -/
inductive Cut : Tree → Multiset Tree → Prop where
  | whole (tree : Tree) : Cut tree {tree}
  | node (op : Op) {left right : Tree} {forest forest' : Multiset Tree} (hLeft : Cut left forest)
      (hRight : Cut right forest') : Cut (.node op left right) (forest + forest')

namespace Cut

variable {tree : Tree} {forest : Multiset Tree}

theorem card_pos (cut : Cut tree forest) : 0 < forest.card := by
  induction cut with
  | whole => simp
  | node op hLeft hRight ihLeft ihRight =>
      rw [Multiset.card_add]
      omega

theorem eq_of_card_eq_one (cut : Cut tree forest) (h : forest.card = 1) : forest = {tree} := by
  cases cut with
  | whole => rfl
  | node op hLeft hRight =>
      have hLeftPos := hLeft.card_pos
      have hRightPos := hRight.card_pos
      rw [Multiset.card_add] at h
      omega

/-- A tree of a cut may be taken apart. -/
theorem split {op : Op} {a b : Tree} {rest : Multiset Tree}
    (cut : Cut tree (.node op a b ::ₘ rest)) : Cut tree (a ::ₘ b ::ₘ rest) := by
  generalize hForest : Tree.node op a b ::ₘ rest = forest at cut
  induction cut generalizing rest with
  | whole tree =>
      obtain ⟨rfl, rfl⟩ := Multiset.singleton_eq_cons_iff _ |>.mp hForest.symm
      exact .node op (.whole a) (.whole b)
  | @node op' left right forest forest' hLeft hRight ihLeft ihRight =>
      have hMem : Tree.node op a b ∈ forest + forest' := hForest ▸ Multiset.mem_cons_self _ _
      rcases Multiset.mem_add.mp hMem with hMem | hMem
      · obtain ⟨others, rfl⟩ := Multiset.exists_cons_of_mem hMem
        rw [Multiset.cons_add, Multiset.cons_inj_right] at hForest
        have hSplit := Cut.node op' (ihLeft rfl) hRight
        rwa [Multiset.cons_add, Multiset.cons_add, ← hForest] at hSplit
      · obtain ⟨others, rfl⟩ := Multiset.exists_cons_of_mem hMem
        rw [Multiset.add_cons, Multiset.cons_inj_right] at hForest
        have hSplit := Cut.node op' hLeft (ihRight rfl)
        rwa [Multiset.add_cons, Multiset.add_cons, ← hForest] at hSplit

/-- A cut below the root has two trees that are the operands of one operation. -/
theorem exists_siblings (cut : Cut tree forest) (hTwo : 2 ≤ forest.card) :
    ∃ op a b rest, forest = a ::ₘ b ::ₘ rest ∧ Cut tree (.node op a b ::ₘ rest) := by
  induction cut with
  | whole tree => simp at hTwo
  | @node op left right forest forest' hLeft hRight ihLeft ihRight =>
      have hLeftPos := hLeft.card_pos
      have hRightPos := hRight.card_pos
      by_cases hLeftTwo : 2 ≤ forest.card
      · obtain ⟨op', a, b, rest, rfl, hJoined⟩ := ihLeft hLeftTwo
        refine ⟨op', a, b, rest + forest', by simp only [Multiset.cons_add], ?_⟩
        rw [← Multiset.cons_add]
        exact .node op hJoined hRight
      · by_cases hRightTwo : 2 ≤ forest'.card
        · obtain ⟨op', a, b, rest, rfl, hJoined⟩ := ihRight hRightTwo
          refine ⟨op', a, b, forest + rest, by simp only [Multiset.add_cons], ?_⟩
          rw [← Multiset.add_cons]
          exact .node op hLeft hJoined
        · rw [hLeft.eq_of_card_eq_one (by omega), hRight.eq_of_card_eq_one (by omega)]
          exact ⟨op, left, right, 0, rfl, .whole _⟩

/-- If no divisor in a tree is zero then none is in any tree of a cut. -/
theorem divides (cut : Cut tree forest) (hDivides : tree.Divides) :
    ∀ part ∈ forest, part.Divides := by
  induction cut with
  | whole tree =>
      intro part hPart
      rwa [Multiset.mem_singleton.mp hPart]
  | node op hLeft hRight ihLeft ihRight =>
      obtain ⟨hLeftDivides, hRightDivides, -⟩ := hDivides
      intro part hPart
      rcases Multiset.mem_add.mp hPart with hPart | hPart
      · exact ihLeft hLeftDivides part hPart
      · exact ihRight hRightDivides part hPart

/-- The leaves are the last cut. -/
theorem map_leaf_leaves (tree : Tree) : Cut tree (tree.leaves.map .leaf : List Tree) := by
  induction tree with
  | leaf number => exact .whole _
  | node op left right ihLeft ihRight =>
      rw [Tree.leaves, List.map_append, ← Multiset.coe_add]
      exact .node op ihLeft ihRight

/-- Cutting a tree loses no leaf. -/
theorem coe_leaves (cut : Cut tree forest) :
    (tree.leaves : Multiset UInt8) = forest.bind fun part => part.leaves := by
  induction cut with
  | whole tree => rw [Multiset.singleton_bind]
  | node op hLeft hRight ihLeft ihRight =>
      rw [Tree.leaves, ← Multiset.coe_add, ihLeft, ihRight, Multiset.add_bind]

/-- Leaves are a cut through the trees over them. -/
theorem map_leaf_iff {numbers : List UInt8} :
    Cut tree (numbers.map .leaf : List Tree) ↔ tree.leaves.Perm numbers := by
  constructor
  · intro cut
    have hLeaves := cut.coe_leaves
    rw [Multiset.coe_bind, List.flatMap_map] at hLeaves
    exact Multiset.coe_eq_coe.mp (hLeaves.trans (congrArg _ (List.flatMap_singleton' numbers)))
  · intro hPerm
    have hCut := map_leaf_leaves tree
    rwa [Multiset.coe_eq_coe.mpr (hPerm.map Tree.leaf)] at hCut

end Cut

end Make24
