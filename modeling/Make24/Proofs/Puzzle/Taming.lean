import Mathlib
import Make24.Proofs.Double.Tame
import Make24.Proofs.Search.Enumeration
import Make24.Proofs.Submission.Acceptance

/-! Submissions as solutions. Submissions may hold signs and may divide by zero, trees do neither.
Still some tree over the numbers of a submission has its tame value, so that whatever makes the
target as a submission can be made by a search. -/

namespace Make24

open Double

/-- The card number that a run of digits stands for. -/
def Digits.number (digits : Digits) : UInt8 := .ofNat digits.toNat

/-- A tree over the numbers has the tame form of a value that an expression over them can have. -/
structure Tames (tree : Tree) (numbers : List UInt8) (x : Float) : Prop where
  leaves : tree.leaves.Perm numbers
  divides : tree.Divides
  value : tree.value = tame x
  reachable : Reachable numbers.length x

namespace Tames

variable {left right tree : Tree} {numbers numbers' : List UInt8} {x y : Float}

theorem length_pos (tames : Tames tree numbers x) : 0 < numbers.length := by
  rw [← tames.leaves.length_eq]
  exact tree.length_leaves_pos

theorem number (number : UInt8) : Tames (.leaf number) [number] number.toFloat where
  leaves := .refl _
  divides := trivial
  value := (tame_toFloat number).symm
  reachable := reachable_toFloat number

/-- A sign changes nothing. -/
theorem signed (tames : Tames tree numbers x) (sign : Sign) :
    Tames tree numbers (sign.apply x) where
  leaves := tames.leaves
  divides := tames.divides
  value := by rw [tames.value, tame_apply_sign]
  reachable := tames.reachable.apply_sign sign

/-- An operation on two values is matched by one on their trees, though maybe by another one and the
other way around. -/
theorem apply (hLeft : Tames left numbers x) (hRight : Tames right numbers' y) (op : Op)
    (hCount : numbers.length + numbers'.length ≤ 10) :
    ∃ tree, Tames tree (numbers ++ numbers') (op.apply x y) := by
  have hReachable := (hLeft.reachable.unpacked_apply op hRight.reachable hLeft.length_pos
    hRight.length_pos hCount).2
  rw [← List.length_append] at hReachable
  obtain ⟨op', ⟨hValue, hDivides⟩ | ⟨hValue, hDivides⟩⟩ := tame_apply op hLeft.reachable
    hRight.reachable hLeft.length_pos hRight.length_pos hCount
  · rw [← hLeft.value, ← hRight.value] at hValue
    rw [← hRight.value] at hDivides
    exact ⟨.node op' left right, hLeft.leaves.append hRight.leaves,
      ⟨hLeft.divides, hRight.divides, hDivides⟩, hValue.symm, hReachable⟩
  · rw [← hLeft.value, ← hRight.value] at hValue
    rw [← hLeft.value] at hDivides
    exact ⟨.node op' right left, (hRight.leaves.append hLeft.leaves).trans List.perm_append_comm,
      ⟨hRight.divides, hLeft.divides, hDivides⟩, hValue.symm, hReachable⟩

end Tames

/-- The numbers of a derivation are short enough to be those of cards and not so many that the value
could overflow. -/
def Modest (numerals : List Digits) : Prop :=
  (∀ digits ∈ numerals, digits ≠ [] ∧ digits.length ≤ 2) ∧ numerals.length ≤ 10

theorem Modest.of_append {numerals numerals' : List Digits} (h : Modest (numerals ++ numerals')) :
    Modest numerals ∧ Modest numerals' ∧
      (numerals.map Digits.number).length + (numerals'.map Digits.number).length ≤ 10 := by
  obtain ⟨hShort, hFew⟩ := h
  rw [List.length_append] at hFew
  rw [List.forall_mem_append] at hShort
  rw [List.length_map, List.length_map]
  exact ⟨⟨hShort.1, by omega⟩, ⟨hShort.2, by omega⟩, hFew⟩

mutual
/-- Every sum is tamed by some tree over its numbers. -/
theorem Sum.exists_tames (sum : Sum) (hModest : Modest sum.numerals) :
    ∃ tree, Tames tree (sum.numerals.map Digits.number) sum.value := by
  cases sum with
  | single product => exact product.exists_tames hModest
  | extend left sign right =>
      obtain ⟨hLeftModest, hRightModest, hCount⟩ := hModest.of_append
      obtain ⟨leftTree, hLeft⟩ := left.exists_tames hLeftModest
      obtain ⟨rightTree, hRight⟩ := right.exists_tames hRightModest
      rw [Sum.numerals, List.map_append]
      exact hLeft.apply hRight (.additive sign) hCount

/-- Every product is tamed by some tree over its numbers. -/
theorem Product.exists_tames (product : Product) (hModest : Modest product.numerals) :
    ∃ tree, Tames tree (product.numerals.map Digits.number) product.value := by
  cases product with
  | single factor => exact factor.exists_tames hModest
  | extend left scale right =>
      obtain ⟨hLeftModest, hRightModest, hCount⟩ := hModest.of_append
      obtain ⟨leftTree, hLeft⟩ := left.exists_tames hLeftModest
      obtain ⟨rightTree, hRight⟩ := right.exists_tames hRightModest
      rw [Product.numerals, List.map_append]
      exact hLeft.apply hRight (.multiplicative scale) hCount

/-- Every factor is tamed by some tree over its numbers. -/
theorem Factor.exists_tames (factor : Factor) (hModest : Modest factor.numerals) :
    ∃ tree, Tames tree (factor.numerals.map Digits.number) factor.value := by
  cases factor with
  | number digits =>
      obtain ⟨hSome, hShort⟩ := hModest.1 digits List.mem_cons_self
      have hLt := Digits.toNat_lt hShort
      have hNumber : digits.toNat = digits.number.toNat :=
        (UInt8.toNat_ofNat_of_lt' (by change _ < 256; omega)).symm
      rw [Factor.value, Digits.value_eq_toFloat hSome hShort hNumber]
      exact ⟨.leaf digits.number, .number digits.number⟩
  | signed sign operand =>
      obtain ⟨tree, hTames⟩ := operand.exists_tames hModest
      exact ⟨tree, hTames.signed sign⟩
  | group inner => exact inner.exists_tames hModest
end

theorem Plays.modest {text : List Char} {round : Round} {sum : Sum}
    (plays : Plays text round sum) : Modest sum.numerals := by
  refine ⟨fun digits hMem => plays.short_digits hMem, ?_⟩
  rw [← List.length_map (List.map digitChar), plays.map_numerals, plays.four]
  decide

theorem Plays.perm_numbers {text : List Char} {round : Round} {sum : Sum}
    (plays : Plays text round sum) :
    (sum.numerals.map Digits.number).Perm round.numbers.toList := by
  have hSame : UInt8.ofNat ∘ UInt8.toNat = id := funext fun _ => UInt8.ofNat_toNat
  have hPerm := plays.perm.map UInt8.ofNat
  rw [List.map_map, List.map_map, hSame, List.map_id] at hPerm
  exact hPerm

/-- Who makes the target plays on cards for which the search finds a solution. -/
theorem hasSolution_of_evaluate {text : String} {round : Round}
    (h : evaluate text round = .ok 24.0) : hasSolution round.numbers = true := by
  obtain ⟨sum, plays, hValue⟩ := evaluate_eq_ok.mp h
  obtain ⟨tree, hTames⟩ := sum.exists_tames plays.modest
  have hTarget : tree.value = target := by
    rw [hTames.value, hValue]
    exact tame_target
  have hSolution : tree.text ∈ solve round.numbers :=
    mem_solve.mpr ⟨tree, hTames.leaves.trans plays.perm_numbers, hTames.divides,
      isTarget_iff.mpr hTarget, rfl⟩
  rw [hasSolution, Bool.not_eq_true', List.isEmpty_eq_false_iff]
  exact List.ne_nil_of_mem hSolution

/-- For instance 24 is made by dividing by zero and then by the infinity with a sign. -/
theorem hasSolution_of_evaluate_zero_divisors :
    evaluate "24 + 5 / -(3 / 0)" ⟨#v[⟨.clubs, 0⟩, ⟨.hearts, 3⟩, ⟨.spades, 5⟩, ⟨.hearts, 24⟩]⟩ =
        .ok 24.0 ∧
      Round.hasSolution ⟨#v[⟨.clubs, 0⟩, ⟨.hearts, 3⟩, ⟨.spades, 5⟩, ⟨.hearts, 24⟩]⟩ = true := by
  have hEvaluate : evaluate "24 + 5 / -(3 / 0)"
      ⟨#v[⟨.clubs, 0⟩, ⟨.hearts, 3⟩, ⟨.spades, 5⟩, ⟨.hearts, 24⟩]⟩ = .ok 24.0 := by
    decide +kernel
  exact ⟨hEvaluate, hasSolution_of_evaluate hEvaluate⟩

end Make24
