import Mathlib
import Make24.Proofs.Game.Dealing

/-! Drawing random numbers in machine words. A word times a range fills two words; the high one is
the number drawn, and where the low one is large a second word may carry one into it. The types of
the draw promise that its numbers are small enough and its positions are in the deck; here the same
draw is done in words and plain numbers, where nothing promises it, and found to agree. -/

namespace Make24

namespace Words

/-- The two words of a product, high word first. -/
def wideProduct (x y : UInt32) : UInt32 × UInt32 :=
  let product := x.toUInt64 * y.toUInt64
  ((product >>> 32).toUInt32, product.toUInt32)

/-- A number up to `greatest` from the words at a position on, and the position after them. The sum
that decides on the carry is taken without overflow; the carry itself is added to a word. -/
def uniform (words : Words) (position : Nat) (greatest : UInt32) : UInt32 × Nat :=
  let range := greatest + 1
  let (high, low) := wideProduct (words position) range
  if wordRange - range.toNat < low.toNat then
    let extra := (wideProduct (words (position + 1)) range).1
    (if wordRange ≤ low.toNat + extra.toNat then high + 1 else high, position + 2)
  else (high, position + 1)

/-- Adds a number up to `last` to those picked before. Where it was picked already, that occurrence
becomes `last`. -/
def pickNext (picked : List Nat) (last choice : Nat) : List Nat :=
  picked.replace choice last ++ [choice]

/-- Picks numbers, the first up to `last` and each up to one more than the one before. -/
def pickFrom (words : Words) : Nat → Nat → List Nat × Nat → List Nat × Nat
  | _, 0, state => state
  | last, count + 1, (picked, position) =>
      let (choice, next) := words.uniform position last.toUInt32
      words.pickFrom (last + 1) count (pickNext picked last choice.toNat, next)

/-- Picks some numbers below `size`. -/
def sample (words : Words) (position size amount : Nat) : List Nat × Nat :=
  words.pickFrom (size - amount) amount ([], position)

/-! ### Numbers in words -/

theorem toNat_wideProduct (x y : UInt32) :
    (wideProduct x y).1.toNat = x.toNat * y.toNat / wordRange ∧
      (wideProduct x y).2.toNat = x.toNat * y.toNat % wordRange := by
  have hProduct : x.toNat * y.toNat < wordRange * wordRange :=
    Nat.mul_lt_mul'' x.toNat_lt y.toNat_lt
  have hHigh : x.toNat * y.toNat / wordRange < wordRange := Nat.div_lt_of_lt_mul hProduct
  have hFits : (x.toUInt64 * y.toUInt64).toNat = x.toNat * y.toNat := by
    rw [UInt64.toNat_mul, UInt32.toNat_toUInt64, UInt32.toNat_toUInt64]
    exact Nat.mod_eq_of_lt hProduct
  constructor
  · rw [wideProduct, UInt64.toNat_toUInt32, UInt64.toNat_shiftRight, hFits,
      Nat.shiftRight_eq_div_pow]
    exact Nat.mod_eq_of_lt hHigh
  · rw [wideProduct, UInt64.toNat_toUInt32, hFits]
    rfl

/-- Where the low word is large enough for a carry, the high word is not the greatest number yet. A
word times `greatest + 1` is that much below `greatest + 1` times the number of words, so under the
greatest high word there is no room for such a low word. -/
theorem high_lt_of_low_gt {x greatest : Nat} (hWord : x < wordRange)
    (hLow : wordRange - (greatest + 1) < x * (greatest + 1) % wordRange) :
    x * (greatest + 1) / wordRange < greatest := by
  have hProduct : x * (greatest + 1) + (greatest + 1) ≤ greatest * wordRange + wordRange := by
    rw [← Nat.succ_mul, ← Nat.succ_mul, Nat.mul_comm (greatest + 1)]
    exact Nat.mul_le_mul_right (greatest + 1) hWord
  have hSplit := Nat.div_add_mod' (x * (greatest + 1)) wordRange
  by_contra hHigh
  have hTop := Nat.mul_le_mul_right wordRange (Nat.not_lt.mp hHigh)
  omega

/-- A second word adds its carry to the high word of the first. -/
theorem scale_eq {range x y : Nat} (hRange : range < wordRange) (hWord : y < wordRange) :
    scale range x y = x * range / wordRange +
      if wordRange ≤ x * range % wordRange + y * range / wordRange then 1 else 0 := by
  have hSplit := Nat.div_add_mod' (x * range) wordRange
  have hLow : x * range % wordRange < wordRange := Nat.mod_lt _ (by decide)
  have hExtra : y * range / wordRange < wordRange :=
    Nat.div_lt_of_lt_mul (Nat.mul_lt_mul'' hWord hRange)
  unfold scale
  generalize y * range / wordRange = extra at hExtra ⊢
  split_ifs with hCarry
  all_goals
    refine Nat.div_eq_of_lt_le ?_ ?_ <;>
      simp only [Nat.add_mul, Nat.one_mul, Nat.zero_mul] <;> omega

theorem scale_zero (range x : Nat) : scale range x 0 = x * range / wordRange := by
  simp [scale]

/-- Drawing in words gives the number of the draw and takes as many words. -/
theorem uniform_eq_below (words : Words) (position : Nat) (greatest : UInt32) {range : Nat}
    (hRange : greatest.toNat + 1 = range) (hFits : range < wordRange) (positive : 0 < range) :
    (words.uniform position greatest).1.toNat = (words.below position range positive).1.val ∧
      (words.uniform position greatest).2 = (words.below position range positive).2 := by
  have hSucc : (greatest + 1).toNat = range := by
    rw [UInt32.toNat_add, ← hRange]
    exact Nat.mod_eq_of_lt (by rwa [← hRange] at hFits)
  obtain ⟨hHigh, hLow⟩ := toNat_wideProduct (words position) (greatest + 1)
  obtain ⟨hExtra, -⟩ := toNat_wideProduct (words (position + 1)) (greatest + 1)
  rw [hSucc] at hHigh hLow hExtra
  simp only [uniform, below, hSucc, hLow, hExtra]
  split_ifs with hLarge hCarry
  · have hBelow := hLarge
    rw [← hRange] at hBelow
    have hRoom := high_lt_of_low_gt (words position).toNat_lt hBelow
    rw [hRange, ← hHigh] at hRoom
    have hNoWrap : (wideProduct (words position) (greatest + 1)).1.toNat + 1 < 2 ^ 32 :=
      Nat.lt_of_le_of_lt hRoom greatest.toNat_lt
    refine ⟨?_, rfl⟩
    change _ = scale range (words position).toNat (words (position + 1)).toNat
    rw [scale_eq hFits (words (position + 1)).toNat_lt, if_pos hCarry, UInt32.toNat_add, ← hHigh]
    exact Nat.mod_eq_of_lt hNoWrap
  · refine ⟨?_, rfl⟩
    change _ = scale range (words position).toNat (words (position + 1)).toNat
    rw [scale_eq hFits (words (position + 1)).toNat_lt, if_neg hCarry, hHigh, Nat.add_zero]
  · refine ⟨?_, rfl⟩
    change _ = scale range (words position).toNat 0
    rw [hHigh, scale_zero]

/-- No number above the greatest is drawn, with a carry or without. -/
theorem uniform_le (words : Words) (position : Nat) {greatest : UInt32}
    (hFits : greatest.toNat + 1 < wordRange) : (words.uniform position greatest).1 ≤ greatest := by
  obtain ⟨hNumber, -⟩ := words.uniform_eq_below position greatest rfl hFits (Nat.succ_pos _)
  rw [UInt32.le_iff_toNat_le, hNumber]
  exact Nat.le_of_lt_succ (Fin.is_lt _)

/-! ### Picks in plain numbers -/

theorem replace_eq_map {picked : List Nat} (hNodup : picked.Nodup) (choice last : Nat) :
    picked.replace choice last = picked.map fun pick => if pick = choice then last else pick := by
  induction picked with
  | nil => rfl
  | cons pick picked ih =>
      rw [List.nodup_cons] at hNodup
      rw [List.map_cons]
      by_cases hPick : pick = choice
      · subst hPick
        have hSame : picked.map (fun other => if other = pick then last else other) = picked := by
          conv_rhs => rw [← List.map_id picked]
          refine List.map_congr_left fun other hOther => if_neg ?_
          rintro rfl
          exact hNodup.1 hOther
        rw [List.replace_cons_self, if_pos rfl, hSame]
      · rw [List.replace_cons, beq_false_of_ne (Ne.symm hPick), if_neg hPick, ih hNodup.2]

open Choices

variable {size count amount : Nat} {chosen : Vector (Fin size) count}

/-- Replacing the one occurrence of a choice is what placing it does. -/
theorem pickNext_map_val (hNodup : chosen.toList.Nodup) (last choice : Fin size) :
    pickNext (chosen.toList.map Fin.val) last choice =
      (place chosen last choice).toList.map Fin.val := by
  rw [pickNext, replace_eq_map (hNodup.map Fin.val_injective), toList_place, List.map_append,
    List.map_map, List.map_map]
  congr 1
  refine List.map_congr_left fun position _ => ?_
  simp only [Function.comp_apply, Fin.val_inj]
  split <;> rfl

/-- One pick more is one choice more, and the positions stay distinct. -/
theorem pickFrom_succ (words : Words) (position start range : Nat)
    (hChosen : DistinctBelow start chosen) (last : Fin size) (hLast : last.val = start)
    (hRange : start + 1 = range) (hSize : range ≤ size) (hFits : size < wordRange)
    (positive : 0 < range) :
    let draw := words.below position range positive
    let next := place chosen last (draw.1.castLE hSize)
    DistinctBelow (start + 1) next ∧ ∀ amount,
      words.pickFrom start (amount + 1) (chosen.toList.map Fin.val, position) =
        words.pickFrom (start + 1) amount (next.toList.map Fin.val, draw.2) := by
  have hStart : start < wordRange := by omega
  have hWord : start.toUInt32.toNat = start := UInt32.toNat_ofNat_of_lt' hStart
  obtain ⟨hChoice, hNext⟩ := words.uniform_eq_below position start.toUInt32
    (by rw [hWord, hRange]) (by omega) positive
  constructor
  · refine hChosen.place hLast ?_
    rw [Fin.val_castLE]
    omega
  · intro amount
    rw [pickFrom, ← pickNext_map_val hChosen.nodup]
    simp only [hChoice, hNext, Fin.val_castLE, hLast]

/-- The positions picked in plain numbers are those of the draw. -/
theorem sample_eq (words : Words) (position : Nat) (enough : 4 ≤ size) (hFits : size < wordRange) :
    words.sample position size 4 =
      (((ofWords words position size enough).1.positions enough).toList.map Fin.val,
        (ofWords words position size enough).2) := by
  obtain ⟨hOne, hFirst⟩ := words.pickFrom_succ position (size - 4) (size - 3) (.none _)
    ⟨size - 4, by omega⟩ rfl (by omega) (by omega) hFits (by omega)
  obtain ⟨hTwo, hSecond⟩ := words.pickFrom_succ _ _ (size - 2) hOne
    ⟨size - 3, by omega⟩ (by simp; omega) (by omega) (by omega) hFits (by omega)
  obtain ⟨hThree, hThird⟩ := words.pickFrom_succ _ _ (size - 1) hTwo
    ⟨size - 2, by omega⟩ (by simp; omega) (by omega) (by omega) hFits (by omega)
  obtain ⟨-, hFourth⟩ := words.pickFrom_succ _ _ size hThree
    ⟨size - 1, by omega⟩ (by simp; omega) (by omega) (Nat.le_refl _) hFits (by omega)
  exact (hFirst 3).trans ((hSecond 2).trans ((hThird 1).trans (hFourth 0)))

end Words

/-- A round is dealt from four different positions of the deck, whatever the words are. Every number
drawn on the way is at most the greatest asked for, so that no position lies outside the deck. -/
theorem Round.pick_distinct_positions (words : Words) (position : Nat) (deck : List Card)
    (enough : Round.size ≤ deck.length) (hFits : deck.length < 2 ^ 32) :
    (∀ (place : Nat) (greatest : UInt32), greatest.toNat < deck.length →
        (words.uniform place greatest).1 ≤ greatest) ∧
      (words.sample position deck.length Round.size).1.length = 4 ∧
      (words.sample position deck.length Round.size).1.Nodup ∧
      (∀ picked ∈ (words.sample position deck.length Round.size).1, picked < deck.length) ∧
      (Round.pick words position deck enough).1.cards.toList.map some =
        (words.sample position deck.length Round.size).1.map (fun picked => deck[picked]?) ∧
      (Round.pick words position deck enough).2 =
        (words.sample position deck.length Round.size).2 := by
  have hSample := words.sample_eq position enough hFits
  change words.sample position deck.length Round.size = _ at hSample
  rw [hSample]
  refine ⟨fun place greatest hGreatest => ?_, ?_, ?_, ?_, ?_, rfl⟩
  · exact words.uniform_le place (Nat.lt_of_le_of_lt hGreatest hFits)
  · simp
  · exact (Choices.nodup_positions _ enough).map Fin.val_injective
  · intro picked hPicked
    obtain ⟨place, -, rfl⟩ := List.mem_map.mp hPicked
    exact place.isLt
  · have hCards : (Round.pick words position deck enough).1.cards.toList =
        ((Choices.ofWords words position deck.length enough).1.positions enough).toList.map
          deck.get := Vector.toList_map
    rw [hCards, List.map_map, List.map_map]
    exact List.map_congr_left fun picked _ => (List.getElem?_eq_getElem picked.isLt).symm

/-- With one word over and over the third number carries: the high word is 1 and the number is 2. -/
theorem Round.pick_distinct_positions_carry :
    (Words.wideProduct 1227133513 7).1 = 1 ∧
      Round.size ≤ (Deck.upTo 2).length ∧ (Deck.upTo 2).length < 2 ^ 32 ∧
      Words.uniform (fun _ => 1227133513) 2 6 = (2, 4) ∧
      (Words.uniform (fun _ => 1227133513) 2 6).1 ≤ 6 ∧
      Words.sample (fun _ => 1227133513) 0 (Deck.upTo 2).length Round.size = ([5, 1, 7, 2], 5) ∧
      (Words.sample (fun _ => 1227133513) 0 (Deck.upTo 2).length Round.size).1.Nodup := by
  have hDistinct := Round.pick_distinct_positions (fun _ => 1227133513) 0 (Deck.upTo 2)
    (by decide) (by decide)
  refine ⟨by decide, by decide, by decide, by decide, hDistinct.1 2 6 (by decide),
    by decide +kernel, hDistinct.2.2.1⟩

end Make24
