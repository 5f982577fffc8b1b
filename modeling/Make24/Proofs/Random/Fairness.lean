import Mathlib
import Make24.Proofs.Game.Dealing

/-! The deal is fair. Adding a choice to distinct positions can be taken back, so that the choices
for a row of cards and the ordered rows of four distinct positions of it are in bijection. Where all
choices are equally likely, so are all rounds, each order of the same cards counting as a round. -/

namespace Make24

namespace Choices

open scoped ENNReal

variable {size bound count : Nat}

/-! ### One choice -/

/-- The positions before the last choice: where the choice had been made before, the position that
moved to `last` comes back. -/
def unplace (placed : Vector (Fin size) (count + 1)) (last : Fin size) : Vector (Fin size) count :=
  placed.pop.map fun position => if position = last then placed.back else position

theorem back_place (chosen : Vector (Fin size) count) (last choice : Fin size) :
    (place chosen last choice).back = choice := by
  simp [place, Vector.back]

theorem unplace_place {chosen : Vector (Fin size) count} {last : Fin size}
    (hChosen : DistinctBelow bound chosen) (hLast : last.val = bound) (choice : Fin size) :
    unplace (place chosen last choice) last = chosen := by
  rw [unplace, back_place, place, Vector.pop_push, Vector.map_map]
  conv_rhs => rw [← Vector.map_id chosen]
  refine Vector.map_congr_left fun position hPosition => ?_
  have hBelow := hChosen.below position (Vector.mem_toList_iff.mpr hPosition)
  have hNotLast : position ≠ last := fun hEq => by omega
  by_cases hChoice : position = choice
  · simp [hChoice]
  · simp [hChoice, hNotLast]

theorem back_notMem_pop {placed : Vector (Fin size) (count + 1)} (hPlaced : placed.toList.Nodup) :
    placed.back ∉ placed.pop := by
  rw [← Vector.push_pop_back placed, Vector.toList_push, ← List.concat_eq_append,
    List.nodup_concat] at hPlaced
  exact fun hMem => hPlaced.1 (Vector.mem_toList_iff.mpr hMem)

theorem place_unplace {placed : Vector (Fin size) (count + 1)} (hPlaced : placed.toList.Nodup)
    (last : Fin size) : place (unplace placed last) last placed.back = placed := by
  conv_rhs => rw [← Vector.push_pop_back placed]
  rw [place, unplace, Vector.map_map]
  congr 1
  conv_rhs => rw [← Vector.map_id placed.pop]
  refine Vector.map_congr_left fun position hPosition => ?_
  have hNotBack : position ≠ placed.back :=
    fun hEq => back_notMem_pop hPlaced (hEq ▸ hPosition)
  by_cases hLast : position = last
  · simp [hLast]
  · simp [hLast, hNotBack]

theorem DistinctBelow.unplace {placed : Vector (Fin size) (count + 1)} {last : Fin size}
    (hPlaced : DistinctBelow (bound + 1) placed) (hLast : last.val = bound) :
    DistinctBelow bound (unplace placed last) := by
  have hBack := back_notMem_pop hPlaced.nodup
  have hPop : placed.pop.toList.Sublist placed.toList := by
    rw [Vector.toList_pop]
    exact List.dropLast_sublist _
  have hLess : ∀ position ∈ placed.pop, position ≠ last → position.val < bound := by
    intro position hMem hNotLast
    have hBound := hPlaced.below position (hPop.subset (Vector.mem_toList_iff.mpr hMem))
    omega
  unfold Choices.unplace
  constructor
  · rw [Vector.toList_map]
    refine (hPlaced.nodup.sublist hPop).map_on ?_
    intro a ha b hb hMoved
    rw [Vector.mem_toList_iff] at ha hb
    split at hMoved <;> split at hMoved <;> simp_all
  · intro position hMem
    rw [Vector.toList_map, List.mem_map] at hMem
    obtain ⟨before, hBefore, rfl⟩ := hMem
    rw [Vector.mem_toList_iff] at hBefore
    split
    case isTrue hEq =>
      have hBound := hPlaced.below placed.back (by simp)
      have hNotLast : placed.back ≠ last := fun hBackEq => hBack (by rwa [hBackEq, ← hEq])
      omega
    case isFalse hNotLast => exact hLess before hBefore hNotLast

/-- Some positions below a bound, none of them twice. -/
abbrev Distinct (size bound count : Nat) : Type :=
  { chosen : Vector (Fin size) count // DistinctBelow bound chosen }

/-- Distinct positions and a choice up to the bound, and one position more below the next bound,
decide each other. -/
def placing (bound range : Nat) (last : Fin size) (hLast : last.val = bound)
    (hRange : bound + 1 = range) :
    Distinct size bound count × Fin range ≃ Distinct size range (count + 1) where
  toFun pair := ⟨place pair.1.1 last (pair.2.castLE (by omega)), by
    subst hRange
    exact pair.1.2.place hLast (Nat.le_of_lt_succ pair.2.isLt)⟩
  invFun placed := ⟨⟨unplace placed.1 last, by
      subst hRange
      exact placed.2.unplace hLast⟩,
    ⟨placed.1.back.val, placed.2.below _ (by simp)⟩⟩
  left_inv pair := by
    refine Prod.ext (Subtype.ext (unplace_place pair.1.2 hLast _)) (Fin.ext ?_)
    simp only [back_place, Fin.val_castLE]
  right_inv placed := Subtype.ext (place_unplace placed.2.nodup last)

/-! ### Four choices -/

/-- The choices as numbers, made one after the other from no position on. -/
def inTurn (none : Distinct size (size - 4) 0) : Choices size ≃
    (((Distinct size (size - 4) 0 × Fin (size - 3)) × Fin (size - 2)) × Fin (size - 1)) ×
      Fin size where
  toFun choices := ((((none, choices.first), choices.second), choices.third), choices.fourth)
  invFun numbers := ⟨numbers.1.1.1.2, numbers.1.1.2, numbers.1.2, numbers.2⟩
  left_inv _ := rfl
  right_inv numbers := by
    obtain ⟨⟨⟨⟨other, _⟩, _⟩, _⟩, _⟩ := numbers
    have hNone : none = other := Subtype.ext (Vector.eq_empty.trans Vector.eq_empty.symm)
    rw [hNone]

/-- Choices and rows of four distinct positions decide each other. -/
theorem exists_rows (enough : 4 ≤ size) : ∃ rows : Choices size ≃ Distinct size size 4,
    ∀ choices, (rows choices).1 = choices.positions enough := by
  let first : Distinct size (size - 4) 0 × Fin (size - 3) ≃ Distinct size (size - 3) 1 :=
    placing (size - 4) (size - 3) ⟨size - 4, by omega⟩ rfl (by omega)
  let second : Distinct size (size - 3) 1 × Fin (size - 2) ≃ Distinct size (size - 2) 2 :=
    placing (size - 3) (size - 2) ⟨size - 3, by omega⟩ rfl (by omega)
  let third : Distinct size (size - 2) 2 × Fin (size - 1) ≃ Distinct size (size - 1) 3 :=
    placing (size - 2) (size - 1) ⟨size - 2, by omega⟩ rfl (by omega)
  let fourth : Distinct size (size - 1) 3 × Fin size ≃ Distinct size size 4 :=
    placing (size - 1) size ⟨size - 1, by omega⟩ rfl (by omega)
  let two := (first.prodCongr (.refl _)).trans second
  let three := (two.prodCongr (.refl _)).trans third
  exact ⟨(inTurn ⟨#v[], .none _⟩).trans ((three.prodCongr (.refl _)).trans fourth), fun _ => rfl⟩

theorem positions_injective (enough : 4 ≤ size) :
    Function.Injective fun choices : Choices size => choices.positions enough := by
  obtain ⟨rows, hRows⟩ := exists_rows enough
  intro choices other hSame
  refine rows.injective (Subtype.ext ?_)
  rw [hRows, hRows]
  exact hSame

theorem exists_choices {positions : Vector (Fin size) 4} (enough : 4 ≤ size)
    (hNodup : positions.toList.Nodup) : ∃ choices : Choices size,
      choices.positions enough = positions := by
  obtain ⟨rows, hRows⟩ := exists_rows enough
  have hBelow : DistinctBelow size positions := ⟨hNodup, fun position _ => position.isLt⟩
  refine ⟨rows.symm ⟨positions, hBelow⟩, ?_⟩
  rw [← hRows, Equiv.apply_symm_apply]

/-! ### Equally likely choices -/

instance : Fintype (Choices size) :=
  .ofEquiv (Fin (size - 3) × Fin (size - 2) × Fin (size - 1) × Fin size)
    { toFun := fun numbers => ⟨numbers.1, numbers.2.1, numbers.2.2.1, numbers.2.2.2⟩
      invFun := fun choices => (choices.first, choices.second, choices.third, choices.fourth)
      left_inv := fun _ => rfl
      right_inv := fun _ => rfl }

theorem card_choices (size : Nat) : Fintype.card (Choices size) = size.descFactorial 4 := by
  refine (Fintype.ofEquiv_card _).trans ?_
  simp only [Fintype.card_prod, Fintype.card_fin, Nat.descFactorial_succ, Nat.descFactorial_zero,
    Nat.mul_one, Nat.sub_zero]

theorem nonempty (enough : 4 ≤ size) : Nonempty (Choices size) :=
  ⟨⟨0, by omega⟩, ⟨0, by omega⟩, ⟨0, by omega⟩, ⟨0, by omega⟩⟩

/-- All choices for a row of at least four cards with the same probability. -/
noncomputable def uniform (enough : 4 ≤ size) : PMF (Choices size) :=
  have := nonempty enough
  PMF.uniformOfFintype (Choices size)

/-- What the choices decide without loss has the probability of one choice. -/
theorem map_uniform_apply {Result : Type} {f : Choices size → Result} (enough : 4 ≤ size)
    (hInjective : Function.Injective f) (choices : Choices size) :
    ((uniform enough).map f) (f choices) = (size.descFactorial 4 : ℝ≥0∞)⁻¹ := by
  rw [PMF.map_apply, tsum_eq_single choices]
  · simp [uniform, card_choices]
  · intro other hOther
    rw [if_neg fun hSame => hOther (hInjective hSame).symm]

end Choices

namespace Round

/-- Distinct cards of a deck lie at distinct positions. -/
theorem exists_positions {deck : List Card} {round : Round} (hNodup : round.cards.toList.Nodup)
    (hCards : round.cards.toList ⊆ deck) :
    ∃ positions : Vector (Fin deck.length) Round.size,
      positions.toList.Nodup ∧ ofPositions deck positions = round := by
  have hEach : ∀ card ∈ round.cards, ∃ position, deck.get position = card :=
    fun card hMem => List.mem_iff_get.mp (hCards (Vector.mem_toList_iff.mpr hMem))
  obtain ⟨first, -⟩ := hEach round.cards[0] (by simp)
  have : Nonempty (Fin deck.length) := ⟨first⟩
  have hBack : (round.cards.map (Function.invFun deck.get)).map deck.get = round.cards := by
    rw [Vector.map_map]
    conv_rhs => rw [← Vector.map_id round.cards]
    exact Vector.map_congr_left fun card hMem => Function.invFun_eq (hEach card hMem)
  refine ⟨round.cards.map (Function.invFun deck.get), ?_, congrArg Round.mk hBack⟩
  refine List.Nodup.of_map deck.get ?_
  rwa [← Vector.toList_map, hBack]

theorem ofPositions_injective {deck : List Card} (hDeck : deck.Nodup) :
    Function.Injective (ofPositions deck) := by
  intro positions other hSame
  have hCards : positions.map deck.get = other.map deck.get := congrArg Round.cards hSame
  exact Vector.map_inj_right (fun _ _ hEq => hDeck.injective_get hEq) |>.mp hCards

end Round

/-- The choices for a row of cards stand for all ordered rows of four distinct positions, each for
one. If all choices are equally likely, so are all these rows, and in a deck without equal cards all
rounds of four of its cards, in any order. -/
theorem Choices.deal_is_fair :
    (∀ (size : Nat) (enough : 4 ≤ size),
      Set.BijOn (fun choices : Choices size => choices.positions enough) Set.univ
          {positions | positions.toList.Nodup} ∧
        ∀ positions : Vector (Fin size) 4, positions.toList.Nodup →
          ((Choices.uniform enough).map fun choices => choices.positions enough) positions =
            (size.descFactorial 4 : ENNReal)⁻¹) ∧
      ∀ (deck : List Card) (enough : Round.size ≤ deck.length), deck.Nodup →
        ∀ round : Round, round.cards.toList.Nodup → round.cards.toList ⊆ deck →
          ((Choices.uniform enough).map fun choices =>
              Round.ofPositions deck (choices.positions enough)) round =
            (deck.length.descFactorial 4 : ENNReal)⁻¹ := by
  constructor
  · intro size enough
    refine ⟨⟨fun choices _ => Choices.nodup_positions choices enough,
      (Choices.positions_injective enough).injOn, ?_⟩, ?_⟩
    · intro positions hNodup
      obtain ⟨choices, hChoices⟩ := Choices.exists_choices enough hNodup
      exact ⟨choices, Set.mem_univ _, hChoices⟩
    · intro positions hNodup
      obtain ⟨choices, rfl⟩ := Choices.exists_choices enough hNodup
      exact Choices.map_uniform_apply enough (Choices.positions_injective enough) choices
  · intro deck enough hDeck round hNodup hCards
    obtain ⟨positions, hDistinct, rfl⟩ := Round.exists_positions hNodup hCards
    obtain ⟨choices, rfl⟩ := Choices.exists_choices enough hDistinct
    have hInjective := (Round.ofPositions_injective hDeck).comp (Choices.positions_injective enough)
    exact Choices.map_uniform_apply enough hInjective choices

/-- Of five cards, each of the 120 ordered rounds is as likely, also one whose order is not that of
the deck. -/
theorem Choices.deal_is_fair_five :
    (4 ≤ 5 ∧ (#v[4, 0, 3, 1] : Vector (Fin 5) 4).toList.Nodup ∧
      ((Choices.uniform (by decide : 4 ≤ 5)).map fun choices =>
        choices.positions (by decide)) #v[4, 0, 3, 1] = (120 : ENNReal)⁻¹) ∧
    Round.size ≤ ((Deck.upTo 2).take 5).length ∧ ((Deck.upTo 2).take 5).Nodup ∧
      [⟨.spades, 1⟩, ⟨.hearts, 2⟩, ⟨.clubs, 1⟩, ⟨.hearts, 1⟩] ⊆ (Deck.upTo 2).take 5 ∧
      ((Choices.uniform (by decide : 4 ≤ ((Deck.upTo 2).take 5).length)).map fun choices =>
          Round.ofPositions ((Deck.upTo 2).take 5) (choices.positions (by decide)))
        ⟨#v[⟨.spades, 1⟩, ⟨.hearts, 2⟩, ⟨.clubs, 1⟩, ⟨.hearts, 1⟩]⟩ = (120 : ENNReal)⁻¹ := by
  have hCount : (120 : ENNReal) = ((Nat.descFactorial 5 4 : Nat) : ENNReal) := by
    norm_num [Nat.descFactorial]
  have hRow := (Choices.deal_is_fair.1 5 (by decide)).2 #v[4, 0, 3, 1] (by decide)
  have hRound := Choices.deal_is_fair.2 ((Deck.upTo 2).take 5) (by decide) (by decide)
    ⟨#v[⟨.spades, 1⟩, ⟨.hearts, 2⟩, ⟨.clubs, 1⟩, ⟨.hearts, 1⟩]⟩ (by decide) (by decide)
  rw [hCount]
  exact ⟨⟨by decide, by decide, hRow⟩, by decide, by decide, by decide, hRound⟩

end Make24
