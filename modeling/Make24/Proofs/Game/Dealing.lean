import Mathlib
import Make24.Game.Session

/-! What a deal takes out of the deck. The four positions are distinct whatever the words are, so
the cards of a round are cards of the deck, each no more often than the deck holds it. Cards leave
the deck by equality with a dealt card; where no card occurs twice, exactly the four leave. -/

namespace Make24

open scoped List

namespace Choices

variable {size count : Nat}

/-- Positions below a bound, none of them twice. -/
structure DistinctBelow (bound : Nat) (chosen : Vector (Fin size) count) : Prop where
  nodup : chosen.toList.Nodup
  below : ∀ position ∈ chosen.toList, position.val < bound

theorem toList_place (chosen : Vector (Fin size) count) (last choice : Fin size) :
    (place chosen last choice).toList =
      chosen.toList.map (fun position => if position = choice then last else position)
        ++ [choice] := by
  simp [place, Vector.toList_push, Vector.toList_map]

/-- A new choice keeps the positions distinct. The position that gives way moves to the last one,
which none of those chosen before could be. -/
theorem DistinctBelow.place {bound : Nat} {chosen : Vector (Fin size) count}
    {last choice : Fin size} (h : DistinctBelow bound chosen) (hLast : last.val = bound)
    (hChoice : choice.val ≤ bound) : DistinctBelow (bound + 1) (place chosen last choice) := by
  constructor
  · rw [toList_place, ← List.concat_eq_append, List.nodup_concat]
    constructor
    · intro hMem
      obtain ⟨position, hChosen, hMoved⟩ := List.mem_map.mp hMem
      have hLess := h.below position hChosen
      split at hMoved <;> omega
    · refine h.nodup.map_on ?_
      intro a ha b hb hMoved
      have hLessA := h.below a ha
      have hLessB := h.below b hb
      split at hMoved <;> split at hMoved <;> omega
  · intro position hMem
    rw [toList_place, List.mem_append, List.mem_map, List.mem_singleton] at hMem
    rcases hMem with ⟨before, hChosen, rfl⟩ | rfl
    · have hLess := h.below before hChosen
      split <;> omega
    · omega

theorem DistinctBelow.none (bound : Nat) : DistinctBelow bound (#v[] : Vector (Fin size) 0) :=
  ⟨by simp, by simp⟩

/-- No position is picked twice. -/
theorem nodup_positions (choices : Choices size) (enough : 4 ≤ size) :
    (choices.positions enough).toList.Nodup := by
  have hFirst : choices.first.val ≤ size - 4 := by omega
  have hSecond : choices.second.val ≤ size - 4 + 1 := by omega
  have hThird : choices.third.val ≤ size - 4 + 1 + 1 := by omega
  have hFourth : choices.fourth.val ≤ size - 4 + 1 + 1 + 1 := by omega
  unfold positions
  -- Each choice may lie one further than the one before it: the bound grows along with the row.
  refine DistinctBelow.nodup
    (.place (.place (.place (.place (.none _) rfl hFirst) ?_ hSecond) ?_ hThird) ?_ hFourth)
  all_goals
    simp
    omega

end Choices

namespace Round

variable {deck : List Card} {round : Round}

theorem contains_iff {card : Card} : round.contains card = true ↔ card ∈ round.cards.toList := by
  simp [contains]

/-- The cards of some rounds, round by round. -/
def cardsOf (rounds : List Round) : List Card :=
  rounds.flatMap fun round => round.cards.toList

@[simp] theorem cardsOf_append (earlier later : List Round) :
    cardsOf (earlier ++ later) = cardsOf earlier ++ cardsOf later :=
  List.flatMap_append

@[simp] theorem cardsOf_singleton (round : Round) : cardsOf [round] = round.cards.toList := by
  simp [cardsOf]

theorem length_cardsOf (rounds : List Round) : (cardsOf rounds).length = 4 * rounds.length := by
  induction rounds with
  | nil => rfl
  | cons round rest ih =>
      have hRest : cardsOf (round :: rest) = round.cards.toList ++ cardsOf rest := rfl
      have hFour : round.cards.toList.length = 4 := round.cards.length_toList
      rw [hRest, List.length_append, ih, hFour, List.length_cons]
      omega

/-- The cards at distinct positions are in the deck, each no more often than the deck holds it. -/
theorem subperm_ofPositions {positions : Vector (Fin deck.length) Round.size}
    (hNodup : positions.toList.Nodup) : (ofPositions deck positions).cards.toList <+~ deck := by
  obtain ⟨some, hPerm, hSub⟩ : positions.toList <+~ List.finRange deck.length :=
    hNodup.subperm fun position _ => List.mem_finRange position
  have hCards : positions.toList.map deck.get <+~ (List.finRange deck.length).map deck.get :=
    ⟨some.map deck.get, hPerm.map deck.get, hSub.map deck.get⟩
  rwa [List.map_get_finRange, ← Vector.toList_map] at hCards

/-- Where no card occurs twice, the cards of a round and what they leave are the deck. -/
theorem removeFrom_append_perm (hNodup : deck.Nodup) (hCards : round.cards.toList <+~ deck) :
    (round.removeFrom deck ++ round.cards.toList).Perm deck := by
  have hDistinct : round.cards.toList.Nodup := by
    obtain ⟨some, hPerm, hSub⟩ := hCards
    exact hPerm.nodup_iff.mp (hNodup.sublist hSub)
  have hDealt : (deck.filter round.contains).Perm round.cards.toList := by
    rw [List.perm_ext_iff_of_nodup (hNodup.filter _) hDistinct]
    intro card
    rw [List.mem_filter, contains_iff, and_iff_right_iff_imp]
    exact fun hMem => hCards.subset hMem
  calc round.removeFrom deck ++ round.cards.toList
      _ ~ round.removeFrom deck ++ deck.filter round.contains := hDealt.symm.append_left _
      _ ~ deck.filter round.contains ++ round.removeFrom deck := List.perm_append_comm
      _ ~ deck := List.filter_append_perm _ _

/-- A round takes at least four cards with it, and more where a card of it lies in the deck again.
-/
theorem length_removeFrom_add_four_le (hCards : round.cards.toList <+~ deck) :
    (round.removeFrom deck).length + 4 ≤ deck.length := by
  have hFour : round.cards.toList.length = 4 := round.cards.length_toList
  have hTaken : round.cards.toList <+~ deck.filter round.contains := by
    have hFiltered := hCards.filter round.contains
    rwa [List.filter_eq_self.mpr fun card hMem => contains_iff.mpr hMem] at hFiltered
  have hLength := hTaken.length_le
  have hSplit := List.length_eq_length_filter_add (l := deck) round.contains
  unfold removeFrom
  omega

/-- Where no card occurs twice, a round takes just its four cards. -/
theorem length_removeFrom_add_four (hNodup : deck.Nodup) (hCards : round.cards.toList <+~ deck) :
    (round.removeFrom deck).length + 4 = deck.length := by
  have hFour : round.cards.toList.length = 4 := round.cards.length_toList
  have hLength := (removeFrom_append_perm hNodup hCards).length_eq
  rwa [List.length_append, hFour] at hLength

/-- A card of the round is not among the cards that it leaves. -/
theorem not_mem_removeFrom {card : Card} (hMem : card ∈ round.removeFrom deck) :
    card ∉ round.cards.toList := by
  have hKept := (List.mem_filter.mp hMem).2
  rw [← contains_iff]
  simpa using hKept

end Round

theorem Generator.subperm_pickRound {generator : Generator} {deck : List Card}
    {enough : Round.size ≤ deck.length} :
    (generator.pickRound deck enough).1.cards.toList <+~ deck :=
  Round.subperm_ofPositions (Choices.nodup_positions _ enough)

namespace Game

/-- What a deal leads to. A round comes out of a deck that can fill one, and takes words from the
generator; otherwise only the phase and the round in play change. -/
inductive Dealing (game : Game) : Step Bool → Prop where
  | dealt {round : Round} {generator : Generator} (enough : Round.size ≤ game.deck.length)
      (hPick : game.generator.pickRound game.deck enough = (round, generator))
      (hCards : round.cards.toList <+~ game.deck) :
      Dealing game ⟨true,
        { game with
          phase := .active
          deck := round.removeFrom game.deck
          discards := game.discards ++ round.cards.toList
          round? := some round
          generator },
        [.record (.roundDealt round (round.removeFrom game.deck).length),
          .event (.roundDealt round), .event (.deckChanged (round.removeFrom game.deck)),
          .event (.discardsChanged (game.discards ++ round.cards.toList))]⟩
  | exhausted (short : game.deck.length < Round.size) :
      Dealing game ⟨false, { game with phase := .finished, round? := none },
        [.record (.deckExhausted game.deck.length game.discards.length), .event .gameFinished]⟩

/-- A deck that was just built can always fill a round. -/
theorem not_short_deck (options : Options) : ¬ options.deck.length < Round.size := by
  rw [options.length_deck, Nat.not_lt]
  unfold Options.deckSize
  split <;> decide

theorem dealing_deal (game : Game) : Dealing game game.deal := by
  unfold deal
  split
  case isTrue enough => exact .dealt enough rfl Generator.subperm_pickRound
  case isFalse short => exact .exhausted (Nat.lt_of_not_le short)

end Game

end Make24
