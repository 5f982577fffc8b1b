import Mathlib
import Make24.Proofs.Game.Duration

/-! Staged decks. Nothing is asked of the cards that replace a deck, so some of them may be equal. A
round is picked by position and leaves by equality: it takes along every card that equals one of its
own, and a card that lies in the deck more often than in the round is lost with it, neither left to
deal nor dealt. -/

namespace Make24

open scoped List

namespace Game

/-- How a deck is shared out. Of a card that was dealt none is left, and of any other all are. -/
structure SharesOut (deck left dealt : List Card) : Prop where
  count_left : ∀ card, left.count card = if card ∈ dealt then 0 else deck.count card
  dealt : dealt <+~ deck

/-- The cards that a run deals, in order. -/
def cardsDealt (game : Game) (commands : List Command) : List Card :=
  Round.cardsOf ((game.deals commands).map Deal.round)

namespace SharesOut

variable {deck middle left first second dealt : List Card} {round : Round}

theorem untouched (deck : List Card) : SharesOut deck deck [] := ⟨by simp, List.nil_subperm⟩

theorem removeFrom (hCards : round.cards.toList <+~ deck) :
    SharesOut deck (round.removeFrom deck) round.cards.toList where
  count_left card := by
    split
    case isTrue hDealt =>
      exact List.count_eq_zero.mpr fun hMem => Round.not_mem_removeFrom hMem hDealt
    case isFalse hLeft =>
      rw [← Round.contains_iff] at hLeft
      exact List.count_filter (by simpa using hLeft)
  dealt := hCards

/-- Nothing is left or dealt that was not in the deck. -/
theorem count_add_le (h : SharesOut deck left dealt) (card : Card) :
    left.count card + dealt.count card ≤ deck.count card := by
  have hDealt := h.dealt.count_le card
  rw [h.count_left]
  split
  case isTrue => omega
  case isFalse hNone =>
    have hZero := List.count_eq_zero.mpr hNone
    omega

theorem append_subperm (h : SharesOut deck left dealt) : left ++ dealt <+~ deck := by
  rw [List.subperm_ext_iff]
  intro card _
  rw [List.count_append]
  exact h.count_add_le card

/-- What is dealt off the rest of a deck was not dealt before. -/
theorem trans (h : SharesOut deck middle first) (h' : SharesOut middle left second) :
    SharesOut deck left (first ++ second) := by
  constructor
  · intro card
    rw [h'.count_left, h.count_left]
    by_cases hFirst : card ∈ first <;> by_cases hSecond : card ∈ second <;> simp [hFirst, hSecond]
  · rw [List.subperm_ext_iff]
    intro card _
    have hFirst := h.count_add_le card
    have hSecond := h'.dealt.count_le card
    rw [List.count_append]
    omega

/-- Nothing is lost exactly if each card dealt was dealt as often as the deck held it. -/
theorem perm_iff (h : SharesOut deck left dealt) :
    (left ++ dealt).Perm deck ↔ ∀ card ∈ dealt, deck.count card = dealt.count card := by
  rw [List.perm_iff_count]
  refine forall_congr' fun card => ?_
  rw [List.count_append, h.count_left]
  by_cases hDealt : card ∈ dealt
  · simp [hDealt, eq_comm]
  · simp [hDealt, List.count_eq_zero.mpr hDealt]

theorem perm_of_nodup (h : SharesOut deck left dealt) (hNodup : deck.Nodup) :
    (left ++ dealt).Perm deck := by
  rw [h.perm_iff]
  intro card hMem
  have hOne := List.nodup_iff_count_le_one.mp hNodup card
  have hDealt := List.one_le_count_iff.mpr hMem
  have hAtMost := h.dealt.count_le card
  omega

end SharesOut

section Runs

variable {game : Game} {commands : List Command} {step : Step Reply}

theorem cardsDealt_cons (game : Game) (command : Command) (rest : List Command) :
    game.cardsDealt (command :: rest) = Round.cardsOf (game.perform command).dealt
      ++ (game.perform command).game.cardsDealt rest := by
  unfold cardsDealt
  rw [deals_cons, List.map_append, Round.cardsOf_append, List.map_map]
  congr 2
  exact List.map_id _

theorem Spends.sharesOut (h : Spends game step) :
    SharesOut game.deck step.game.deck (Round.cardsOf step.dealt) := by
  cases h with
  | kept hEnds hDealt hDeck hPhase =>
      rw [hDealt, hDeck]
      exact .untouched game.deck
  | dealt hEnds hDealt hCards hDeck hBefore hPhase =>
      rw [hDealt, hDeck, Round.cardsOf_singleton]
      exact .removeFrom hCards
  | finished hEnds hDealt hDeck hShort hBefore hPhase =>
      rw [hDealt, hDeck]
      exact .untouched game.deck

/-- A run that neither builds nor replaces the deck shares it out. -/
theorem sharesOut_after (hPhase : game.phase ≠ .notStarted) (hRestart : .restart ∉ commands)
    (hReplace : ∀ cards, .replaceDeck cards ∉ commands) :
    SharesOut game.deck (game.after commands).deck (game.cardsDealt commands) := by
  induction commands generalizing game with
  | nil => exact .untouched game.deck
  | cons command rest ih =>
      simp only [List.mem_cons, not_or] at hRestart hReplace
      have move := move_perform game command
      have hSpends := move.spends hPhase (Ne.symm hRestart.1) fun cards =>
        Ne.symm (hReplace cards).1
      have hBegun : (game.perform command).game.phase ≠ .notStarted := by
        rw [Ne, move.phase_eq_notStarted_iff]
        exact fun hNot => hPhase hNot.1
      rw [cardsDealt_cons]
      exact hSpends.sharesOut.trans (ih hBegun hRestart.2 fun cards => (hReplace cards).2)

/-- Whatever cards the deck of a session under way is replaced by, and for every run that neither
restarts the session nor replaces the deck again:

* a command that deals loses no card exactly if each card of the round lies in the deck as often as
  in the round;
* the cards left after the run and those dealt in it are no others than the staged ones, and no card
  was lost exactly if each card dealt was dealt as often as it was staged;
* of cards that are staged once each none is lost. -/
theorem staged_cards_kept_iff (game : Game) (cards : List Card) {commands : List Command}
    (hPhase : game.phase ≠ .notStarted) (hRestart : .restart ∉ commands)
    (hReplace : ∀ others, .replaceDeck others ∉ commands) :
    let staged := (game.perform (.replaceDeck cards)).game
    let left := (staged.after commands).deck
    let dealt := staged.cardsDealt commands
    (∀ earlier command later, commands = earlier ++ command :: later →
      let before := staged.after earlier
      let step := before.perform command
      ((step.game.deck ++ Round.cardsOf step.dealt).Perm before.deck ↔
        ∀ card ∈ Round.cardsOf step.dealt,
          before.deck.count card = (Round.cardsOf step.dealt).count card)) ∧
      left ++ dealt <+~ cards ∧
      ((left ++ dealt).Perm cards ↔ ∀ card ∈ dealt, cards.count card = dealt.count card) ∧
      (cards.Nodup → (left ++ dealt).Perm cards) := by
  intro staged left dealt
  have hBegun : staged.phase ≠ .notStarted := hPhase
  have hShares : SharesOut cards left dealt := sharesOut_after hBegun hRestart hReplace
  refine ⟨?_, hShares.append_subperm, hShares.perm_iff, hShares.perm_of_nodup⟩
  rintro earlier command later rfl before step
  simp only [List.mem_append, List.mem_cons, not_or] at hRestart hReplace
  have hBefore : before.phase ≠ .notStarted := by
    rw [Ne, after_phase_eq_notStarted_iff]
    exact fun hNot => hBegun hNot.1
  have hSpends : Spends before step := (move_perform before command).spends hBefore
    (Ne.symm hRestart.2.1) fun others => Ne.symm (hReplace others).2.1
  exact hSpends.sharesOut.perm_iff

/-- Four equal cards make one round, and a run that deals them loses none. -/
theorem staged_cards_kept_four_equal :
    let game := (new {} 7).after [.start]
    let commands : List Command := [.skip "ann", .skip "ann"]
    let cards := List.replicate 4 ⟨.hearts, 6⟩
    let staged := (game.perform (.replaceDeck cards)).game
    game.phase ≠ .notStarted ∧ .restart ∉ commands ∧ (∀ others, .replaceDeck others ∉ commands) ∧
      staged.cardsDealt commands = cards ∧
      ((staged.after commands).deck ++ staged.cardsDealt commands).Perm cards := by
  intro game commands cards staged
  have hPhase : game.phase ≠ .notStarted := by decide +kernel
  have hRestart : .restart ∉ commands := by simp [commands]
  have hReplace : ∀ others, .replaceDeck others ∉ commands := by simp [commands]
  have hDealt : staged.cardsDealt commands = cards := by decide +kernel
  obtain ⟨-, -, hKept, -⟩ := staged_cards_kept_iff game cards hPhase hRestart hReplace
  refine ⟨hPhase, hRestart, hReplace, hDealt, hKept.mpr fun card _ => ?_⟩
  exact congrArg (List.count card) hDealt.symm

/-- Of five equal cards four are dealt, and the fifth one is lost. -/
theorem staged_card_lost :
    let game := (new {} 7).after [.start, .replaceDeck (List.replicate 5 ⟨.hearts, 6⟩)]
    let step := game.perform (.skip "ann")
    Round.cardsOf step.dealt = List.replicate 4 ⟨.hearts, 6⟩ ∧ step.game.deck = [] ∧
      ¬(step.game.deck ++ Round.cardsOf step.dealt).Perm game.deck := by
  decide +kernel

end Runs

end Game

end Make24
