import Mathlib
import Make24.Proofs.Game.Coherence

/-! Points and won cards. A record holds exactly what its player's scored attempts have won, and the
rounds won together with the round in play are different deals, so no card counts for more than it
was dealt. -/

namespace Make24.Game

variable {game : Game} {chronicle : Chronicle}

/-- The cards of the round in play. -/
def cardsInPlay (game : Game) : List Card :=
  Round.cardsOf game.round?.toList

/-- The rounds won and the round in play are different ones of the rounds dealt. -/
theorem Coherent.sublist_dealt (h : Coherent game chronicle) :
    (chronicle.won.map Prod.snd ++ game.round?.toList).Sublist chronicle.dealt := by
  cases hRound : game.round? with
  | none => simpa using h.awarded
  | some round =>
      obtain ⟨earlier, hDealt, hWon⟩ := h.pending round hRound
      rw [hDealt]
      exact hWon.append_right [round]

theorem coe_flatMap_cards (players : List Player) :
    ((players.flatMap Player.cards : List Card) : Multiset Card) =
      (players.map fun player => (player.cards : Multiset Card)).sum := by
  induction players with
  | nil => rfl
  | cons player rest ih =>
      rw [List.flatMap_cons, ← Multiset.coe_add, ih, List.map_cons, List.sum_cons]

/-- Won cards and cards in play are among the discards, each no more often than it was dealt. -/
theorem Coherent.cards_le_discards (h : Coherent game chronicle) :
    (game.roster.players.map fun player => (player.cards : Multiset Card)).sum
      + (game.cardsInPlay : Multiset Card) ≤ (game.discards : Multiset Card) := by
  obtain ⟨ids, hTallies⟩ := h.tallies
  have hSublist := h.sublist_dealt.flatMap fun round => round.cards.toList
  rw [← coe_flatMap_cards, Multiset.coe_add, Multiset.coe_le, h.discards]
  have hPerm := hTallies.perm_cards.append_right game.cardsInPlay
  rw [cardsInPlay, ← Round.cardsOf_append] at hPerm
  exact hPerm.subperm.trans hSublist.subperm

theorem Dealing.roster_eq {dealt : Step Bool} (hDealt : Dealing game dealt) :
    dealt.game.roster = game.roster := by
  cases hDealt <;> rfl

/-- A scored attempt tells the score that the record then holds. -/
theorem Move.find?_of_scored {player text : String} {step : Step Reply} {score : Nat}
    (move : Move game (.attempt player text) step)
    (hScored : step.result = .attempted (.ok (.scored score))) :
    (step.game.roster.find? player).map Player.score = some score := by
  cases move with
  | attemptRefused | invalid | incorrect => cases hScored
  | @won _ _ round _ winner roster hRound hText hValue hAward dealt hDealt =>
      cases hScored
      have hFound : (game.roster.award player round).2.find? player =
          some (game.roster.award player round).1 := Roster.find?_update fun _ => rfl
      rw [hAward] at hFound
      rw [hDealt.roster_eq, hFound]
      rfl

/-- After any commands, and whatever cards the deck was replaced by:

* the record of each player holds the cards of the rounds that the player's attempts won since the
  game was made or last restarted, in order, and their number as the score, up to the limit;
* nobody else has won a round;
* the cards of all records and of the round in play are contained in the discards with their
  multiplicities, and the rounds won with the one in play are different ones of those dealt;
* an attempt that scores tells the score that the player's record holds after it. -/
theorem scores_tally_after (options : Options) (seed : UInt64) (commands : List Command) :
    let game := (new options seed).after commands
    let chronicle := (new options seed).chronicle commands
    (∀ player ∈ game.roster.players,
      player.cards = Round.cardsOf (roundsWon chronicle.won player.id) ∧
        player.score = min (roundsWon chronicle.won player.id).length (2 ^ 32 - 1) ∧
        ((roundsWon chronicle.won player.id).length ≤ 2 ^ 32 - 1 →
          player.cards.length = 4 * player.score)) ∧
      (∀ id, roundsWon chronicle.won id ≠ [] → ∃ player ∈ game.roster.players, player.id = id) ∧
      (game.roster.players.map fun player => (player.cards : Multiset Card)).sum
        + (game.cardsInPlay : Multiset Card) ≤ (game.discards : Multiset Card) ∧
      (chronicle.won.map Prod.snd ++ game.round?.toList).Sublist chronicle.dealt ∧
      ∀ player text score, (game.attempt player text).result = .ok (.scored score) →
        ((game.attempt player text).game.roster.find? player).map Player.score = some score := by
  intro game chronicle
  have h : Coherent game chronicle := coherent_after options seed commands
  obtain ⟨ids, hTallies⟩ := h.tallies
  refine ⟨?_, ?_, h.cards_le_discards, h.sublist_dealt, ?_⟩
  · intro player hMem
    rw [hTallies.players, List.mem_map] at hMem
    obtain ⟨id, -, rfl⟩ := hMem
    refine ⟨rfl, rfl, fun hBelow => ?_⟩
    have hScore : (Player.standing id (roundsWon chronicle.won id)).score =
        (roundsWon chronicle.won id).length := Nat.min_eq_left hBelow
    rw [hScore]
    exact Round.length_cardsOf _
  · intro id hWon
    by_contra hUnknown
    refine hWon (hTallies.roundsWon_eq_nil fun hMem => hUnknown ?_)
    rw [hTallies.players]
    exact ⟨_, List.mem_map_of_mem hMem, rfl⟩
  · intro player text score hScored
    exact (move_attempt game player text).find?_of_scored (congrArg Reply.attempted hScored)

end Make24.Game
