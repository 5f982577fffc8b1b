import Mathlib
import Make24.Proofs.Game.Scores

/-! What a restart leaves of the session before it. A restarted game is one that was just made and
started, but for the generator, which goes on from where it is, the observers, and the ids of the
players. -/

namespace Make24.Game

/-- A game that was just made, with the options, the observers and the generator of another one and
with its players, who have no points and no cards. -/
def renewed (game : Game) (seed : UInt64) : Game :=
  { new game.options seed with
    roster := ⟨game.roster.players.map fun player => { id := player.id, score := 0, cards := [] }⟩
    observers := game.observers
    generator := game.generator }

/-- Where the deck fills a round, a deal does not depend on the phase or on the round before it. -/
theorem deal_with_session (game : Game) (enough : Round.size ≤ game.deck.length) (phase : Phase)
    (round? : Option Round) : deal { game with phase, round? } = deal game := by
  simp only [deal, dif_pos enough]

theorem start_renewed (game : Game) (seed : UInt64) :
    (game.renewed seed).start = ⟨.ok (), (game.renewed seed).deal.game,
      (game.renewed seed).deal.signals⟩ :=
  rfl

/-- A restart says what the start of the renewed game says, between the record that it begins and
the event that the players were reset. -/
theorem restart_eq (game : Game) (seed : UInt64) :
    game.restart = ⟨(), (game.renewed seed).start.game,
      .record (.restarting game.roster.players.length) :: (game.renewed seed).start.signals
        ++ [.event (.playersReset (game.renewed seed).roster.players)]⟩ := by
  have enough : Round.size ≤ (game.renewed seed).deck.length :=
    Nat.le_of_not_lt (not_short_deck game.options)
  -- The games that deal differ in the phase alone, and the deck was just built in both.
  have hDeal : deal { game with
      deck := game.options.deck
      discards := []
      round? := none
      roster := game.roster.reset } = (game.renewed seed).deal :=
    (game.renewed seed).deal_with_session enough game.phase none
  have hRoster : (game.renewed seed).deal.game.roster = (game.renewed seed).roster :=
    (dealing_deal _).roster_eq
  rw [restart, hDeal, hRoster, start_renewed]

theorem phase_start_renewed (game : Game) (seed : UInt64) :
    (game.renewed seed).start.game.phase = .active := by
  have hDealt := dealing_deal (game.renewed seed)
  rw [start_renewed]
  generalize (game.renewed seed).deal = dealt at hDealt
  cases hDealt with
  | dealt => rfl
  | exhausted short => exact absurd short (not_short_deck game.options)

theorem start_of_phase_ne {game : Game} (hPhase : game.phase ≠ .notStarted) :
    game.start = ⟨.error .alreadyStarted, game, []⟩ := by
  unfold start
  cases hGame : game.phase with
  | notStarted => exact absurd hGame hPhase
  | active | finished => rfl

/-- For any game, in whatever phase it is, whatever its players have won and whatever its deck was
replaced by, compare a restart of it with a start of a game that was just made with the same
options, but has its generator, its observers and, without points and cards, its players:

* both lead to the same game, and the start succeeds and deals a round;
* the events of the restart are those of the start and then one that all players, now without points
  and cards, were reset; its log is that of the start after a record of its own;
* a start that comes after the restart, however much later, is refused; it changes nothing and says
  nothing. -/
theorem restart_leaves_no_residue (game : Game) (seed : UInt64) :
    let players := game.roster.players.map fun player =>
      { id := player.id, score := 0, cards := [] }
    let fresh : Game := { new game.options seed with
      roster := ⟨players⟩
      observers := game.observers
      generator := game.generator }
    (game.restart.game = fresh.start.game ∧ fresh.start.result = .ok () ∧
        fresh.start.game.phase = .active) ∧
      (game.restart.events = fresh.start.events ++ [.playersReset players] ∧
        game.restart.records = .restarting players.length :: fresh.start.records) ∧
      ∀ later, (game.restart.game.after later).start =
        ⟨.error .alreadyStarted, game.restart.game.after later, []⟩ := by
  intro players fresh
  have hRestart : game.restart = ⟨(), fresh.start.game,
      .record (.restarting game.roster.players.length) :: fresh.start.signals
        ++ [.event (.playersReset players)]⟩ := game.restart_eq seed
  have hActive : fresh.start.game.phase = .active := game.phase_start_renewed seed
  refine ⟨⟨congrArg Step.game hRestart, rfl, hActive⟩, ⟨?_, ?_⟩, fun later => ?_⟩
  · rw [hRestart, Step.events, List.filterMap_append]
    rfl
  · rw [hRestart, Step.records, List.filterMap_append, List.length_map]
    exact List.append_nil _
  · refine start_of_phase_ne ?_
    rw [Ne, after_phase_eq_notStarted_iff, hRestart]
    simp [hActive]

end Make24.Game
