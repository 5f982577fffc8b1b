import Mathlib
import Make24.Proofs.Game.Chronicle
import Make24.Proofs.Game.Tally

/-! What the parts of a game have to do with each other and with its chronicle. The phase, the round
in play, the piles and the records are changed one by one, and agree after every command. -/

namespace Make24.Game

/-- The discards are the cards of the rounds dealt, and the records are those of the rounds won,
which are some of the rounds dealt. This holds also in the middle of a command. -/
structure Accounted (game : Game) (chronicle : Chronicle) : Prop where
  discards : game.discards = Round.cardsOf chronicle.dealt
  awarded : (chronicle.won.map Prod.snd).Sublist chronicle.dealt
  tallies : ∃ ids, game.roster.Tallies chronicle.won ids

/-- The round in play is the last one dealt and was not won yet, and its cards are not in the deck
unless the deck was replaced. -/
structure Coherent (game : Game) (chronicle : Chronicle) : Prop
    extends Accounted game chronicle where
  active_iff : game.phase = .active ↔ game.round?.isSome
  notStarted : game.phase = .notStarted → chronicle.dealt = []
  pending : ∀ round, game.round? = some round → ∃ earlier, chronicle.dealt = earlier ++ [round] ∧
    (chronicle.won.map Prod.snd).Sublist earlier
  absent : ∀ round, game.round? = some round → chronicle.replacedInPlay = false →
    ∀ card ∈ game.deck, card ∉ round.cards.toList

theorem coherent_new (options : Options) (seed : UInt64) : Coherent (.new options seed) {} where
  discards := rfl
  awarded := List.Sublist.refl _
  tallies := ⟨[], .empty⟩
  active_iff := by simp [new]
  notStarted _ := rfl
  pending := by simp [new]
  absent := by simp [new]

/-- A deal makes a game coherent whatever round was in play before. -/
theorem Accounted.dealing {game : Game} {chronicle : Chronicle} {dealt : Step Bool}
    (h : Accounted game chronicle) (hDealt : Dealing game dealt) :
    Coherent dealt.game (chronicle.deal dealt.dealt) := by
  cases hDealt with
  | @dealt round generator enough hPick hCards =>
      change Coherent _ (chronicle.deal [round])
      exact {
        discards := by simp [Chronicle.deal, h.discards]
        awarded := h.awarded.trans (List.sublist_append_left _ _)
        tallies := h.tallies
        active_iff := by simp
        notStarted := by simp
        pending := by
          rintro _ ⟨⟩
          exact ⟨chronicle.dealt, rfl, h.awarded⟩
        absent := by
          rintro _ ⟨⟩ - card hMem
          exact Round.not_mem_removeFrom hMem }
  | exhausted short =>
      change Coherent _ (chronicle.deal [])
      rw [Chronicle.deal_nil]
      exact { h with
        active_iff := by simp
        notStarted := by simp
        pending := by simp
        absent := by simp }

/-- Every command keeps a game coherent with its chronicle. -/
theorem Coherent.advance {game game' : Game} {chronicle chronicle' : Chronicle}
    (h : Coherent game chronicle) (advance : Advance game chronicle game' chronicle') :
    Coherent game' chronicle' := by
  obtain ⟨ids, hTallies⟩ := h.tallies
  cases advance with
  | quiet observers => exact { h with }
  | registered player => exact { h with tallies := hTallies.register player }
  | replaced cards => exact { h with absent := by simp }
  | started hPhase hDealt =>
      have hAccounted : Accounted { game with deck := game.options.deck }
          { chronicle with deckReplaced := false } := { h.toAccounted with }
      exact hAccounted.dealing hDealt
  | restarted hDealt =>
      refine Accounted.dealing ?_ hDealt
      exact ⟨rfl, .refl _, ids, hTallies.reset⟩
  | @won player round hPhase hRound dealt hDealt =>
      -- The round won was dealt after all that were won before, so it is none of them.
      obtain ⟨earlier, hEarlier, hWon⟩ := h.pending round hRound
      refine Accounted.dealing ?_ hDealt
      refine ⟨h.discards, ?_, hTallies.award player round⟩
      rw [List.map_append, hEarlier]
      exact hWon.append_right [round]
  | skipped hPhase hDealt => exact h.toAccounted.dealing hDealt

theorem coherent_after (options : Options) (seed : UInt64) (commands : List Command) :
    Coherent ((new options seed).after commands) ((new options seed).chronicle commands) :=
  after_along Coherent.advance commands (coherent_new options seed)

/-- Whatever answers as the round in play does succeeds exactly when there is one, and is refused
otherwise for the reason that the phase gives. -/
theorem Coherent.answers {game : Game} {chronicle : Chronicle} {α : Type}
    {result : Except Refusal α} (h : Coherent game chronicle)
    (hResult : ∀ refusal, result = .error refusal ↔ game.roundInPlay = .error refusal) :
    ((∃ value, result = .ok value) ↔ game.round?.isSome) ∧
      (result = .error .finished ↔ game.phase = .finished) ∧
      (result = .error .notStarted ↔ game.phase = .notStarted) := by
  have hActive := h.active_iff
  rw [hResult, hResult]
  have hOk : (∃ value, result = .ok value) ↔ ∃ round, game.roundInPlay = .ok round := by
    cases result with
    | ok value =>
        cases hRound : game.roundInPlay with
        | ok round => simp
        | error refusal =>
            have hError := (hResult refusal).mpr hRound
            cases hError
    | error refusal => simp [(hResult refusal).mp rfl]
  rw [hOk]
  unfold roundInPlay
  cases hPhase : game.phase <;> cases hRound : game.round? <;> simp [hPhase, hRound] at hActive ⊢

/-- After any commands, and whatever cards the deck was replaced by:

* the phase is active exactly if a round is in play;
* before the start there are no discards and nobody has points;
* the round in play is the last one dealt, its cards are the last four discards in the order dealt,
  and no card left in the deck equals one of them unless the deck was replaced since;
* there are four discards for each round dealt since the game was made or last restarted, and
  until the next restart discards are only added at the end;
* an attempt and a skip succeed exactly if a round is in play, are refused for the end exactly when
  the game is finished, and for the start exactly if the game was never started nor restarted. -/
theorem parts_agree_after (options : Options) (seed : UInt64) (commands : List Command) :
    let game := (new options seed).after commands
    let chronicle := (new options seed).chronicle commands
    (game.phase = .active ↔ game.round?.isSome) ∧
      (game.phase = .notStarted →
        game.discards = [] ∧ ∀ player ∈ game.roster.players, player.score = 0) ∧
      (∀ round, game.round? = some round →
        round.cards.toList <:+ game.discards ∧ chronicle.dealt.getLast? = some round ∧
          (chronicle.replacedInPlay = false → ∀ card ∈ game.deck, card ∉ round.cards.toList)) ∧
      game.discards.length = 4 * chronicle.dealt.length ∧
      (∀ later, .restart ∉ later → game.discards <+: (game.after later).discards) ∧
      ∀ player text,
        (((∃ outcome, (game.attempt player text).result = .ok outcome) ↔ game.round?.isSome) ∧
          ((game.attempt player text).result = .error .finished ↔ game.phase = .finished) ∧
          ((game.attempt player text).result = .error .notStarted ↔
            .start ∉ commands ∧ .restart ∉ commands)) ∧
        ((∃ next, (game.skip player).result = .ok next) ↔ game.round?.isSome) ∧
          ((game.skip player).result = .error .finished ↔ game.phase = .finished) ∧
          ((game.skip player).result = .error .notStarted ↔
            .start ∉ commands ∧ .restart ∉ commands) := by
  intro game chronicle
  have h : Coherent game chronicle := coherent_after options seed commands
  have hNotStarted : game.phase = .notStarted ↔ .start ∉ commands ∧ .restart ∉ commands := by
    rw [after_phase_eq_notStarted_iff]
    exact and_iff_right rfl
  refine ⟨h.active_iff, ?_, ?_, ?_, fun later hLater => prefix_discards_after hLater, ?_⟩
  · intro hPhase
    have hDealt := h.notStarted hPhase
    have hWon : chronicle.won = [] := by
      simpa [hDealt] using h.awarded
    obtain ⟨ids, hTallies⟩ := h.tallies
    refine ⟨by rw [h.discards, hDealt]; rfl, ?_⟩
    simp [hTallies.players, hWon, roundsWon, Player.standing]
  · intro round hRound
    obtain ⟨earlier, hDealt, -⟩ := h.pending round hRound
    refine ⟨?_, by simp [hDealt], h.absent round hRound⟩
    rw [h.discards, hDealt, Round.cardsOf_append, Round.cardsOf_singleton]
    exact List.suffix_append _ _
  · rw [h.discards, Round.length_cardsOf]
  · intro player text
    rw [← hNotStarted]
    exact ⟨h.answers fun refusal => attempt_eq_error_iff,
      h.answers fun refusal => skip_eq_error_iff⟩

end Make24.Game
