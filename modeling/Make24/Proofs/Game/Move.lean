import Mathlib
import Make24.Game.Run
import Make24.Proofs.Game.Dealing

/-! What a command leads to. A move lists the ways in which a command can turn out, each with all
that it changes and says, so that what every command keeps is shown by going through the moves. -/

namespace Make24.Game

theorem roundInPlay_eq_ok_iff {game : Game} {round : Round} :
    game.roundInPlay = .ok round ↔ game.phase = .active ∧ game.round? = some round := by
  unfold roundInPlay
  cases game.phase <;> cases game.round? <;> simp

/-- The ways in which a command turns out. Deals are part of four of them: the deck is built for the
first deal of a session, and a round that is won or given up is followed by the next. -/
inductive Move (game : Game) : Command → Step Reply → Prop where
  | startRefused (hPhase : game.phase ≠ .notStarted) :
      Move game .start ⟨.started (.error .alreadyStarted), game, []⟩
  | started (hPhase : game.phase = .notStarted) {dealt : Step Bool}
      (hDealt : Dealing { game with deck := game.options.deck } dealt) :
      Move game .start ⟨.started (.ok ()), dealt.game, dealt.signals⟩
  | restarted {dealt : Step Bool}
      (hDealt : Dealing { game with
        deck := game.options.deck
        discards := []
        round? := none
        roster := game.roster.reset } dealt) :
      Move game .restart ⟨.restarted, dealt.game,
        .record (.restarting game.roster.players.length)
          :: dealt.signals ++ [.event (.playersReset dealt.game.roster.players)]⟩
  | attemptRefused {player text : String} {refusal : Refusal}
      (hRound : game.roundInPlay = .error refusal) :
      Move game (.attempt player text) ⟨.attempted (.error refusal), game, []⟩
  | invalid {player text : String} {round : Round} {rejection : Rejection}
      (hRound : game.roundInPlay = .ok round) (hText : evaluate text round = .error rejection) :
      Move game (.attempt player text) ⟨.attempted (.ok (.invalid rejection)), game,
        [.record (.attemptInvalid player text rejection), .event (.attemptInvalid player text)]⟩
  | incorrect {player text : String} {round : Round} {value : Float}
      (hRound : game.roundInPlay = .ok round) (hText : evaluate text round = .ok value)
      (hValue : isTarget value = false) :
      Move game (.attempt player text) ⟨.attempted (.ok (.incorrect value)), game,
        [.record (.attemptIncorrect player text value),
          .event (.attemptIncorrect player text value)]⟩
  | won {player text : String} {round : Round} {value : Float} {winner : Player}
      {roster : Roster} (hRound : game.roundInPlay = .ok round)
      (hText : evaluate text round = .ok value) (hValue : isTarget value = true)
      (hAward : game.roster.award player round = (winner, roster)) {dealt : Step Bool}
      (hDealt : Dealing { game with roster } dealt) :
      Move game (.attempt player text) ⟨.attempted (.ok (.scored winner.score)), dealt.game,
        game.registrationRecords player
          ++ .record (.pointScored player winner.score round)
          :: .event (.pointScored winner) :: dealt.signals⟩
  | skipRefused {player : String} {refusal : Refusal}
      (hRound : game.roundInPlay = .error refusal) :
      Move game (.skip player) ⟨.skipped (.error refusal), game, []⟩
  | skipped {player : String} {round : Round} (hRound : game.roundInPlay = .ok round)
      {dealt : Step Bool} (hDealt : Dealing game dealt) :
      Move game (.skip player) ⟨.skipped (.ok dealt.game.round?), dealt.game,
        .record (.roundSkipped player round) :: dealt.signals
          ++ dealt.game.round?.toList.map fun next => .event (.roundSkipped player next)⟩
  | registered {player : String} {registered : Player} {roster : Roster}
      (hRegister : game.roster.register player = (registered, roster)) :
      Move game (.addPlayer player)
        ⟨.registered registered, { game with roster }, game.registrationRecords player⟩
  | replaced {cards : List Card} :
      Move game (.replaceDeck cards) ⟨.replaced, { game with deck := cards }, []⟩
  | listening {kind : Event.Kind} {id : ListenerId} {observers : Observers}
      (hOn : game.observers.on kind = (id, observers)) :
      Move game (.on kind) ⟨.listening id, { game with observers }, []⟩
  | removed {kind : Event.Kind} {id : ListenerId} {found : Bool} {observers : Observers}
      (hOff : game.observers.off kind id = (found, observers)) :
      Move game (.off kind id) ⟨.removed found, { game with observers }, []⟩

theorem move_attempt (game : Game) (player text : String) :
    Move game (.attempt player text) ((game.attempt player text).map .attempted) := by
  unfold attempt
  cases hRound : game.roundInPlay with
  | error refusal => exact .attemptRefused hRound
  | ok round =>
      dsimp only
      cases hText : evaluate text round with
      | error rejection => exact .invalid hRound hText
      | ok value =>
          dsimp only
          cases hValue : isTarget value with
          | false => exact .incorrect hRound hText hValue
          | true => exact .won hRound hText hValue rfl (dealing_deal _)

theorem move_perform (game : Game) (command : Command) :
    Move game command (game.perform command) := by
  cases command with
  | start =>
      unfold perform start
      cases hPhase : game.phase with
      | notStarted => exact .started hPhase (dealing_deal _)
      | active => exact .startRefused (by simp [hPhase])
      | finished => exact .startRefused (by simp [hPhase])
  | restart => exact .restarted (dealing_deal _)
  | attempt player text => exact move_attempt game player text
  | skip player =>
      unfold perform skip
      cases hRound : game.roundInPlay with
      | error refusal => exact .skipRefused hRound
      | ok round => exact .skipped hRound (dealing_deal _)
  | addPlayer player => exact .registered rfl
  | replaceDeck cards => exact .replaced
  | on kind => exact .listening rfl
  | off kind id => exact .removed rfl

section Refusals

variable {game : Game} {player text : String} {refusal : Refusal}

/-- An attempt is refused as the round in play is. -/
theorem attempt_eq_error_iff :
    (game.attempt player text).result = .error refusal ↔ game.roundInPlay = .error refusal := by
  unfold attempt
  cases game.roundInPlay with
  | error other => simp [refuse]
  | ok round =>
      dsimp only
      cases evaluate text round with
      | error rejection => simp
      | ok value => cases hValue : isTarget value <;> simp [hValue]

/-- So is giving up. -/
theorem skip_eq_error_iff :
    (game.skip player).result = .error refusal ↔ game.roundInPlay = .error refusal := by
  unfold skip
  cases game.roundInPlay with
  | error other => simp [refuse]
  | ok round => simp

end Refusals

section Runs

variable {game : Game} {command : Command} {step : Step Reply} {dealt : Step Bool}

theorem Dealing.phase_ne_notStarted (hDealt : Dealing game dealt) :
    dealt.game.phase ≠ .notStarted := by
  cases hDealt <;> simp

theorem Dealing.prefix_discards (hDealt : Dealing game dealt) :
    game.discards <+: dealt.game.discards := by
  cases hDealt with
  | dealt => exact List.prefix_append _ _
  | exhausted => exact List.prefix_refl _

/-- Starting and restarting are the only ways out of the first phase, and no command leads back. -/
theorem Move.phase_eq_notStarted_iff (move : Move game command step) :
    step.game.phase = .notStarted ↔
      game.phase = .notStarted ∧ command ≠ .start ∧ command ≠ .restart := by
  cases move with
  | startRefused hPhase => simp [hPhase]
  | started hPhase hDealt => simp [hDealt.phase_ne_notStarted]
  | restarted hDealt => simp [hDealt.phase_ne_notStarted]
  | won hRound hText hValue hAward hDealt =>
      simp [hDealt.phase_ne_notStarted, (roundInPlay_eq_ok_iff.mp hRound).1]
  | skipped hRound hDealt =>
      simp [hDealt.phase_ne_notStarted, (roundInPlay_eq_ok_iff.mp hRound).1]
  | _ => simp

theorem after_phase_eq_notStarted_iff (commands : List Command) :
    (game.after commands).phase = .notStarted ↔
      game.phase = .notStarted ∧ .start ∉ commands ∧ .restart ∉ commands := by
  induction commands generalizing game with
  | nil => simp [after]
  | cons command rest ih =>
      have hFirst := (move_perform game command).phase_eq_notStarted_iff
      have hRest := @ih (game.perform command).game
      rw [hFirst] at hRest
      simp only [List.mem_cons, not_or, ne_comm (a := Command.start)]
      exact hRest.trans (by tauto)

/-- Only a restart takes cards off the discards. -/
theorem Move.prefix_discards (move : Move game command step) (hCommand : command ≠ .restart) :
    game.discards <+: step.game.discards := by
  cases move with
  | restarted => exact absurd rfl hCommand
  | started hPhase hDealt => exact hDealt.prefix_discards
  | won hRound hText hValue hAward hDealt => exact hDealt.prefix_discards
  | skipped hRound hDealt => exact hDealt.prefix_discards
  | _ => exact List.prefix_refl _

theorem prefix_discards_after {commands : List Command} (hCommands : .restart ∉ commands) :
    game.discards <+: (game.after commands).discards := by
  induction commands generalizing game with
  | nil => exact List.prefix_refl _
  | cons command rest ih =>
      rw [List.mem_cons, not_or] at hCommands
      have hFirst := (move_perform game command).prefix_discards (Ne.symm hCommands.1)
      exact hFirst.trans (ih hCommands.2)

end Runs

end Make24.Game
