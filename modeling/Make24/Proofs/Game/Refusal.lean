import Mathlib
import Make24.Proofs.Game.Coherence

/-! What fails leaves no trace. A refused command changes and says nothing, a failed attempt only
tells the observers, and a deal that the deck cannot fill only ends the game. All of this holds of
the whole game, with its generator, its registrations and its records. -/

namespace Make24

/-- Whether a command was refused. -/
def Reply.isRefusal : Reply → Bool
  | .started (.error _) | .attempted (.error _) | .skipped (.error _) => true
  | _ => false

namespace Game

variable {game : Game} {chronicle : Chronicle} {command : Command} {step : Step Reply}

theorem Move.eq_of_isRefusal (move : Move game command step)
    (hRefusal : step.result.isRefusal = true) : step.game = game ∧ step.signals = [] := by
  cases move with
  | startRefused | attemptRefused | skipRefused => exact ⟨rfl, rfl⟩
  | _ => simp [Reply.isRefusal] at hRefusal

theorem Coherent.round?_eq_none (h : Coherent game chronicle) {refusal : Refusal}
    (hRound : game.roundInPlay = .error refusal) : game.round? = none := by
  cases hInPlay : game.round? with
  | none => rfl
  | some round =>
      have hPhase : game.phase = .active := h.active_iff.mpr (by simp [hInPlay])
      rw [roundInPlay_eq_ok_iff.mpr ⟨hPhase, hInPlay⟩] at hRound
      cases hRound

/-- A start is refused outside the first phase, and an action when no round is in play; nothing else
is ever refused. -/
theorem Coherent.isRefusal_iff (h : Coherent game chronicle) (move : Move game command step) :
    step.result.isRefusal = true ↔
      (command = .start ∧ game.phase ≠ .notStarted) ∨
        ((∃ player text, command = .attempt player text) ∨ ∃ player, command = .skip player)
          ∧ game.round? = none := by
  cases move with
  | startRefused hPhase => simp [Reply.isRefusal, hPhase]
  | started hPhase hDealt => simp [Reply.isRefusal, hPhase]
  | attemptRefused hRound | skipRefused hRound =>
      simp [Reply.isRefusal, h.round?_eq_none hRound]
  | invalid hRound | incorrect hRound | won hRound | skipped hRound =>
      simp [Reply.isRefusal, (roundInPlay_eq_ok_iff.mp hRound).2]
  | _ => simp [Reply.isRefusal]

theorem Dealing.game_eq_of_short {dealt : Step Bool} (hDealt : Dealing game dealt)
    (short : game.deck.length < 4) :
    dealt.game = { game with phase := .finished, round? := none } := by
  cases hDealt with
  | dealt enough => exact absurd enough (Nat.not_le_of_lt short)
  | exhausted => rfl

theorem Move.game_eq_of_invalid {player text : String} {rejection : Rejection}
    (move : Move game (.attempt player text) step)
    (hResult : step.result = .attempted (.ok (.invalid rejection))) :
    step.game = game ∧ step.events = [.attemptInvalid player text] := by
  cases move with
  | attemptRefused | incorrect | won => cases hResult
  | invalid => exact ⟨rfl, rfl⟩

theorem Move.game_eq_of_incorrect {player text : String} {value : Float}
    (move : Move game (.attempt player text) step)
    (hResult : step.result = .attempted (.ok (.incorrect value))) :
    step.game = game ∧ step.events = [.attemptIncorrect player text value] := by
  cases move with
  | attemptRefused | invalid | won => cases hResult
  | incorrect =>
      cases hResult
      exact ⟨rfl, rfl⟩

theorem Move.game_eq_of_scored {player text : String} {score : Nat}
    (move : Move game (.attempt player text) step)
    (hResult : step.result = .attempted (.ok (.scored score)))
    (short : game.deck.length < 4) :
    ∃ round, game.round? = some round ∧
      step.game = { game with
        phase := .finished
        round? := none
        roster := (game.roster.award player round).2 } := by
  cases move with
  | attemptRefused | invalid | incorrect => cases hResult
  | won hRound hText hValue hAward hDealt =>
      obtain rfl := congrArg Prod.snd hAward
      exact ⟨_, (roundInPlay_eq_ok_iff.mp hRound).2, hDealt.game_eq_of_short short⟩

theorem Move.game_eq_of_skipped {player : String} {next : Option Round}
    (move : Move game (.skip player) step) (hResult : step.result = .skipped (.ok next))
    (short : game.deck.length < 4) :
    next = none ∧ step.game = { game with phase := .finished, round? := none } := by
  cases move with
  | skipRefused => cases hResult
  | skipped hRound hDealt =>
      have hGame := hDealt.game_eq_of_short short
      cases hResult
      exact ⟨by rw [hGame], hGame⟩

/-- After any commands:

* a command is refused exactly if it is a start outside the first phase or an action without a round
  in play, and then the game stays as it is, and nothing is logged or told to the observers;
* an attempt that is invalid or incorrect also leaves the game as it is, and tells the observers
  just that, with the player, the text and the value;
* a deal that finds fewer than four cards ends the game and takes the round out of play, and changes
  nothing else; a skip then changes no more than that, and a scored attempt only the records. -/
theorem failures_keep_game_after (options : Options) (seed : UInt64) (commands : List Command) :
    let game := (new options seed).after commands
    (∀ command,
      ((game.perform command).result.isRefusal = true ↔
        (command = .start ∧ game.phase ≠ .notStarted) ∨
          ((∃ player text, command = .attempt player text) ∨ ∃ player, command = .skip player)
            ∧ game.round? = none) ∧
      ((game.perform command).result.isRefusal = true →
        (game.perform command).game = game ∧ (game.perform command).signals = [])) ∧
      (∀ player text,
        (∀ rejection, (game.attempt player text).result = .ok (.invalid rejection) →
          (game.attempt player text).game = game ∧
            (game.attempt player text).events = [.attemptInvalid player text]) ∧
        ∀ value, (game.attempt player text).result = .ok (.incorrect value) →
          (game.attempt player text).game = game ∧
            (game.attempt player text).events = [.attemptIncorrect player text value]) ∧
      (game.deck.length < 4 →
        game.deal.game = { game with phase := .finished, round? := none } ∧
          (∀ player next, (game.skip player).result = .ok next → next = none ∧
            (game.skip player).game = { game with phase := .finished, round? := none }) ∧
          ∀ player text score, (game.attempt player text).result = .ok (.scored score) →
            ∃ round, game.round? = some round ∧ (game.attempt player text).game = { game with
              phase := .finished
              round? := none
              roster := (game.roster.award player round).2 }) := by
  intro game
  have h := coherent_after options seed commands
  refine ⟨?_, ?_, fun short => ⟨(dealing_deal game).game_eq_of_short short, ?_, ?_⟩⟩
  · intro command
    have move := move_perform game command
    exact ⟨h.isRefusal_iff move, move.eq_of_isRefusal⟩
  · intro player text
    have move := move_attempt game player text
    exact ⟨fun rejection hResult => move.game_eq_of_invalid (congrArg Reply.attempted hResult),
      fun value hResult => move.game_eq_of_incorrect (congrArg Reply.attempted hResult)⟩
  · intro player next hResult
    have move := move_perform game (.skip player)
    exact move.game_eq_of_skipped (congrArg Reply.skipped hResult) short
  · intro player text score hResult
    have move := move_attempt game player text
    exact move.game_eq_of_scored (congrArg Reply.attempted hResult) short

end Game

end Make24
