import Mathlib
import Make24.Proofs.Game.Move

/-! The course of a session, told by what a caller sees of it: the commands, their replies, the
events, and the round in play when a command was given. A chronicle remembers what the state of the
game does not show, such as which rounds were dealt and who won which. -/

namespace Make24

/-- The round that a signal announces to the observers. -/
def Signal.dealt? : Signal → Option Round
  | .event (.roundDealt round) => some round
  | _ => none

/-- The rounds that a step dealt. -/
def Step.dealt {α : Type} (step : Step α) : List Round :=
  step.signals.filterMap Signal.dealt?

structure Chronicle where
  /-- The rounds dealt since the game was made or last restarted, in order. -/
  dealt : List Round := []
  /-- The rounds won since then, in order, each with the player whose attempt scored. -/
  won : List (String × Round) := []
  /-- Whether the deck was replaced after it was last built. -/
  deckReplaced : Bool := false
  /-- Whether the deck was replaced after the last deal. -/
  replacedInPlay : Bool := false

namespace Chronicle

/-- Adds dealt rounds. -/
def deal (chronicle : Chronicle) (rounds : List Round) : Chronicle :=
  { chronicle with
    dealt := chronicle.dealt ++ rounds
    replacedInPlay := chronicle.replacedInPlay && rounds.isEmpty }

/-- Adds what a command brought about apart from a deal; `inPlay` is the round that was in play when
it was given. -/
def enter (chronicle : Chronicle) (inPlay : Option Round) (command : Command) (reply : Reply) :
    Chronicle :=
  match command, reply with
  | .start, .started (.ok _) => { chronicle with deckReplaced := false }
  | .restart, _ => { chronicle with dealt := [], won := [], deckReplaced := false }
  | .attempt player _, .attempted (.ok (.scored _)) =>
      { chronicle with won := chronicle.won ++ inPlay.toList.map fun round => (player, round) }
  | .replaceDeck _, _ => { chronicle with deckReplaced := true, replacedInPlay := true }
  | _, _ => chronicle

/-- Adds a command and the step that it led to. A round that the step deals comes after all else. -/
def note (chronicle : Chronicle) (inPlay : Option Round) (command : Command)
    (step : Step Reply) : Chronicle :=
  (chronicle.enter inPlay command step.result).deal step.dealt

/-- Adds the commands of a run that starts from a game. -/
def along (chronicle : Chronicle) (game : Game) : List Command → Chronicle
  | [] => chronicle
  | command :: rest =>
      let step := game.perform command
      (chronicle.note game.round? command step).along step.game rest

@[simp] theorem deal_nil (chronicle : Chronicle) : chronicle.deal [] = chronicle := by
  simp [deal]

end Chronicle

section Dealt

variable {α : Type} {result : α} {game next : Game} {player : String} {signals : List Signal}

theorem filterMap_dealt?_registrationRecords :
    (game.registrationRecords player).filterMap Signal.dealt? = [] := by
  unfold Game.registrationRecords
  cases game.roster.find? player <;> rfl

theorem Step.dealt_registered :
    Step.dealt ⟨result, next, game.registrationRecords player⟩ = [] :=
  filterMap_dealt?_registrationRecords

theorem Step.dealt_restarted {entry : LogRecord} {players : List Player} :
    Step.dealt ⟨result, next, .record entry :: signals ++ [.event (.playersReset players)]⟩ =
      signals.filterMap Signal.dealt? := by
  simp [Step.dealt, List.filterMap_cons, Signal.dealt?]

theorem Step.dealt_won {entry : LogRecord} {winner : Player} :
    Step.dealt ⟨result, next, game.registrationRecords player
        ++ .record entry :: .event (.pointScored winner) :: signals⟩ =
      signals.filterMap Signal.dealt? := by
  unfold Step.dealt
  rw [List.filterMap_append, filterMap_dealt?_registrationRecords]
  simp [List.filterMap_cons, Signal.dealt?]

/-- The announcement after a skip does not count as another deal. -/
theorem Step.dealt_skipped {entry : LogRecord} {rounds : List Round} :
    Step.dealt ⟨result, next, .record entry :: signals
        ++ rounds.map fun round => .event (.roundSkipped player round)⟩ =
      signals.filterMap Signal.dealt? := by
  simp [Step.dealt, List.filterMap_cons, List.filterMap_map, Function.comp_def, Signal.dealt?]

end Dealt

namespace Game

/-- The chronicle of a run. -/
def chronicle (game : Game) (commands : List Command) : Chronicle :=
  ({} : Chronicle).along game commands

/-- How a game and its chronicle go on. Moves that do not touch the cards or the records come to
the same. -/
inductive Advance (game : Game) (chronicle : Chronicle) : Game → Chronicle → Prop where
  | quiet (observers : Observers) : Advance game chronicle { game with observers } chronicle
  | registered (player : String) :
      Advance game chronicle { game with roster := (game.roster.register player).2 } chronicle
  | replaced (cards : List Card) :
      Advance game chronicle { game with deck := cards }
        { chronicle with deckReplaced := true, replacedInPlay := true }
  | started (hPhase : game.phase = .notStarted) {dealt : Step Bool}
      (hDealt : Dealing { game with deck := game.options.deck } dealt) :
      Advance game chronicle dealt.game
        (Chronicle.deal { chronicle with deckReplaced := false } dealt.dealt)
  | restarted {dealt : Step Bool}
      (hDealt : Dealing { game with
        deck := game.options.deck
        discards := []
        round? := none
        roster := game.roster.reset } dealt) :
      Advance game chronicle dealt.game
        (Chronicle.deal { chronicle with dealt := [], won := [], deckReplaced := false }
          dealt.dealt)
  | won {player : String} {round : Round} (hPhase : game.phase = .active)
      (hRound : game.round? = some round) {dealt : Step Bool}
      (hDealt : Dealing { game with roster := (game.roster.award player round).2 } dealt) :
      Advance game chronicle dealt.game
        (Chronicle.deal { chronicle with won := chronicle.won ++ [(player, round)] } dealt.dealt)
  | skipped (hPhase : game.phase = .active) {dealt : Step Bool} (hDealt : Dealing game dealt) :
      Advance game chronicle dealt.game (chronicle.deal dealt.dealt)

theorem Move.advance {game : Game} {command : Command} {step : Step Reply}
    (move : Move game command step) (chronicle : Chronicle) :
    Advance game chronicle step.game (chronicle.note game.round? command step) := by
  have hQuiet (observers : Observers) :
      Advance game chronicle { game with observers } (chronicle.deal []) :=
    chronicle.deal_nil.symm ▸ .quiet observers
  cases move with
  | startRefused | attemptRefused | skipRefused | invalid | incorrect =>
      exact hQuiet game.observers
  | listening | removed => exact hQuiet _
  | started hPhase hDealt => exact .started hPhase hDealt
  | restarted hDealt =>
      unfold Chronicle.note
      rw [Step.dealt_restarted]
      exact .restarted hDealt
  | won hRound hText hValue hAward hDealt =>
      obtain ⟨hPhase, hRound⟩ := roundInPlay_eq_ok_iff.mp hRound
      obtain rfl := congrArg Prod.snd hAward
      unfold Chronicle.note
      rw [Step.dealt_won, hRound]
      exact .won hPhase hRound hDealt
  | skipped hRound hDealt =>
      unfold Chronicle.note
      rw [Step.dealt_skipped]
      exact .skipped (roundInPlay_eq_ok_iff.mp hRound).1 hDealt
  | registered hRegister =>
      obtain rfl := congrArg Prod.snd hRegister
      unfold Chronicle.note
      rw [Step.dealt_registered, Chronicle.deal_nil]
      exact .registered _
  | replaced =>
      change Advance game chronicle _ (Chronicle.deal _ [])
      rw [Chronicle.deal_nil]
      exact .replaced _

/-- What holds as game and chronicle go on holds at the end of a run. -/
theorem after_along {Inv : Game → Chronicle → Prop}
    (hAdvance : ∀ {game : Game} {chronicle : Chronicle} {game' : Game} {chronicle' : Chronicle},
      Inv game chronicle → Advance game chronicle game' chronicle' → Inv game' chronicle')
    {game : Game} {chronicle : Chronicle} (commands : List Command) (h : Inv game chronicle) :
    Inv (game.after commands) (chronicle.along game commands) := by
  induction commands generalizing game chronicle with
  | nil => exact h
  | cons command rest ih => exact ih (hAdvance h ((move_perform game command).advance chronicle))

end Game

end Make24
