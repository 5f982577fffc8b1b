import Make24.Deal
import Make24.LogRecord
import Make24.Observers

/-! A game: the cards left to deal, the cards dealt, the round in play, the players and the
observers. An operation gives back the next game together with all it had to say on the way. -/

namespace Make24

/-- Where a session stands. -/
inductive Phase where
  | notStarted
  /-- A round is in play. -/
  | active
  | finished
deriving DecidableEq, Repr

structure Game where
  options : Options
  phase : Phase
  /-- The cards that can still be dealt. -/
  deck : List Card
  /-- All cards dealt in this session, in order; those of the round in play are the last four. -/
  discards : List Card
  /-- The round in play. -/
  round? : Option Round
  roster : Roster
  observers : Observers
  generator : Generator

/-- Why an operation is refused. -/
inductive Refusal where
  | alreadyStarted
  | notStarted
  | finished
deriving DecidableEq, Repr

def Refusal.message : Refusal → String
  | alreadyStarted => "game has already been started"
  | notStarted => "game has not been started"
  | finished => "game is finished"

/-- Something that a game says: a record to the log or an event to the observers. -/
inductive Signal where
  | record (entry : LogRecord)
  | event (notice : Event)

def Signal.record? : Signal → Option LogRecord
  | .record entry => some entry
  | .event _ => none

def Signal.event? : Signal → Option Event
  | .record _ => none
  | .event notice => some notice

/-- What an operation leads to: its result, the next game, and what was said, in order. -/
structure Step (α : Type) where
  result : α
  game : Game
  signals : List Signal

namespace Step

variable {α : Type}

def events (step : Step α) : List Event := step.signals.filterMap Signal.event?

def records (step : Step α) : List LogRecord := step.signals.filterMap Signal.record?

/-- The calls of observers that the operation made. No operation that has events changes the
registrations, so those of the next game are the ones to ask. -/
def calls (step : Step α) : List (ListenerId × Event) :=
  step.game.observers.calls step.events

end Step

namespace Game

/-- A game with its deck in place and nothing dealt. -/
def new (options : Options) (seed : UInt64) : Game where
  options := options
  phase := .notStarted
  deck := options.deck
  discards := []
  round? := none
  roster := {}
  observers := .none
  generator := .ofSeed seed

/-- The round in play, or why there is none. -/
def roundInPlay (game : Game) : Except Refusal Round :=
  match game.phase, game.round? with
  | .active, some round => .ok round
  | .finished, _ => .error .finished
  | _, _ => .error .notStarted

/-- An operation that is refused changes and says nothing. -/
def refuse {α : Type} (game : Game) (refusal : Refusal) : Step (Except Refusal α) :=
  ⟨.error refusal, game, []⟩

end Game

end Make24
