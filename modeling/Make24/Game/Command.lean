import Make24.Game.Attempt

/-! The operations of a game as data. -/

namespace Make24

inductive Command where
  | start
  | restart
  | attempt (player text : String)
  | skip (player : String)
  | addPlayer (player : String)
  /-- Replaces the cards left to deal; they are not compared with the cards dealt. -/
  | replaceDeck (cards : List Card)
  | on (kind : Event.Kind)
  | off (kind : Event.Kind) (id : ListenerId)

/-- The results of the operations. -/
inductive Reply where
  | started (result : Except Refusal Unit)
  | restarted
  | attempted (result : Except Refusal Outcome)
  | skipped (result : Except Refusal (Option Round))
  | registered (player : Player)
  | replaced
  | listening (id : ListenerId)
  | removed (found : Bool)

/-- The same step with its result in another form. -/
def Step.map {α β : Type} (f : α → β) (step : Step α) : Step β :=
  ⟨f step.result, step.game, step.signals⟩

namespace Game

/-- Puts other cards in the place of the deck. -/
def replaceDeck (game : Game) (cards : List Card) : Game := { game with deck := cards }

/-- Registers an observer for a kind of event. -/
def on (game : Game) (kind : Event.Kind) : Step ListenerId :=
  let (id, observers) := game.observers.on kind
  ⟨id, { game with observers }, []⟩

/-- Removes an observer and tells whether it was registered for the kind. -/
def off (game : Game) (kind : Event.Kind) (id : ListenerId) : Step Bool :=
  let (found, observers) := game.observers.off kind id
  ⟨found, { game with observers }, []⟩

/-- Carries out a command. -/
def perform (game : Game) : Command → Step Reply
  | .start => game.start.map .started
  | .restart => game.restart.map fun _ => .restarted
  | .attempt player text => (game.attempt player text).map .attempted
  | .skip player => (game.skip player).map .skipped
  | .addPlayer player => (game.addPlayer player).map .registered
  | .replaceDeck cards => ⟨.replaced, game.replaceDeck cards, []⟩
  | .on kind => (game.on kind).map .listening
  | .off kind id => (game.off kind id).map .removed

end Game

end Make24
