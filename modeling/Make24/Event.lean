import Make24.Player

/-! What a game tells its observers. -/

namespace Make24

inductive Event where
  /-- A round was dealt and is now in play. -/
  | roundDealt (round : Round)
  /-- The cards that are left to deal. -/
  | deckChanged (deck : List Card)
  /-- All cards dealt in this session, in order. -/
  | discardsChanged (discards : List Card)
  /-- A player won the round; the record holds the point already. -/
  | pointScored (player : Player)
  /-- An accepted submission did not make the target. -/
  | attemptIncorrect (player text : String) (value : Float)
  /-- A submission was rejected. -/
  | attemptInvalid (player text : String)
  /-- A player gave up on a round; the round is the one dealt instead. -/
  | roundSkipped (player : String) (round : Round)
  /-- All records were reset. -/
  | playersReset (players : List Player)
  /-- The deck cannot fill another round. -/
  | gameFinished

/-- The kinds of events; observers choose one. -/
inductive Event.Kind where
  | roundDealt
  | deckChanged
  | discardsChanged
  | pointScored
  | attemptIncorrect
  | attemptInvalid
  | roundSkipped
  | playersReset
  | gameFinished
deriving DecidableEq, Hashable, Repr

def Event.kind : Event → Event.Kind
  | roundDealt _ => .roundDealt
  | deckChanged _ => .deckChanged
  | discardsChanged _ => .discardsChanged
  | pointScored _ => .pointScored
  | attemptIncorrect .. => .attemptIncorrect
  | attemptInvalid .. => .attemptInvalid
  | roundSkipped .. => .roundSkipped
  | playersReset _ => .playersReset
  | gameFinished => .gameFinished

end Make24
