import Make24.Player
import Make24.Submission.Rejection

/-! What a game writes to its log. A record is stored as what happened; its level, message and
fields are read off it. -/

namespace Make24

inductive LogRecord where
  | restarting (players : Nat)
  | roundDealt (round : Round) (remaining : Nat)
  | deckExhausted (remaining discarded : Nat)
  | attemptInvalid (player text : String) (rejection : Rejection)
  | attemptIncorrect (player text : String) (value : Float)
  | pointScored (player : String) (score : Nat) (round : Round)
  /-- The round is the one given up. -/
  | roundSkipped (player : String) (round : Round)
  | alreadyRegistered (player : String)

namespace LogRecord

inductive Level where
  | debug
  | info
deriving DecidableEq, Repr

inductive Field where
  | count (number : Nat)
  | real (value : Float)
  | text (text : String)

def level : LogRecord → Level
  | restarting .. | deckExhausted .. | pointScored .. => .info
  | _ => .debug

def message : LogRecord → String
  | restarting .. => "restarting game"
  | roundDealt .. => "round drawn"
  | deckExhausted .. => "deck exhausted, game finished"
  | attemptInvalid .. => "invalid attempt"
  | attemptIncorrect .. => "incorrect attempt"
  | pointScored .. => "point scored"
  | roundSkipped .. => "round skipped"
  | alreadyRegistered .. => "player already registered"

/-- The named details of a record. -/
def fields : LogRecord → List (String × Field)
  | restarting players => [("players", .count players)]
  | roundDealt round remaining => [("round", .text round.text), ("remaining", .count remaining)]
  | deckExhausted remaining discarded =>
      [("remaining", .count remaining), ("discarded", .count discarded)]
  | attemptInvalid player text rejection =>
      [("player", .text player), ("expr", .text text), ("error", .text rejection.message)]
  | attemptIncorrect player text value =>
      [("player", .text player), ("expr", .text text), ("value", .real value)]
  | pointScored player score round =>
      [("player", .text player), ("score", .count score), ("round", .text round.text)]
  | roundSkipped player round => [("player", .text player), ("round", .text round.text)]
  | alreadyRegistered player => [("player", .text player)]

end LogRecord

end Make24
