import Make24.Round

/-! The players of a game. -/

namespace Make24

/-- A player with the points and the cards won since the last reset. -/
structure Player where
  id : String
  score : Nat := 0
  cards : List Card := []
deriving DecidableEq, Repr, Inhabited

namespace Player

/-- The score at which counting stops: the greatest number of 32 bits. -/
def scoreLimit : Nat := 0xFFFFFFFF

/-- Gives a point and the cards of the round. -/
def award (player : Player) (round : Round) : Player :=
  { player with
    score := min (player.score + 1) scoreLimit
    cards := player.cards ++ round.cards.toList }

/-- Takes points and cards away; the player stays known. -/
def reset (player : Player) : Player :=
  { player with score := 0, cards := [] }

end Player

/-- The known players in the order in which they became known. -/
structure Roster where
  players : List Player := []
deriving DecidableEq, Repr

namespace Roster

def find? (roster : Roster) (id : String) : Option Player :=
  roster.players.find? fun player => player.id = id

/-- Changes the player with an id in a row of players; an unknown id joins at the end first. -/
def updateIn (id : String) (change : Player → Player) : List Player → Player × List Player
  | [] => let player := change { id }; (player, [player])
  | player :: rest =>
      if player.id = id then
        let changed := change player
        (changed, changed :: rest)
      else
        let (changed, others) := updateIn id change rest
        (changed, player :: others)

/-- Changes the player with an id, who becomes known if needed, and tells the new record. -/
def update (roster : Roster) (id : String) (change : Player → Player) : Player × Roster :=
  let (player, players) := updateIn id change roster.players
  (player, ⟨players⟩)

/-- The record with an id; an unknown id becomes known with no points. -/
def register (roster : Roster) (id : String) : Player × Roster :=
  roster.update id fun player => player

/-- Gives a round to the player with an id. -/
def award (roster : Roster) (id : String) (round : Round) : Player × Roster :=
  roster.update id fun player => player.award round

/-- Resets every player and forgets none. -/
def reset (roster : Roster) : Roster :=
  ⟨roster.players.map Player.reset⟩

end Roster

end Make24
