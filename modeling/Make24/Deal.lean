import Make24.Deck
import Make24.Round
import Make24.Random.Generator
import Make24.Random.Positions

/-! Dealing a round off a deck. -/

namespace Make24

namespace Round

/-- The round of the cards at four positions of a deck. -/
def ofPositions (deck : List Card) (positions : Vector (Fin deck.length) Round.size) : Round :=
  ⟨positions.map deck.get⟩

/-- The round that the words at a position pick out of a deck, and the position after them. -/
def pick (words : Words) (position : Nat) (deck : List Card) (enough : Round.size ≤ deck.length) :
    Round × Nat :=
  let (choices, position) := Choices.ofWords words position deck.length enough
  (ofPositions deck (choices.positions enough), position)

/-- The deck without the cards of a round. Cards leave by what they are and not by where they lie:
a card that a staged deck holds twice leaves with its double. -/
def removeFrom (round : Round) (deck : List Card) : List Card :=
  deck.filter fun card => !round.contains card

end Round

/-- Picks a round out of a deck and goes past the words that it took. -/
def Generator.pickRound (generator : Generator) (deck : List Card)
    (enough : Round.size ≤ deck.length) : Round × Generator :=
  let (round, position) := Round.pick generator.words generator.position deck enough
  (round, { generator with position })

end Make24
