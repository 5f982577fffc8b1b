import Make24.Card

/-! The four cards in play. -/

namespace Make24

/-- Number of cards in a round. -/
def Round.size : Nat := 4

structure Round where
  cards : Vector Card Round.size
deriving DecidableEq, Repr

namespace Round

/-- The numbers to be used, in the order of the cards. -/
def numbers (round : Round) : Vector UInt8 Round.size :=
  round.cards.map Card.number

def contains (round : Round) (card : Card) : Bool :=
  round.cards.contains card

/-- The four cards with a space between neighbours. -/
def text (round : Round) : String :=
  " ".intercalate (round.cards.toList.map Card.text)

end Round

end Make24
