/-! Playing cards. A card is a suit and a number; only the numbers 1 to 13 have a name, but any
number that fits a byte makes a card, because a staged deck may hold such cards. -/

namespace Make24

inductive Suit where
  | hearts
  | diamonds
  | spades
  | clubs
deriving DecidableEq, Repr, Inhabited

/-- The suits in the order in which a deck lists them. -/
def Suit.all : List Suit := [.hearts, .diamonds, .spades, .clubs]

def Suit.glyph : Suit → Char
  | .hearts => '♥'
  | .diamonds => '♦'
  | .spades => '♠'
  | .clubs => '♣'

structure Card where
  suit : Suit
  number : UInt8
deriving DecidableEq, Repr, Inhabited

/-- The name of a card's number: ace, two to ten, jack, queen, king. Other numbers have none
and show a question mark. -/
def Card.symbol (card : Card) : String :=
  match card.number.toNat with
  | 1 => "A"
  | 11 => "J"
  | 12 => "Q"
  | 13 => "K"
  | n => if 2 ≤ n ∧ n ≤ 10 then toString n else "?"

/-- A card as players see it: the symbol and then the suit. -/
def Card.text (card : Card) : String :=
  card.symbol.push card.suit.glyph

end Make24
