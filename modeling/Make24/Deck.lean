import Make24.Card

/-! The deck that a session is played with. -/

namespace Make24

/-- What may be chosen before a game: whether jack, queen and king take part. -/
structure Options where
  faceCards : Bool := false
deriving DecidableEq, Repr, Inhabited

namespace Deck

/-- Number of cards with the face cards. -/
def sizeWithFaceCards : Nat := 52

/-- Number of cards without the face cards. -/
def sizeWithoutFaceCards : Nat := 40

/-- All cards with numbers from 1 to `highest`, number by number and each in all suits. -/
def upTo (highest : Nat) : List Card :=
  (List.range' 1 highest).flatMap fun number =>
    Suit.all.map fun suit => ⟨suit, number.toUInt8⟩

end Deck

/-- The highest number that the chosen deck holds. -/
def Options.highest (options : Options) : Nat :=
  if options.faceCards then 13 else 10

/-- The full deck in its fixed order; it is never shuffled, the draw picks from it at random. -/
def Options.deck (options : Options) : List Card :=
  Deck.upTo options.highest

/-- The number of cards that the chosen deck starts with. -/
def Options.deckSize (options : Options) : Nat :=
  if options.faceCards then Deck.sizeWithFaceCards else Deck.sizeWithoutFaceCards

theorem Options.length_deck (options : Options) : options.deck.length = options.deckSize := by
  cases options with
  | mk faceCards => cases faceCards <;> decide

theorem Options.nodup_deck (options : Options) : options.deck.Nodup := by
  cases options with
  | mk faceCards => cases faceCards <;> decide +kernel

end Make24
