import Make24.Random.Words

/-! Four different positions out of a row of cards, in random order. The k-th choice is a number
below the size less four plus k. A choice that was already made stands for the last position that
it could have been: the earlier occurrence gives way to that position and the choice is appended.
-/

namespace Make24

/-- The raw choices for a row of `size` cards. -/
structure Choices (size : Nat) where
  first : Fin (size - 3)
  second : Fin (size - 2)
  third : Fin (size - 1)
  fourth : Fin size
deriving DecidableEq

namespace Choices

variable {size : Nat}

/-- Adds a choice to the positions chosen before. `last` is the greatest position that the choice
could have been. -/
def place {count : Nat} (chosen : Vector (Fin size) count) (last choice : Fin size) :
    Vector (Fin size) (count + 1) :=
  (chosen.map fun position => if position = choice then last else position).push choice

/-- The positions that the choices stand for, in the order in which the cards are dealt. -/
def positions (choices : Choices size) (enough : 4 ≤ size) : Vector (Fin size) 4 :=
  let one := place #v[] ⟨size - 4, by omega⟩ (choices.first.castLE (by omega))
  let two := place one ⟨size - 3, by omega⟩ (choices.second.castLE (by omega))
  let three := place two ⟨size - 2, by omega⟩ (choices.third.castLE (by omega))
  place three ⟨size - 1, by omega⟩ choices.fourth

/-- The choices that the words at a position make, and the position after them. -/
def ofWords (words : Words) (position size : Nat) (enough : 4 ≤ size) : Choices size × Nat :=
  let (first, position) := words.below position (size - 3) (by omega)
  let (second, position) := words.below position (size - 2) (by omega)
  let (third, position) := words.below position (size - 1) (by omega)
  let (fourth, position) := words.below position size (by omega)
  (⟨first, second, third, fourth⟩, position)

end Choices

end Make24
