/-! Random numbers out of an endless stream of words. Nothing is assumed about the words. -/

namespace Make24

/-- An endless stream of words, by their positions from zero. -/
abbrev Words := Nat → UInt32

namespace Words

/-- The number of values of a word. -/
def wordRange : Nat := 0x100000000

/-- Scales the fraction with the word `x` before the point and the word `y` after it to a range, and
drops what is left after the point. -/
def scale (range x y : Nat) : Nat :=
  (x * range + y * range / wordRange) / wordRange

theorem scale_lt {range x y : Nat} (positive : 0 < range) (hx : x < wordRange)
    (hy : y < wordRange) : scale range x y < range := by
  have low : y * range / wordRange < range := by
    rw [Nat.div_lt_iff_lt_mul (by decide), Nat.mul_comm range]
    exact Nat.mul_lt_mul_of_pos_right hy positive
  have high : x * range + range ≤ wordRange * range := by
    rw [← Nat.succ_mul]
    exact Nat.mul_le_mul_right range hx
  unfold scale
  rw [Nat.div_lt_iff_lt_mul (by decide), Nat.mul_comm range]
  omega

/-- A number below `range` from the words at a position on, and the position after them: a word
scaled to the range. Where the part after the point is so large that a second word could carry
into the result, the second word is taken as well. -/
def below (words : Words) (position range : Nat) (positive : 0 < range) : Fin range × Nat :=
  let x := words position
  if wordRange - range < x.toNat * range % wordRange then
    let y := words (position + 1)
    (⟨scale range x.toNat y.toNat, scale_lt positive x.toNat_lt y.toNat_lt⟩, position + 2)
  else
    (⟨scale range x.toNat 0, scale_lt positive x.toNat_lt (by decide)⟩, position + 1)

end Words

end Make24
