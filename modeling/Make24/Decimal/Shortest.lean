/-! The shortest decimal that reads back as a given floating-point number. A decimal reads back as
the floating-point number nearest to it, so the one to find lies on the coarsest decimal grid that
has a point in the neighbourhood of the number. All comparisons are exact, on whole numbers. -/

namespace Make24

/-- The number `coefficient * 10 ^ exponent`. -/
structure Decimal where
  coefficient : Nat
  exponent : Int
deriving DecidableEq, Repr

namespace Decimal

/-- A positive number as a fraction, with the interval of the numbers that read back as it. -/
structure Neighbourhood where
  /-- The common denominator of the three. -/
  denominator : Nat
  lower : Nat
  value : Nat
  upper : Nat
  /-- Whether the ends read back as well. -/
  closed : Bool
deriving DecidableEq, Repr

/-- The neighbourhood of `mantissa * 2 ^ exponent`. It reaches half way to the next number on either
side; the next number below a power of two, the least one apart, is only half as far away. The ends
belong to it when the mantissa is even. -/
def Neighbourhood.ofBinary (mantissa : Nat) (exponent : Int) (narrowBelow : Bool) :
    Neighbourhood :=
  let unit := 1 <<< (exponent - 2).toNat
  { denominator := 1 <<< (2 - exponent).toNat
    lower := (4 * mantissa - if narrowBelow then 1 else 2) * unit
    value := 4 * mantissa * unit
    upper := (4 * mantissa + 2) * unit
    closed := mantissa % 2 == 0 }

/-- The number of values of the fraction bits. -/
def fractionRange : Nat := 1 <<< 52

/-- The neighbourhood of a positive finite floating-point number, from its bits without the sign. -/
def Neighbourhood.ofBits (bits : Nat) : Neighbourhood :=
  let fraction := bits % fractionRange
  let biased := bits / fractionRange
  if biased = 0 then .ofBinary fraction (-1074) false
  else .ofBinary (fraction + fractionRange) (Int.ofNat biased - 1075) (fraction == 0 && biased != 1)

namespace Neighbourhood

/-- The neighbourhood in units of `10 ^ exponent`. -/
def rescale (near : Neighbourhood) (exponent : Int) : Neighbourhood :=
  let up := Nat.pow 10 (-exponent).toNat
  { near with
    denominator := near.denominator * Nat.pow 10 exponent.toNat
    lower := near.lower * up
    value := near.value * up
    upper := near.upper * up }

/-- Whether a whole number of units reads back. -/
def contains (near : Neighbourhood) (units : Nat) : Bool :=
  let point := units * near.denominator
  if near.closed then near.lower ≤ point && point ≤ near.upper
  else near.lower < point && point < near.upper

/-- The whole number of units that reads back and is nearest to the value; of two that are equally
near, the greater. -/
def nearest? (near : Neighbourhood) : Option Nat :=
  let below := near.value / near.denominator
  let above := below + 1
  match near.contains below, near.contains above with
  | true, true =>
      let toBelow := near.value - below * near.denominator
      let toAbove := above * near.denominator - near.value
      some (if toBelow < toAbove then below else above)
  | true, false => some below
  | false, true => some above
  | false, false => none

/-- The number of decimal digits of a number; zero has none. -/
def digitCount (n : Nat) : Nat := if n = 0 then 0 else (Nat.toDigits 10 n).length

/-- The least exponent whose power of ten is above the value. -/
def magnitude (near : Neighbourhood) : Int :=
  if near.denominator ≤ near.value then
    Int.ofNat (digitCount (near.value / near.denominator))
  else 1 - Int.ofNat (digitCount ((near.denominator - 1) / near.value))

/-- The point nearest to the value on the coarsest grid with a point in the neighbourhood. Seventeen
digits are always enough. -/
def shortest (near : Neighbourhood) : Decimal :=
  let grids := (List.range 18).map fun digits => near.magnitude - Int.ofNat digits
  let hit := grids.findSome? fun exponent =>
    (near.rescale exponent).nearest?.map fun units => (⟨units, exponent⟩ : Decimal)
  hit.getD ⟨near.value, 0⟩

end Neighbourhood

end Decimal

end Make24
