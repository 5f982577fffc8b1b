import Make24.Decimal.Shortest

/-! How values are shown: the shortest digits in positional notation whatever the size, a sign for
every negative number and for negative zero, and no fraction for whole numbers. -/

namespace Make24

namespace Decimal

/-- The digits of a decimal with the point in its place. -/
def positional (decimal : Decimal) : String :=
  let digits := Nat.toDigits 10 decimal.coefficient
  let places := (-decimal.exponent).toNat
  if places = 0 then
    String.ofList (digits ++ List.replicate decimal.exponent.toNat '0')
  else
    let padded := List.replicate (places + 1 - digits.length) '0' ++ digits
    let whole := padded.length - places
    String.ofList (padded.take whole ++ '.' :: padded.drop whole)

/-- The bits of infinity; greater ones are no number. -/
def infinityBits : Nat := 0x7FF * fractionRange

/-- The text of a number from its bits without the sign. -/
def magnitudeText (bits : Nat) : String :=
  if bits = 0 then "0"
  else if bits = infinityBits then "inf"
  else (Neighbourhood.ofBits bits).shortest.positional

end Decimal

/-- The bit that tells negative numbers. -/
def signBit : Nat := 1 <<< 63

/-- The text of a value. -/
def valueText (value : Float) : String :=
  let bits := value.toBits.toNat
  let magnitude := bits % signBit
  if Decimal.infinityBits < magnitude then "NaN"
  else if bits = magnitude then Decimal.magnitudeText magnitude
  else "-" ++ Decimal.magnitudeText magnitude

end Make24
