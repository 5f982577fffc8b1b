import Mathlib
import Make24.Arithmetic

/-! What 64 bits keep of a rounded result. An operation on doubles is exact integer arithmetic
between an unpacking and a packing; the facts here remove the packing in between. -/

namespace Make24.Double

open Float.Model (Format UnpackedFloat)
open Float.Model.UnpackedFloat

/-- The 64 bits with the given fields. -/
def word (sign : UnpackedFloat.Sign) (exponent : BitVec 11) (mantissa : BitVec 52) : BitVec 64 :=
  packComponents Format.binary64 sign exponent mantissa

variable (sign : UnpackedFloat.Sign) (exponent : BitVec 11) (mantissa : BitVec 52)

theorem toBitVec_ofBitVec (bit : BitVec 1) : (Sign.ofBitVec bit).toBitVec = bit := by
  revert bit
  decide

theorem exists_word (bits : BitVec 64) :
    ∃ sign exponent mantissa, bits = word sign exponent mantissa := by
  refine ⟨Sign.ofBitVec (bits.extractLsb' 63 1), bits.extractLsb' 52 11,
    bits.extractLsb' 0 52, ?_⟩
  simp only [word, packComponents, toBitVec_ofBitVec]
  ext i hi
  grind

theorem ofBitVec_unpackSign_word :
    Sign.ofBitVec (@unpackSign Format.binary64 (word sign exponent mantissa)) = sign := by
  have hSign : @unpackSign Format.binary64 (word sign exponent mantissa) =
      sign.toBitVec := by
    simp only [word, packComponents, unpackSign, BitVec.extractLsb]
    ext i hi
    grind
  rw [hSign]
  cases sign <;> rfl

theorem toNat_implicit_append : (1#1 ++ mantissa).toNat = 2 ^ 52 + mantissa.toNat := by
  rw [BitVec.toNat_append, ← Nat.shiftLeft_add_eq_or_of_lt mantissa.isLt]
  rfl

/-- The value of a double, read off its fields. -/
theorem unpack_word :
    unpack Format.binary64 (word sign exponent mantissa) =
      if exponent = -1#11 then
        if mantissa = 0#52 then .infinity sign else .notANumber
      else if exponent = 0#11 then
        if h : mantissa = 0#52 then .zero sign
        else .finite sign mantissa.toNat (-1074)
          (Nat.pos_of_ne_zero fun hZero => h (BitVec.eq_of_toNat_eq hZero))
      else .finite sign (2 ^ 52 + mantissa.toNat) (exponent.toNat - 1075) (by omega) := by
  have hExponent : @unpackExponent Format.binary64 (word sign exponent mantissa) =
      exponent := unpackExponent_packComponents
  have hMantissa : @unpackMantissa Format.binary64 (word sign exponent mantissa) =
      mantissa := unpackMantissa_packComponents
  simp only [unpack, hExponent, hMantissa, ofBitVec_unpackSign_word, toNat_implicit_append]
  split_ifs with hOnes hZero hSub hNone
  · rfl
  · rfl
  · rfl
  · subst hSub
    rfl
  · rfl

/-- A value with another sign. No number has none. -/
def mapSign (f : UnpackedFloat.Sign → UnpackedFloat.Sign) : UnpackedFloat → UnpackedFloat
  | .notANumber => .notANumber
  | .infinity sign => .infinity (f sign)
  | .zero sign => .zero (f sign)
  | .finite sign m e hPos => .finite (f sign) m e hPos

theorem abs_eq_mapSign (value : UnpackedFloat) :
    value.abs = mapSign (fun _ => .positive) value := by
  cases value <;> rfl

theorem neg_eq_mapSign (value : UnpackedFloat) : value.neg = mapSign (- ·) value := by
  cases value <;> rfl

variable (f : UnpackedFloat.Sign → UnpackedFloat.Sign)

/-- Another sign of a stored value is another sign bit. -/
theorem mapSign_unpack_word :
    mapSign f (unpack Format.binary64 (word sign exponent mantissa)) =
      unpack Format.binary64 (word (f sign) exponent mantissa) := by
  rw [unpack_word, unpack_word]
  split_ifs <;> rfl

/-- Neither field that a finite value is packed into depends on its sign. -/
theorem exists_pack_finite (m : Nat) (e : Int) (hPos : 0 < m) :
    ∃ exponent mantissa, ∀ sign,
      pack Format.binary64 (.finite sign m e hPos) = word sign exponent mantissa := by
  simp only [pack]
  split_ifs
  · exact ⟨_, _, fun _ => rfl⟩
  · exact ⟨_, _, fun _ => rfl⟩
  · exact ⟨_, _, fun _ => rfl⟩

/-- A normal value is stored with its own exponent and without its leading bit. -/
theorem pack_normal {m : Nat} {e : Int} (hPos : 0 < m) (hLog : m.log2 = 52)
    (hLow : -1074 ≤ e) (hHigh : e ≤ 971) :
    pack Format.binary64 (.finite sign m e hPos) =
      word sign (BitVec.ofNat 11 (e + 1075).toNat) (BitVec.ofNat 52 m) := by
  have hBiased : (e + Format.binary64.exponentBias +
      Format.binary64.mantissaBitsWithoutImplicit).toNat = (e + 1075).toNat := by
    have hBias : (Format.binary64.exponentBias : Int) = 1023 := rfl
    have hBits : (Format.binary64.mantissaBitsWithoutImplicit : Int) = 52 := rfl
    omega
  have hFits : ¬ 2 ^ Format.binary64.exponentBits ≤ (e + 1075).toNat + 1 := by
    change ¬ 2048 ≤ _
    omega
  simp only [pack]
  rw [hBiased, if_neg hFits, if_pos (by rw [hLog]; rfl)]
  rfl

/-- Storing a value that 64 bits already hold changes nothing. Only a word that is no number and
not the canonical one is stored as a different word. -/
theorem pack_unpack {bits : BitVec 64} (hValid : Format.binary64.Valid bits) :
    pack Format.binary64 (unpack Format.binary64 bits) = bits := by
  obtain ⟨sign, exponent, mantissa, rfl⟩ := exists_word bits
  have hExponent := exponent.isLt
  have hMantissa := mantissa.isLt
  rw [unpack_word]
  split_ifs with hOnes hZero hSub hNone
  · rw [hOnes, hZero]
    rfl
  · have hCanonical := hValid.eq_packedNaN
    exact (hCanonical (unpackExponent_packComponents.trans hOnes)
      (unpackMantissa_packComponents.trans_ne hZero)).symm
  · rw [hSub, hNone]
    rfl
  · have hNonzero : mantissa.toNat ≠ 0 := fun h => hNone (BitVec.eq_of_toNat_eq h)
    have hLog : ¬ mantissa.toNat.log2 + 1 = Format.binary64.mantissaBits := by
      have hSmall := (Nat.log2_lt hNonzero).mpr hMantissa
      change ¬ mantissa.toNat.log2 + 1 = 53
      omega
    simp only [pack]
    rw [if_neg (by decide), if_neg hLog, hSub, BitVec.ofNat_toNat, BitVec.setWidth_eq]
    rfl
  · have hOnes' : exponent.toNat ≠ 2047 := fun h => hOnes (BitVec.eq_of_toNat_eq h)
    have hSub' : exponent.toNat ≠ 0 := fun h => hSub (BitVec.eq_of_toNat_eq h)
    have hLog : (2 ^ 52 + mantissa.toNat).log2 = 52 :=
      (Nat.log2_eq_iff (by omega)).mpr ⟨by omega, by omega⟩
    rw [pack_normal sign _ hLog (by omega) (by omega)]
    congr 1
    · apply BitVec.eq_of_toNat_eq
      simp
    · apply BitVec.eq_of_toNat_eq
      simpa using hMantissa

/-- A normal value within the range is stored as it is. -/
theorem unpack_pack_normal {m : Nat} {e : Int} (hPos : 0 < m) (hLog : m.log2 = 52)
    (hLow : -1074 ≤ e) (hHigh : e ≤ 971) :
    unpack Format.binary64 (pack Format.binary64 (.finite sign m e hPos)) =
      .finite sign m e hPos := by
  have hBounds := (Nat.log2_eq_iff hPos.ne').mp hLog
  have hExponent : (BitVec.ofNat 11 (e + 1075).toNat).toNat = (e + 1075).toNat := by
    rw [BitVec.toNat_ofNat, Nat.mod_eq_of_lt (by omega)]
  have hMantissa : 2 ^ 52 + (BitVec.ofNat 52 m).toNat = m := by
    rw [BitVec.toNat_ofNat]
    omega
  rw [pack_normal sign hPos hLog hLow hHigh, unpack_word, if_neg, if_neg]
  · congr 1
    rw [hExponent]
    omega
  · intro hSub
    have := congrArg BitVec.toNat hSub
    rw [hExponent] at this
    simp at this
    omega
  · intro hOnes
    have := congrArg BitVec.toNat hOnes
    rw [hExponent] at this
    simp at this
    omega

/-- What is left of an exact value once it has been stored. -/
def stored (value : UnpackedFloat) : UnpackedFloat :=
  unpack Format.binary64 (pack Format.binary64 value)

theorem stored_notANumber : stored .notANumber = .notANumber := rfl

theorem stored_infinity : stored (.infinity sign) = .infinity sign := by
  cases sign <;> rfl

theorem stored_zero : stored (.zero sign) = .zero sign := by
  cases sign <;> rfl

/-- Storing a value does not look at its sign. -/
theorem stored_mapSign (value : UnpackedFloat) :
    stored (mapSign f value) = mapSign f (stored value) := by
  cases value with
  | notANumber => rw [mapSign, stored_notANumber, mapSign]
  | infinity sign => rw [mapSign, stored_infinity, stored_infinity, mapSign]
  | zero sign => rw [mapSign, stored_zero, stored_zero, mapSign]
  | finite sign m e hPos =>
      obtain ⟨exponent, mantissa, hPack⟩ := exists_pack_finite m e hPos
      rw [mapSign, stored, stored, hPack, hPack, mapSign_unpack_word]

theorem stored_abs (value : UnpackedFloat) : stored value.abs = (stored value).abs := by
  rw [abs_eq_mapSign, abs_eq_mapSign, stored_mapSign]

theorem stored_neg (value : UnpackedFloat) : stored value.neg = (stored value).neg := by
  rw [neg_eq_mapSign, neg_eq_mapSign, stored_mapSign]

/-- The sign, mantissa and exponent of a double. -/
def unpacked (x : Float) : UnpackedFloat := x.toModel.unpack

theorem stored_unpacked (x : Float) : stored (unpacked x) = unpacked x :=
  congrArg (unpack Format.binary64) (pack_unpack x.toModel.valid)

/-- A double is determined by its sign, mantissa and exponent. -/
theorem unpacked_injective : Function.Injective unpacked := by
  intro x y h
  have hBits : x.toModel.toBits.toBitVec = y.toModel.toBits.toBitVec := by
    rw [← pack_unpack x.toModel.valid, ← pack_unpack y.toModel.valid]
    exact congrArg (pack Format.binary64) h
  rcases x with ⟨⟨⟨_⟩, _⟩⟩
  rcases y with ⟨⟨⟨_⟩, _⟩⟩
  cases hBits
  rfl

variable (x y : Float)

@[simp] theorem unpacked_add :
    unpacked (x + y) = stored (add Format.binary64 (unpacked x) (unpacked y)) := rfl

@[simp] theorem unpacked_sub :
    unpacked (x - y) = stored (sub Format.binary64 (unpacked x) (unpacked y)) := rfl

@[simp] theorem unpacked_mul :
    unpacked (x * y) = stored (mul Format.binary64 (unpacked x) (unpacked y)) := rfl

@[simp] theorem unpacked_div :
    unpacked (x / y) = stored (div Format.binary64 (unpacked x) (unpacked y)) := rfl

/-- An operation of the puzzle before its result is stored. -/
def operate : Op → UnpackedFloat → UnpackedFloat → UnpackedFloat
  | .add => add Format.binary64
  | .sub => sub Format.binary64
  | .mul => mul Format.binary64
  | .div => div Format.binary64

theorem unpacked_apply (op : Op) :
    unpacked (op.apply x y) = stored (operate op (unpacked x) (unpacked y)) := by
  rcases op with (_ | _) | (_ | _) <;> rfl

@[simp] theorem unpacked_neg : unpacked (-x) = (unpacked x).neg := by
  calc unpacked (-x)
    _ = stored (unpacked x).neg := rfl
    _ = (stored (unpacked x)).neg := stored_neg _
    _ = (unpacked x).neg := by rw [stored_unpacked]

@[simp] theorem unpacked_abs : unpacked x.abs = (unpacked x).abs := by
  calc unpacked x.abs
    _ = stored (unpacked x).abs := rfl
    _ = (stored (unpacked x)).abs := stored_abs _
    _ = (unpacked x).abs := by rw [stored_unpacked]

end Make24.Double
