import Mathlib
import Make24.Proofs.Double.Packing

/-! Where rounding puts the leading bit of a result. The place of the leading bit of `m * 2 ^ e` is
`log2 m + e`; rounding to 53 bits leaves it there or moves it up by one. -/

namespace Make24.Double

open Float.Model (Format UnpackedFloat totalExponent)
open Float.Model.UnpackedFloat

/-- A value with a full mantissa whose leading bit is at `place` or directly above it. -/
def LeadsAt (place : Int) : UnpackedFloat → Prop
  | .finite _ m e _ => m.log2 = 52 ∧ place ≤ e + 52 ∧ e + 52 ≤ place + 1
  | _ => False

theorem mantissa_shiftRight (m : ExtendedMantissa) (count : Nat) :
    (m >>> count).mantissa = m.mantissa / 2 ^ count := by
  change (count.repeat ExtendedMantissa.shiftRightOne m).mantissa = _
  induction count with
  | zero => simp [Nat.repeat]
  | succ count ih =>
      rw [Nat.repeat, ExtendedMantissa.shiftRightOne, ih, Nat.div_div_eq_div_mul, pow_succ]

theorem mantissa_ofMantissaAndAccuracy (m : Nat) (accuracy : Accuracy) :
    (ExtendedMantissa.ofMantissaAndAccuracy m accuracy).mantissa = m := by
  rcases accuracy with _ | (_ | _ | _) <;> rfl

theorem roundedMantissa_bounds (m : ExtendedMantissa) :
    m.mantissa ≤ m.roundedMantissa ∧ m.roundedMantissa ≤ m.mantissa + 1 := by
  rcases m with ⟨m, roundBit, stickyBit⟩
  cases roundBit <;> cases stickyBit <;>
    simp only [ExtendedMantissa.roundedMantissa, ExtendedMantissa.accuracy,
      Accuracy.roundToNearestEven] <;> omega

variable {m : Nat} {e : Int}

/-- Away from the bottom of the range a value is shifted until 53 bits are left. -/
theorem targetExponent_normal (hLow : -1022 ≤ m.log2 + e) :
    Format.binary64.targetExponent (totalExponent m e) = m.log2 + e - 52 := by
  have hBits : (Format.binary64.mantissaBits : Int) = 53 := rfl
  have hMin : Format.binary64.minExponent = -1074 := rfl
  rw [Format.targetExponent, totalExponent, hBits, hMin]
  omega

theorem shiftToTargetExponent_normal (accuracy : Accuracy) (hFull : 52 ≤ m.log2)
    (hLow : -1022 ≤ m.log2 + e) :
    shiftToTargetExponent Format.binary64 m e accuracy =
      (ExtendedMantissa.ofMantissaAndAccuracy m accuracy >>> (m.log2 - 52),
        m.log2 + e - 52) := by
  have hShift : (m.log2 + e - 52 - e).toNat = m.log2 - 52 := by omega
  rw [shiftToTargetExponent, targetExponent_normal hLow, shiftToExponent]
  simp only [hShift, Prod.mk.injEq, true_and]
  omega

theorem log2_div_pow (hFull : 52 ≤ m.log2) : (m / 2 ^ (m.log2 - 52)).log2 = 52 := by
  have hNonzero : m ≠ 0 := by
    rintro rfl
    simp at hFull
  have hSplit : 2 ^ m.log2 = 2 ^ 52 * 2 ^ (m.log2 - 52) := by
    rw [← pow_add]
    congr 1
    omega
  have hLower : 2 ^ 52 * 2 ^ (m.log2 - 52) ≤ m := hSplit ▸ Nat.log2_self_le hNonzero
  have hUpper : m < 2 ^ 53 * 2 ^ (m.log2 - 52) := by
    have h := Nat.lt_log2_self (n := m)
    rw [pow_succ, hSplit] at h
    omega
  have hQuotient : 2 ^ 52 ≤ m / 2 ^ (m.log2 - 52) :=
    (Nat.le_div_iff_mul_le (Nat.two_pow_pos _)).mpr hLower
  refine (Nat.log2_eq_iff (by omega)).mpr ⟨hQuotient, ?_⟩
  exact (Nat.div_lt_iff_lt_mul (Nat.two_pow_pos _)).mpr hUpper

/-- Rounding up may carry into a new leading bit. The second shift then drops a zero bit, so it
loses nothing. -/
theorem leadsAt_carry (sign : UnpackedFloat.Sign) {rounded : Nat} {place : Int}
    (hLower : 2 ^ 52 ≤ rounded) (hUpper : rounded ≤ 2 ^ 53) (hLow : -1022 ≤ place) :
    LeadsAt place
      (if h : (shiftToTargetExponent Format.binary64 rounded (place - 52) .exact).1.mantissa = 0
        then .zero sign
        else .finite sign
          (shiftToTargetExponent Format.binary64 rounded (place - 52) .exact).1.mantissa
          (shiftToTargetExponent Format.binary64 rounded (place - 52) .exact).2
          (Nat.pos_of_ne_zero h)) := by
  have hNonzero : rounded ≠ 0 := by omega
  have hLog : rounded.log2 = 52 ∨ rounded.log2 = 53 := by
    rw [Nat.log2_eq_iff hNonzero, Nat.log2_eq_iff hNonzero]
    omega
  have hFull : 52 ≤ rounded.log2 := by omega
  have hFinal := log2_div_pow hFull
  simp only [shiftToTargetExponent_normal .exact hFull (e := place - 52) (by omega),
    mantissa_shiftRight, mantissa_ofMantissaAndAccuracy]
  split_ifs with hZero
  · simp [hZero] at hFinal
  · exact ⟨hFinal, by omega, by omega⟩

theorem leadsAt_roundWithAccuracy (sign : UnpackedFloat.Sign) (accuracy : Accuracy)
    (hFull : 52 ≤ m.log2) (hLow : -1022 ≤ m.log2 + e) :
    LeadsAt (m.log2 + e) (roundWithAccuracy Format.binary64 sign m e accuracy) := by
  have hLog := log2_div_pow hFull
  have hPositive : m / 2 ^ (m.log2 - 52) ≠ 0 := by
    intro hZero
    simp [hZero] at hLog
  have hQuotient := (Nat.log2_eq_iff hPositive).mp hLog
  have hRounded := roundedMantissa_bounds
    (ExtendedMantissa.ofMantissaAndAccuracy m accuracy >>> (m.log2 - 52))
  rw [mantissa_shiftRight, mantissa_ofMantissaAndAccuracy] at hRounded
  simp only [roundWithAccuracy, shiftToTargetExponent_normal accuracy hFull hLow]
  exact leadsAt_carry sign (by omega) (by omega) hLow

theorem log2_shiftLeft (hNonzero : m ≠ 0) (count : Nat) :
    (m <<< count).log2 = m.log2 + count := by
  induction count with
  | zero => rfl
  | succ count ih =>
      rw [Nat.shiftLeft_succ, Nat.log2_two_mul, ih, Nat.add_assoc]
      simpa [Nat.shiftLeft_eq] using hNonzero

theorem leadsAt_round (sign : UnpackedFloat.Sign) (hNonzero : m ≠ 0)
    (hLow : -1022 ≤ m.log2 + e) :
    LeadsAt (m.log2 + e) (UnpackedFloat.round Format.binary64 sign m e) := by
  simp only [UnpackedFloat.round, decreaseExponent, targetExponent_normal hLow]
  have hLog := log2_shiftLeft hNonzero (e - (m.log2 + e - 52)).toNat
  have hPlace : ((m <<< (e - (m.log2 + e - 52)).toNat).log2 : Int) +
      (e - (e - (m.log2 + e - 52)).toNat) = m.log2 + e := by
    rw [hLog]
    omega
  have hLeads := leadsAt_roundWithAccuracy (m := m <<< (e - (m.log2 + e - 52)).toNat)
    (e := e - (e - (m.log2 + e - 52)).toNat) sign .exact (by omega) (by omega)
  rwa [hPlace] at hLeads

theorem leadsAt_normalize {n : Int} (zeroSign : UnpackedFloat.Sign) (hNonzero : n ≠ 0)
    (hLow : -1022 ≤ n.natAbs.log2 + e) :
    LeadsAt (n.natAbs.log2 + e) (UnpackedFloat.normalize Format.binary64 n e zeroSign) := by
  rcases lt_or_gt_of_ne hNonzero with hNeg | hPos
  · have hSame : (-n).toNat = n.natAbs := by omega
    simp only [UnpackedFloat.normalize, compare_lt_iff_lt.mpr hNeg, hSame]
    exact leadsAt_round _ (by omega) hLow
  · have hSame : n.toNat = n.natAbs := by omega
    simp only [UnpackedFloat.normalize, compare_gt_iff_gt.mpr hPos, hSame]
    exact leadsAt_round _ (by omega) hLow

end Make24.Double
