import Mathlib
import Make24.Proofs.Double.Magnitude
import Make24.Proofs.Double.Rounding

/-! Short expressions over small numbers stay far from both ends of the range of doubles, so none of
their operations overflows unless it divides by zero. The bounds are coarse: every operation adds
the bounds of its operands and a constant. -/

namespace Make24.Double

open Float.Model (Format UnpackedFloat totalExponent)
open Float.Model.UnpackedFloat

/-- The leading bit of a finite value is at most `bound` places from the unit place. Zeros,
infinities and no number are not restricted. -/
def Within (bound : Nat) : UnpackedFloat → Prop
  | .finite _ m e _ => m.log2 = 52 ∧ -(bound : Int) ≤ e + 52 ∧ e + 52 ≤ bound
  | _ => True

theorem LeadsAt.within {place : Int} {value : UnpackedFloat} {bound : Nat}
    (h : LeadsAt place value) (hLow : -(bound : Int) ≤ place) (hHigh : place + 1 ≤ bound) :
    Within bound value := by
  cases value with
  | finite s m e hPos =>
      obtain ⟨hLog, hLower, hUpper⟩ := h
      exact ⟨hLog, by omega, by omega⟩
  | _ => trivial

/-- Values this far inside the range are stored as they are. -/
theorem Within.stored_eq {bound : Nat} {value : UnpackedFloat} (h : Within bound value)
    (hBound : bound ≤ 1022) : stored value = value := by
  cases value with
  | notANumber => exact stored_notANumber
  | infinity s => exact stored_infinity s
  | zero s => exact stored_zero s
  | finite s m e hPos =>
      obtain ⟨hLog, hLow, hHigh⟩ := h
      exact unpack_pack_normal s hPos hLog (by omega) (by omega)

/-- A number of at most eight bits, zero included. -/
theorem within_ofNat {n : Nat} (hSmall : n < 256) : Within 8 (ofNat Format.binary64 n) := by
  rcases Nat.eq_zero_or_pos n with rfl | hPos
  · exact trivial
  · have hLog : n.log2 < 8 := (Nat.log2_lt hPos.ne').mpr hSmall
    have hLeads := leadsAt_normalize (n := n) (e := 0) .positive (by omega) (by
      rw [Int.natAbs_natCast]
      omega)
    rw [Int.natAbs_natCast] at hLeads
    exact hLeads.within (by omega) (by omega)

section Finite

variable {s s' : UnpackedFloat.Sign} {m m' : Nat} {e e' : Int} {hPos : 0 < m} {hPos' : 0 < m'}
variable {bound bound' : Nat}

theorem log2_le_of_le_add {a b n k : Nat} (ha : a ≠ 0) (hb : b ≠ 0) (hn : n ≠ 0)
    (hLeft : a.log2 < k) (hRight : b.log2 < k) (hSum : n ≤ a + b) : n.log2 ≤ k := by
  rw [Nat.log2_lt ha] at hLeft
  rw [Nat.log2_lt hb] at hRight
  have hPow : 2 ^ (k + 1) = 2 ^ k + 2 ^ k := by ring
  have hLess : n.log2 < k + 1 := (Nat.log2_lt hn).mpr (by omega)
  omega

theorem shiftLeft_ne_zero {m : Nat} (hPos : 0 < m) (count : Nat) : m <<< count ≠ 0 := by
  rw [Nat.shiftLeft_eq]
  exact (Nat.mul_pos hPos (Nat.two_pow_pos count)).ne'

/-- Cancellation can lower the leading bit as far as the last bit of the operands. -/
theorem within_add_finite (h : Within bound (.finite s m e hPos))
    (h' : Within bound' (.finite s' m' e' hPos')) (hBound : bound + bound' ≤ 900) :
    Within (bound + bound' + 60)
      (add Format.binary64 (.finite s m e hPos) (.finite s' m' e' hPos')) := by
  obtain ⟨hLog, hLow, hHigh⟩ := h
  obtain ⟨hLog', hLow', hHigh'⟩ := h'
  rw [add_finite]
  have hLeft := log2_shiftLeft hPos.ne' (e - min e e').toNat
  have hRight := log2_shiftLeft hPos'.ne' (e' - min e e').toNat
  have hLeft' := shiftLeft_ne_zero hPos (e - min e e').toNat
  have hRight' := shiftLeft_ne_zero hPos' (e' - min e e').toNat
  simp only [decreaseExponent]
  generalize m <<< (e - min e e').toNat = a at *
  generalize m' <<< (e' - min e e').toNat = b at *
  have hMagnitude : (s.apply a + s'.apply b).natAbs ≤ a + b := by
    cases s <;> cases s' <;> simp only [UnpackedFloat.Sign.apply] <;> omega
  generalize s.apply (a : Int) + s'.apply (b : Int) = n at *
  rcases eq_or_ne n 0 with rfl | hNonzero
  · exact trivial
  · have hPlace := log2_le_of_le_add (k := 53 + (max e e' - min e e').toNat) hLeft' hRight'
      (Int.natAbs_ne_zero.mpr hNonzero) (by omega) (by omega) hMagnitude
    exact (leadsAt_normalize .positive hNonzero (by omega)).within (by omega) (by omega)

theorem within_mul_finite (h : Within bound (.finite s m e hPos))
    (h' : Within bound' (.finite s' m' e' hPos')) (hBound : bound + bound' ≤ 900) :
    Within (bound + bound' + 60)
      (mul Format.binary64 (.finite s m e hPos) (.finite s' m' e' hPos')) := by
  obtain ⟨hLog, hLow, hHigh⟩ := h
  obtain ⟨hLog', hLow', hHigh'⟩ := h'
  have hBounds := (Nat.log2_eq_iff hPos.ne').mp hLog
  have hBounds' := (Nat.log2_eq_iff hPos'.ne').mp hLog'
  have hProduct : m * m' ≠ 0 := (Nat.mul_pos hPos hPos').ne'
  have hLower : 104 ≤ (m * m').log2 := by
    rw [Nat.le_log2 hProduct]
    calc 2 ^ 104
      _ = 2 ^ 52 * 2 ^ 52 := by norm_num
      _ ≤ m * m' := Nat.mul_le_mul hBounds.1 hBounds'.1
  have hUpper : (m * m').log2 < 106 := by
    rw [Nat.log2_lt hProduct]
    calc m * m'
      _ < 2 ^ 53 * 2 ^ 53 := Nat.mul_lt_mul'' hBounds.2 hBounds'.2
      _ = 2 ^ 106 := by norm_num
  change Within _ (roundWithAccuracy Format.binary64 (s * s') (m * m') (e + e') .exact)
  exact (leadsAt_roundWithAccuracy _ _ (by omega) (by omega)).within (by omega) (by omega)

/-- Division first shifts the dividend by 53 bits, so that the quotient has a full mantissa. -/
theorem divCore_full (hLog : m.log2 = 52) (hLog' : m'.log2 = 52) (hLow : -1021 ≤ e - e') :
    divCore Format.binary64 m e m' e' =
      ((m <<< 53) / m', e - e' - 53, accuracyOfFraction ((m <<< 53) % m') m') := by
  have hTarget : min (e - e') (Format.binary64.targetExponent
      (totalExponent m e - totalExponent m' e')) = e - e' - 53 := by
    have hBits : (Format.binary64.mantissaBits : Int) = 53 := rfl
    have hMin : Format.binary64.minExponent = -1074 := rfl
    rw [Format.targetExponent, totalExponent, totalExponent, hBits, hMin, hLog, hLog']
    omega
  have hShift : (e - e' - (e - e' - 53)).toNat = 53 := by omega
  rw [divCore, hTarget, hShift]

theorem within_div_finite (h : Within bound (.finite s m e hPos))
    (h' : Within bound' (.finite s' m' e' hPos')) (hBound : bound + bound' ≤ 900) :
    Within (bound + bound' + 60)
      (div Format.binary64 (.finite s m e hPos) (.finite s' m' e' hPos')) := by
  obtain ⟨hLog, hLow, hHigh⟩ := h
  obtain ⟨hLog', hLow', hHigh'⟩ := h'
  have hBounds := (Nat.log2_eq_iff hPos.ne').mp hLog
  have hBounds' := (Nat.log2_eq_iff hPos'.ne').mp hLog'
  have hDividend : m <<< 53 = m * 2 ^ 53 := Nat.shiftLeft_eq m 53
  have hQuotient : 2 ^ 52 ≤ m <<< 53 / m' := by
    rw [Nat.le_div_iff_mul_le hPos', hDividend]
    exact Nat.mul_le_mul hBounds.1 hBounds'.2.le
  have hUpper : m <<< 53 / m' < 2 ^ 54 := by
    rw [Nat.div_lt_iff_lt_mul hPos', hDividend]
    omega
  have hNonzero : m <<< 53 / m' ≠ 0 := by omega
  have hLogLower : 52 ≤ (m <<< 53 / m').log2 := (Nat.le_log2 hNonzero).mpr hQuotient
  have hLogUpper : (m <<< 53 / m').log2 < 54 := (Nat.log2_lt hNonzero).mpr hUpper
  have hExponents : -1021 ≤ e - e' := by omega
  simp only [div, divCore_full hLog hLog' hExponents]
  exact (leadsAt_roundWithAccuracy _ _ hLogLower (by omega)).within (by omega) (by omega)

end Finite

theorem Within.mono {bound bound' : Nat} {value : UnpackedFloat} (h : Within bound value)
    (hLe : bound ≤ bound') : Within bound' value := by
  cases value with
  | finite s m e hPos =>
      obtain ⟨hLog, hLow, hHigh⟩ := h
      exact ⟨hLog, by omega, by omega⟩
  | _ => trivial

theorem Within.neg {bound : Nat} {value : UnpackedFloat} (h : Within bound value) :
    Within bound value.neg := by
  cases value with
  | finite s m e hPos => exact h
  | _ => trivial

section Operations

variable {bound bound' : Nat} {u v : UnpackedFloat}

theorem within_add (h : Within bound u) (h' : Within bound' v) (hBound : bound + bound' ≤ 900) :
    Within (bound + bound' + 60) (add Format.binary64 u v) := by
  cases u with
  | notANumber => exact trivial
  | infinity s =>
      cases v with
      | infinity s' => cases s <;> cases s' <;> exact trivial
      | _ => exact trivial
  | zero s =>
      cases v with
      | zero s' => cases s <;> cases s' <;> exact trivial
      | finite => exact Within.mono h' (by omega)
      | _ => exact trivial
  | finite s m e hPos =>
      cases v with
      | zero => exact Within.mono h (by omega)
      | finite => exact within_add_finite h h' hBound
      | _ => exact trivial

theorem within_mul (h : Within bound u) (h' : Within bound' v) (hBound : bound + bound' ≤ 900) :
    Within (bound + bound' + 60) (mul Format.binary64 u v) := by
  cases u <;> cases v <;> first | exact trivial | exact within_mul_finite h h' hBound

theorem within_div (h : Within bound u) (h' : Within bound' v) (hBound : bound + bound' ≤ 900) :
    Within (bound + bound' + 60) (div Format.binary64 u v) := by
  cases u <;> cases v <;> first | exact trivial | exact within_div_finite h h' hBound

/-- An operation never leaves the range, whatever its operands are inside their bounds. -/
theorem within_operate (op : Op) (h : Within bound u) (h' : Within bound' v)
    (hBound : bound + bound' ≤ 900) : Within (bound + bound' + 60) (operate op u v) := by
  rcases op with (_ | _) | (_ | _)
  · exact within_add h h' hBound
  · simp only [operate, sub_eq_add_neg_unpacked]
    exact within_add h h'.neg hBound
  · exact within_mul h h' hBound
  · exact within_div h h' hBound

end Operations

end Make24.Double
