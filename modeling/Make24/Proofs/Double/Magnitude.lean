import Mathlib
import Make24.Proofs.Double.Packing

/-! Signs of operands only decide the sign of a result and whether magnitudes are added or
subtracted. These laws are exact: they hold for zeros of both signs, infinities and no number. -/

namespace Make24.Double

open Float.Model (Format UnpackedFloat)
open Float.Model.UnpackedFloat

variable (format : Format)

theorem abs_roundWithAccuracy (sign : UnpackedFloat.Sign) (m : Nat) (e : Int)
    (accuracy : Accuracy) :
    (roundWithAccuracy format sign m e accuracy).abs =
      roundWithAccuracy format .positive m e accuracy := by
  unfold roundWithAccuracy
  dsimp only
  split_ifs <;> rfl

/-- Rounding an integer multiple of a power of two treats both signs alike. -/
theorem abs_normalize (m e : Int) (zeroSign : UnpackedFloat.Sign) :
    (UnpackedFloat.normalize format m e zeroSign).abs =
      UnpackedFloat.normalize format m.natAbs e .positive := by
  rcases lt_trichotomy m 0 with hNeg | hZero | hPos
  · have hMagnitude : (0 : Int) < m.natAbs := by omega
    have hSame : (-m).toNat = (m.natAbs : Int).toNat := by omega
    simp only [UnpackedFloat.normalize, compare_lt_iff_lt.mpr hNeg,
      compare_gt_iff_gt.mpr hMagnitude, hSame]
    exact abs_roundWithAccuracy ..
  · subst hZero
    rfl
  · have hMagnitude : (m.natAbs : Int) = m := by omega
    rw [hMagnitude]
    simp only [UnpackedFloat.normalize, compare_gt_iff_gt.mpr hPos]
    exact abs_roundWithAccuracy ..

section Finite

variable {s s' : UnpackedFloat.Sign} {m m' : Nat} {e e' : Int} (hPos : 0 < m) (hPos' : 0 < m')

theorem add_finite : add format (.finite s m e hPos) (.finite s' m' e' hPos') =
    UnpackedFloat.normalize format (s.apply (decreaseExponent m e (min e e')).1 +
      s'.apply (decreaseExponent m' e' (min e e')).1) (min e e') .positive := rfl

theorem sub_finite : sub format (.finite s m e hPos) (.finite s' m' e' hPos') =
    UnpackedFloat.normalize format (s.apply (decreaseExponent m e (min e e')).1 -
      s'.apply (decreaseExponent m' e' (min e e')).1) (min e e') .positive := rfl

theorem abs_add_finite :
    (add format (.finite s m e hPos) (.finite s' m' e' hPos')).abs =
        add format (.finite .positive m e hPos) (.finite .positive m' e' hPos') ∨
      (add format (.finite s m e hPos) (.finite s' m' e' hPos')).abs =
        sub format (.finite .positive m e hPos) (.finite .positive m' e' hPos') ∨
      (add format (.finite s m e hPos) (.finite s' m' e' hPos')).abs =
        sub format (.finite .positive m' e' hPos') (.finite .positive m e hPos) := by
  rw [add_finite, add_finite, sub_finite, sub_finite, abs_normalize, min_comm e' e]
  generalize (decreaseExponent m e (min e e')).1 = a
  generalize (decreaseExponent m' e' (min e e')).1 = b
  have hMagnitude : ((s.apply a + s'.apply b).natAbs : Int) = a + b ∨
      ((s.apply a + s'.apply b).natAbs : Int) = a - b ∨
      ((s.apply a + s'.apply b).natAbs : Int) = b - a := by
    cases s <;> cases s' <;> simp only [UnpackedFloat.Sign.apply] <;> omega
  rcases hMagnitude with hSum | hLeft | hRight
  · exact .inl (by rw [hSum]; rfl)
  · exact .inr (.inl (by rw [hLeft]; rfl))
  · exact .inr (.inr (by rw [hRight]; rfl))

end Finite

/-- The magnitude of a sum is the sum of the magnitudes or their difference either way. -/
theorem abs_add_unpacked (u v : UnpackedFloat) :
    (add format u v).abs = add format u.abs v.abs ∨
      (add format u v).abs = sub format u.abs v.abs ∨
      (add format u v).abs = sub format v.abs u.abs := by
  cases u with
  | notANumber => exact .inl rfl
  | infinity s =>
      cases v with
      | infinity s' =>
          cases s <;> cases s' <;> first | exact .inl rfl | exact .inr (.inl rfl)
      | _ => exact .inl rfl
  | zero s =>
      cases v with
      | zero s' => cases s <;> cases s' <;> exact .inl rfl
      | _ => exact .inl rfl
  | finite s m e hPos =>
      cases v with
      | finite s' m' e' hPos' => exact abs_add_finite format hPos hPos'
      | _ => exact .inl rfl

theorem sub_eq_add_neg_unpacked (u v : UnpackedFloat) : sub format u v = add format u v.neg := by
  cases u with
  | notANumber => rfl
  | infinity s => cases s <;> cases v <;> rfl
  | zero s =>
      cases v with
      | zero s' => cases s <;> cases s' <;> rfl
      | _ => rfl
  | finite s m e hPos =>
      cases v with
      | finite s' m' e' hPos' =>
          change _ = add format _ (.finite (-s') m' e' hPos')
          rw [sub_finite, add_finite]
          congr 1
          cases s' with
          | negative => exact Int.sub_neg ..
          | positive => exact Int.sub_eq_add_neg
      | _ => rfl

theorem abs_neg_unpacked (u : UnpackedFloat) : u.neg.abs = u.abs := by
  cases u <;> rfl

theorem abs_sub_unpacked (u v : UnpackedFloat) :
    (sub format u v).abs = add format u.abs v.abs ∨
      (sub format u v).abs = sub format u.abs v.abs ∨
      (sub format u v).abs = sub format v.abs u.abs := by
  rw [sub_eq_add_neg_unpacked, ← abs_neg_unpacked v]
  exact abs_add_unpacked format u v.neg

theorem abs_mul_unpacked (u v : UnpackedFloat) :
    (mul format u v).abs = mul format u.abs v.abs := by
  cases u <;> cases v <;> first | rfl | exact abs_roundWithAccuracy ..

theorem abs_div_unpacked (u v : UnpackedFloat) :
    (div format u v).abs = div format u.abs v.abs := by
  cases u <;> cases v <;> first | rfl | exact abs_roundWithAccuracy ..

variable (x y : Float)

theorem abs_neg : (-x).abs = x.abs := by
  apply unpacked_injective
  rw [unpacked_abs, unpacked_abs, unpacked_neg, abs_neg_unpacked]

/-- A sign in front of an operand leaves its magnitude. -/
theorem abs_apply_sign (sign : Sign) : (sign.apply x).abs = x.abs := by
  cases sign with
  | plus => rfl
  | minus => exact abs_neg x

/-- The magnitude of a sum or difference of doubles is the sum of their magnitudes or the
difference of these one way or the other. -/
theorem abs_combine_sign (sign : Sign) :
    (sign.combine x y).abs = x.abs + y.abs ∨ (sign.combine x y).abs = x.abs - y.abs ∨
      (sign.combine x y).abs = y.abs - x.abs := by
  have hUnpacked : ∃ exact : UnpackedFloat, unpacked (sign.combine x y) = stored exact ∧
      (exact.abs = add Format.binary64 (unpacked x).abs (unpacked y).abs ∨
        exact.abs = sub Format.binary64 (unpacked x).abs (unpacked y).abs ∨
        exact.abs = sub Format.binary64 (unpacked y).abs (unpacked x).abs) := by
    cases sign with
    | plus => exact ⟨_, rfl, abs_add_unpacked ..⟩
    | minus => exact ⟨_, rfl, abs_sub_unpacked ..⟩
  obtain ⟨exact, hStored, hMagnitude⟩ := hUnpacked
  have hAbs : unpacked (sign.combine x y).abs = stored exact.abs := by
    rw [unpacked_abs, hStored, stored_abs]
  rcases hMagnitude with h | h | h <;> rw [h] at hAbs
  · exact .inl (unpacked_injective (by simpa using hAbs))
  · exact .inr (.inl (unpacked_injective (by simpa using hAbs)))
  · exact .inr (.inr (unpacked_injective (by simpa using hAbs)))

theorem abs_combine_scale (scale : Scale) :
    (scale.combine x y).abs = scale.combine x.abs y.abs := by
  apply unpacked_injective
  cases scale with
  | multiply =>
      simp only [Scale.combine, unpacked_abs, unpacked_mul, ← stored_abs, abs_mul_unpacked]
  | divide =>
      simp only [Scale.combine, unpacked_abs, unpacked_div, ← stored_abs, abs_div_unpacked]

end Make24.Double
