import Mathlib
import Make24.Proofs.Double.Range

/-! Values without sign, infinity or no number. The tame form of a value is its magnitude if it is
finite and zero otherwise. What an operation does to values, some operation that does not divide by
zero does to their tame forms: this is how signs and divisions by zero are removed. -/

namespace Make24.Double

open Float.Model (Format UnpackedFloat)
open Float.Model.UnpackedFloat

/-- The magnitude of a finite value; infinities and no number count as zero. -/
def tame (x : Float) : Float :=
  if x.isFinite then x.abs else 0.0

def isZero : UnpackedFloat → Bool
  | .zero _ => true
  | _ => false

theorem isFinite_eq (x : Float) : x.isFinite = (unpacked x).isFinite := rfl

theorem unpacked_zero : unpacked 0.0 = .zero .positive := rfl

/-- Only the zeros of both signs equal zero. -/
theorem beq_zero (x : Float) : (x == 0.0) = isZero (unpacked x) := by
  change UnpackedFloat.beq (unpacked x) (unpacked 0.0) = _
  rw [unpacked_zero]
  cases unpacked x with
  | notANumber => rfl
  | infinity s => cases s <;> rfl
  | zero s => cases s <;> rfl
  | finite s m e hPos => cases s <;> rfl

/-- What compares as equal to a finite value that is not zero is that value. -/
theorem eq_of_beq_finite {u : UnpackedFloat} {s : UnpackedFloat.Sign} {m : Nat} {e : Int}
    {hPos : 0 < m} (h : UnpackedFloat.beq u (.finite s m e hPos) = true) :
    u = .finite s m e hPos := by
  simp only [UnpackedFloat.beq, beq_iff_eq] at h
  cases u with
  | notANumber => cases h
  | zero s' => cases s <;> cases h
  | infinity s' => cases s' <;> cases h
  | finite s' m' e' hPos' =>
      cases s <;> cases s' <;> simp_all [UnpackedFloat.compare, Ordering.then_eq_eq]

theorem unpacked_target : unpacked target = .finite .positive (3 * 2 ^ 51) (-48) (by omega) := rfl

/-- No other value passes for the target. -/
theorem isTarget_iff {x : Float} : isTarget x = true ↔ x = target := by
  constructor
  · intro h
    exact unpacked_injective (eq_of_beq_finite h)
  · rintro rfl
    rfl

/-- The tame form of an unpacked value. -/
def tamed : UnpackedFloat → UnpackedFloat
  | .finite _ m e hPos => .finite .positive m e hPos
  | _ => .zero .positive

theorem unpacked_tame (x : Float) : unpacked (tame x) = tamed (unpacked x) := by
  unfold tame
  rw [isFinite_eq]
  split_ifs with hFinite
  · rw [unpacked_abs]
    cases hUnpacked : unpacked x with
    | finite s m e hPos => rfl
    | zero s => rfl
    | infinity s => simp [hUnpacked, UnpackedFloat.isFinite] at hFinite
    | notANumber => simp [hUnpacked, UnpackedFloat.isFinite] at hFinite
  · rw [unpacked_zero]
    cases hUnpacked : unpacked x with
    | finite s m e hPos => simp [hUnpacked, UnpackedFloat.isFinite] at hFinite
    | _ => rfl

theorem tame_target : tame target = target := by
  apply unpacked_injective
  rw [unpacked_tame, unpacked_target]
  rfl

theorem tame_of_isFinite {x : Float} (h : x.isFinite = true) : tame x = x.abs := by
  rw [tame, if_pos h]

theorem tame_eq_zero {x : Float} (h : x.isFinite = true → isZero (unpacked x) = true) :
    tame x = 0.0 := by
  apply unpacked_injective
  rw [unpacked_tame, unpacked_zero]
  rw [isFinite_eq] at h
  cases hUnpacked : unpacked x with
  | finite s m e hPos => simp [hUnpacked, isZero, UnpackedFloat.isFinite] at h
  | _ => rfl

theorem isFinite_abs (x : Float) : x.abs.isFinite = x.isFinite := by
  rw [isFinite_eq, isFinite_eq, unpacked_abs]
  cases unpacked x <;> rfl

theorem tame_apply_sign (sign : Sign) (x : Float) : tame (sign.apply x) = tame x := by
  have hFinite : (sign.apply x).isFinite = x.isFinite := by
    rw [← isFinite_abs, abs_apply_sign, isFinite_abs]
  simp only [tame, hFinite, abs_apply_sign]

/-- Zero times a tame value is zero without a sign. -/
theorem tame_mul_zero (x : Float) : tame x * 0.0 = 0.0 := by
  apply unpacked_injective
  have hProduct : mul Format.binary64 (tamed (unpacked x)) (.zero .positive) =
      .zero .positive := by
    cases unpacked x <;> rfl
  rw [unpacked_mul, unpacked_tame, unpacked_zero, hProduct, stored_zero]

theorem zero_mul_tame (x : Float) : 0.0 * tame x = 0.0 := by
  apply unpacked_injective
  have hProduct : mul Format.binary64 (.zero .positive) (tamed (unpacked x)) =
      .zero .positive := by
    cases unpacked x <;> rfl
  rw [unpacked_mul, unpacked_tame, unpacked_zero, hProduct, stored_zero]

section Operations

variable {op : Op} {u v : UnpackedFloat}

theorem isFinite_roundWithAccuracy (format : Format) (s : UnpackedFloat.Sign) (m : Nat) (e : Int)
    (accuracy : Accuracy) : (roundWithAccuracy format s m e accuracy).isFinite = true := by
  simp only [roundWithAccuracy]
  split_ifs <;> rfl

theorem isFinite_normalize (format : Format) (m e : Int) (s : UnpackedFloat.Sign) :
    (UnpackedFloat.normalize format m e s).isFinite = true := by
  unfold UnpackedFloat.normalize
  split
  · exact isFinite_roundWithAccuracy ..
  · rfl
  · exact isFinite_roundWithAccuracy ..

/-- The operands on which an operation is ordinary arithmetic. -/
def Regular (op : Op) (u v : UnpackedFloat) : Prop :=
  u.isFinite = true ∧ v.isFinite = true ∧ (op = .div → isZero v = false)

theorem Regular.of_ne_div (hOp : op ≠ .div) (hu : u.isFinite = true) (hv : v.isFinite = true) :
    Regular op u v :=
  ⟨hu, hv, fun hDiv => absurd hDiv hOp⟩

theorem isFinite_add (hu : u.isFinite = true) (hv : v.isFinite = true) :
    (add Format.binary64 u v).isFinite = true := by
  cases u with
  | zero s =>
      cases v with
      | zero s' => cases s <;> cases s' <;> rfl
      | _ => exact hv
  | finite s m e hPos =>
      cases v with
      | finite => exact isFinite_normalize ..
      | infinity => cases hv
      | notANumber => cases hv
      | zero => rfl
  | infinity => cases hu
  | notANumber => cases hu

theorem isFinite_neg : u.neg.isFinite = u.isFinite := by
  cases u <;> rfl

/-- Finite operands give a finite exact result unless the divisor is a zero. -/
theorem Regular.isFinite_operate (h : Regular op u v) : (operate op u v).isFinite = true := by
  obtain ⟨hu, hv, hDiv⟩ := h
  rcases op with (_ | _) | (_ | _)
  · exact isFinite_add hu hv
  · simp only [operate, sub_eq_add_neg_unpacked]
    exact isFinite_add hu (isFinite_neg.trans hv)
  · cases u <;> cases v <;>
      first
      | exact Bool.noConfusion hu
      | exact Bool.noConfusion hv
      | rfl
      | exact isFinite_roundWithAccuracy ..
  · cases u <;> cases v <;>
      first
      | exact Bool.noConfusion hu
      | exact Bool.noConfusion hv
      | exact Bool.noConfusion (hDiv rfl)
      | rfl
      | exact isFinite_roundWithAccuracy ..

theorem not_isFinite_add (hIrregular : ¬ (u.isFinite = true ∧ v.isFinite = true)) :
    (add Format.binary64 u v).isFinite = false := by
  cases u with
  | notANumber => rfl
  | infinity s =>
      cases v with
      | infinity s' => cases s <;> cases s' <;> rfl
      | _ => rfl
  | zero s => cases v <;> first | rfl | exact absurd ⟨rfl, rfl⟩ hIrregular
  | finite s m e hPos => cases v <;> first | rfl | exact absurd ⟨rfl, rfl⟩ hIrregular

theorem not_isFinite_mul (hIrregular : ¬ (u.isFinite = true ∧ v.isFinite = true)) :
    (mul Format.binary64 u v).isFinite = false := by
  cases u <;> cases v <;> first | rfl | exact absurd ⟨rfl, rfl⟩ hIrregular

/-- Only a division by an infinity comes back to a finite value, and then to a zero. -/
theorem isZero_div (hIrregular : ¬ (u.isFinite = true ∧ v.isFinite = true ∧ isZero v = false))
    (hFinite : (div Format.binary64 u v).isFinite = true) :
    isZero (div Format.binary64 u v) = true := by
  cases u <;> cases v <;>
    first
    | rfl
    | exact Bool.noConfusion hFinite
    | exact absurd ⟨rfl, rfl, rfl⟩ hIrregular

/-- With an operand that is not finite, or a zero as divisor, a finite result is a zero. -/
theorem isZero_operate (hIrregular : ¬ Regular op u v)
    (hFinite : (operate op u v).isFinite = true) : isZero (operate op u v) = true := by
  rcases op with (_ | _) | (_ | _)
  · have hNone := not_isFinite_add fun h => hIrregular (.of_ne_div (by decide) h.1 h.2)
    exact absurd hFinite (by simp [operate, hNone])
  · have hNone := not_isFinite_add (v := v.neg) fun h =>
      hIrregular (.of_ne_div (by decide) h.1 (isFinite_neg ▸ h.2))
    rw [← sub_eq_add_neg_unpacked] at hNone
    exact absurd hFinite (by simp [operate, hNone])
  · have hNone := not_isFinite_mul fun h => hIrregular (.of_ne_div (by decide) h.1 h.2)
    exact absurd hFinite (by simp [operate, hNone])
  · exact isZero_div (fun h => hIrregular ⟨h.1, h.2.1, fun _ => h.2.2⟩) hFinite

end Operations

/-- The values that an expression over so many numbers can have: their leading bits stay close to
the unit place. -/
def Reachable (count : Nat) (x : Float) : Prop :=
  Within (68 * count - 60) (unpacked x)

section Values

variable {x y : Float} {count count' : Nat}

theorem reachable_toFloat (number : UInt8) : Reachable 1 number.toFloat := by
  have hWithin := within_ofNat number.toNat_lt
  rw [Reachable]
  change Within 8 (stored (ofNat Format.binary64 number.toNat))
  rwa [hWithin.stored_eq (by omega)]

/-- The number of a card is tame. -/
theorem tame_toFloat (number : UInt8) : tame number.toFloat = number.toFloat := by
  have hUnpacked : unpacked number.toFloat = ofNat Format.binary64 number.toNat :=
    (within_ofNat number.toNat_lt).stored_eq (by omega)
  have hFinite : number.toFloat.isFinite = true := by
    rw [isFinite_eq, hUnpacked]
    exact isFinite_normalize ..
  rw [tame_of_isFinite hFinite]
  apply unpacked_injective
  rw [unpacked_abs, hUnpacked]
  exact abs_normalize Format.binary64 number.toNat 0 .positive

theorem Reachable.apply_sign (sign : Sign) (h : Reachable count x) :
    Reachable count (sign.apply x) := by
  cases sign with
  | plus => exact h
  | minus =>
      change Within _ (unpacked (-x))
      rw [unpacked_neg]
      exact Within.neg h

/-- Short expressions do not overflow: what an operation gives is stored as it is. -/
theorem Reachable.unpacked_apply (op : Op) (hx : Reachable count x) (hy : Reachable count' y)
    (hPos : 0 < count) (hPos' : 0 < count') (hCount : count + count' ≤ 10) :
    unpacked (op.apply x y) = operate op (unpacked x) (unpacked y) ∧
      Reachable (count + count') (op.apply x y) := by
  have hWithin : Within (68 * (count + count') - 60) (operate op (unpacked x) (unpacked y)) :=
    (within_operate op hx hy (by omega)).mono (by omega)
  have hStored : unpacked (op.apply x y) = operate op (unpacked x) (unpacked y) := by
    rw [Double.unpacked_apply, hWithin.stored_eq (by omega)]
  exact ⟨hStored, by rwa [Reachable, hStored]⟩

theorem tame_mul_tame (h : ¬ x.isFinite = true ∨ ¬ y.isFinite = true ∨
    isZero (unpacked y) = true) : tame x * tame y = 0.0 := by
  rcases h with hx | hy | hy
  · rw [tame_eq_zero fun h => absurd h hx]
    exact zero_mul_tame y
  · rw [tame_eq_zero fun h => absurd h hy]
    exact tame_mul_zero x
  · rw [tame_eq_zero fun _ => hy]
    exact tame_mul_zero x

/-- Where an operation is ordinary arithmetic, the magnitudes are operands of an operation that
does not divide by zero. -/
theorem tame_apply_regular (op : Op) (hRegular : Regular op (unpacked x) (unpacked y))
    (hStored : unpacked (op.apply x y) = operate op (unpacked x) (unpacked y)) :
    ∃ op' : Op, (tame (op.apply x y) = op'.apply (tame x) (tame y) ∧
        (op' = .div → (tame y == 0.0) = false)) ∨
      (tame (op.apply x y) = op'.apply (tame y) (tame x) ∧
        (op' = .div → (tame x == 0.0) = false)) := by
  have hFinite : (op.apply x y).isFinite = true := by
    rw [isFinite_eq, hStored]
    exact hRegular.isFinite_operate
  rw [tame_of_isFinite hFinite, tame_of_isFinite hRegular.1, tame_of_isFinite hRegular.2.1]
  cases op with
  | additive sign =>
      rcases abs_combine_sign x y sign with h | h | h
      · exact ⟨.add, .inl ⟨h, fun hDiv => nomatch hDiv⟩⟩
      · exact ⟨.sub, .inl ⟨h, fun hDiv => nomatch hDiv⟩⟩
      · exact ⟨.sub, .inr ⟨h, fun hDiv => nomatch hDiv⟩⟩
  | multiplicative scale =>
      refine ⟨.multiplicative scale, .inl ⟨abs_combine_scale x y scale, fun hDiv => ?_⟩⟩
      have hDivisor := hRegular.2.2 hDiv
      rw [beq_zero, unpacked_abs]
      cases hUnpacked : unpacked y <;> simp_all [isZero, UnpackedFloat.abs]

/-- Whatever an operation does to two values, some operation that does not divide by zero does to
their tame forms, in one order or the other. Where the operation itself is irregular, the product
of the tame forms is zero. -/
theorem tame_apply (op : Op) (hx : Reachable count x) (hy : Reachable count' y)
    (hPos : 0 < count) (hPos' : 0 < count') (hCount : count + count' ≤ 10) :
    ∃ op' : Op, (tame (op.apply x y) = op'.apply (tame x) (tame y) ∧
        (op' = .div → (tame y == 0.0) = false)) ∨
      (tame (op.apply x y) = op'.apply (tame y) (tame x) ∧
        (op' = .div → (tame x == 0.0) = false)) := by
  obtain ⟨hStored, -⟩ := hx.unpacked_apply op hy hPos hPos' hCount
  by_cases hRegular : Regular op (unpacked x) (unpacked y)
  · exact tame_apply_regular op hRegular hStored
  · refine ⟨.mul, .inl ⟨?_, fun hDiv => nomatch hDiv⟩⟩
    have hResult : tame (op.apply x y) = 0.0 := tame_eq_zero fun hFinite => by
      rw [isFinite_eq, hStored] at hFinite
      rw [hStored]
      exact isZero_operate hRegular hFinite
    have hProduct : tame x * tame y = 0.0 := by
      by_cases hx : x.isFinite = true
      · by_cases hy : y.isFinite = true
        · cases hZero : isZero (unpacked y) with
          | false => exact absurd ⟨hx, hy, fun _ => hZero⟩ hRegular
          | true => exact tame_mul_tame (.inr (.inr hZero))
        · exact tame_mul_tame (.inr (.inl hy))
      · exact tame_mul_tame (.inl hx)
    rw [hResult]
    exact hProduct.symm

end Values

end Make24.Double
