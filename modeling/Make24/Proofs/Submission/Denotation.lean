import Mathlib
import Make24.Proofs.Submission.Numerals

/-! What a derivation denotes, rule by rule. The rules name the operations of binary floating point
themselves and give a number the value that it has in decimal, so they depend neither on how values
are computed nor on how digits are read. For numbers of one or two digits the two come to the same.
-/

namespace Make24

mutual
/-- What a sum denotes: terms are added to and taken from what is on their left. -/
inductive Sum.Denotes : Sum → Float → Prop where
  | single {product : Product} {a : Float} (hProduct : Product.Denotes product a) :
      Sum.Denotes (.single product) a
  | plus {left : Sum} {right : Product} {a b : Float} (hLeft : Sum.Denotes left a)
      (hRight : Product.Denotes right b) : Sum.Denotes (.extend left .plus right) (a + b)
  | minus {left : Sum} {right : Product} {a b : Float} (hLeft : Sum.Denotes left a)
      (hRight : Product.Denotes right b) : Sum.Denotes (.extend left .minus right) (a - b)

/-- What a product denotes: what is on the left of a factor is multiplied or divided by it. -/
inductive Product.Denotes : Product → Float → Prop where
  | single {factor : Factor} {a : Float} (hFactor : Factor.Denotes factor a) :
      Product.Denotes (.single factor) a
  | multiply {left : Product} {right : Factor} {a b : Float} (hLeft : Product.Denotes left a)
      (hRight : Factor.Denotes right b) : Product.Denotes (.extend left .multiply right) (a * b)
  | divide {left : Product} {right : Factor} {a b : Float} (hLeft : Product.Denotes left a)
      (hRight : Factor.Denotes right b) : Product.Denotes (.extend left .divide right) (a / b)

/-- What a factor denotes. A sign applies to the factor behind it alone. -/
inductive Factor.Denotes : Factor → Float → Prop where
  | number (digits : Digits) : Factor.Denotes (.number digits) digits.toNat.toFloat
  | plus {operand : Factor} {a : Float} (hOperand : Factor.Denotes operand a) :
      Factor.Denotes (.signed .plus operand) a
  | minus {operand : Factor} {a : Float} (hOperand : Factor.Denotes operand a) :
      Factor.Denotes (.signed .minus operand) (-a)
  | group {inner : Sum} {a : Float} (hInner : Sum.Denotes inner a) :
      Factor.Denotes (.group inner) a
end

/-- One or two digits. -/
def Digits.Short (digits : Digits) : Prop := digits ≠ [] ∧ digits.length ≤ 2

mutual
/-- A sum of short numbers denotes its value and nothing else. -/
theorem Sum.denotes_iff (sum : Sum) {v : Float} (hShort : ∀ digits ∈ sum.numerals, digits.Short) :
    sum.Denotes v ↔ sum.value = v := by
  cases sum with
  | single product =>
      constructor
      · rintro ⟨hProduct⟩
        exact (product.denotes_iff hShort).mp hProduct
      · intro hValue
        exact .single ((product.denotes_iff hShort).mpr hValue)
  | extend left sign right =>
      simp only [Sum.numerals, List.mem_append, or_imp, forall_and] at hShort
      constructor
      · rintro (_ | ⟨hLeft, hRight⟩ | ⟨hLeft, hRight⟩) <;>
          rw [Sum.value, (left.denotes_iff hShort.1).mp hLeft,
            (right.denotes_iff hShort.2).mp hRight] <;> rfl
      · rintro rfl
        have hLeft := (left.denotes_iff hShort.1).mpr rfl
        have hRight := (right.denotes_iff hShort.2).mpr rfl
        cases sign with
        | plus => exact .plus hLeft hRight
        | minus => exact .minus hLeft hRight

theorem Product.denotes_iff (product : Product) {v : Float}
    (hShort : ∀ digits ∈ product.numerals, digits.Short) :
    product.Denotes v ↔ product.value = v := by
  cases product with
  | single factor =>
      constructor
      · rintro ⟨hFactor⟩
        exact (factor.denotes_iff hShort).mp hFactor
      · intro hValue
        exact .single ((factor.denotes_iff hShort).mpr hValue)
  | extend left scale right =>
      simp only [Product.numerals, List.mem_append, or_imp, forall_and] at hShort
      constructor
      · rintro (_ | ⟨hLeft, hRight⟩ | ⟨hLeft, hRight⟩) <;>
          rw [Product.value, (left.denotes_iff hShort.1).mp hLeft,
            (right.denotes_iff hShort.2).mp hRight] <;> rfl
      · rintro rfl
        have hLeft := (left.denotes_iff hShort.1).mpr rfl
        have hRight := (right.denotes_iff hShort.2).mpr rfl
        cases scale with
        | multiply => exact .multiply hLeft hRight
        | divide => exact .divide hLeft hRight

theorem Factor.denotes_iff (factor : Factor) {v : Float}
    (hShort : ∀ digits ∈ factor.numerals, digits.Short) :
    factor.Denotes v ↔ factor.value = v := by
  cases factor with
  | number digits =>
      obtain ⟨hSome, hLength⟩ := hShort digits List.mem_cons_self
      rw [Factor.value, Digits.value_eq hSome hLength]
      constructor
      · rintro ⟨⟩
        rfl
      · rintro rfl
        exact .number digits
  | signed sign operand =>
      constructor
      · rintro (_ | hOperand | hOperand) <;>
          rw [Factor.value, (operand.denotes_iff hShort).mp hOperand] <;> rfl
      · rintro rfl
        have hOperand := (operand.denotes_iff hShort).mpr rfl
        cases sign with
        | plus => exact .plus hOperand
        | minus => exact .minus hOperand
  | group inner =>
      constructor
      · rintro ⟨⟩
        exact (inner.denotes_iff hShort).mp ‹_›
      · intro hValue
        exact .group ((inner.denotes_iff hShort).mpr hValue)
end

end Make24
