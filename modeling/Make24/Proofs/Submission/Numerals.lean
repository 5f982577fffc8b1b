import Mathlib
import Make24.Proofs.Submission.Spelling

/-! The numbers of a submission, taken from its characters alone. The runs of digits that are looked
at before the text is read are those that its derivation has at the leaves, and every run of at most
two digits is read as the same number in both places. -/

namespace Make24

/-- The maximal runs of digits of a text, in order. -/
def numerals (text : List Char) : List (List Char) :=
  (text.splitOnP fun c => !c.isDigit).filter (· ≠ [])

/-- The number that a run of digits denotes. -/
def decimal (run : List Char) : Nat :=
  run.foldl (fun n c => n * 10 + (c.toNat - '0'.toNat)) 0

/-- The digits that a number is written with. -/
def Digits.ofNat (n : Nat) : Digits := (Nat.toDigits 10 n).filterMap digit?

mutual
/-- The numbers of a sum, in the order in which they are written. -/
def Sum.numerals : Sum → List Digits
  | .single product => product.numerals
  | .extend left _ right => left.numerals ++ right.numerals

/-- The numbers of a product, in the order in which they are written. -/
def Product.numerals : Product → List Digits
  | .single factor => factor.numerals
  | .extend left _ right => left.numerals ++ right.numerals

/-- The numbers of a factor, in the order in which they are written. -/
def Factor.numerals : Factor → List Digits
  | .number digits => [digits]
  | .signed _ operand => operand.numerals
  | .group inner => inner.numerals
end

namespace Submission

open Token

theorem digitRuns_append (tokens tokens' : List Token) :
    digitRuns (tokens ++ tokens') = digitRuns tokens ++ digitRuns tokens' :=
  List.filterMap_append

theorem digitRuns_number_cons (digits : Digits) (tokens : List Token) :
    digitRuns (.number digits :: tokens) = digits :: digitRuns tokens := rfl

theorem digitRuns_ofChar_cons (c : Char) (tokens : List Token) :
    digitRuns (ofChar c :: tokens) = digitRuns tokens := by
  unfold ofChar
  split <;> try rfl
  split <;> rfl

/-- Blanks are not numbers. -/
theorem digitRuns_meaningful (tokens : List Token) :
    digitRuns (meaningful tokens) = digitRuns tokens := by
  induction tokens with
  | nil => rfl
  | cons token tokens ih =>
      cases token with
      | number digits => exact congrArg (digits :: ·) ih
      | _ => exact ih

/-- Splitting a text at what is not a digit gives the number in front, or nothing where there is
none, and then the other numbers of the text among empty pieces. -/
def Splits (text : List Char) : Prop :=
  (∃ digits tokens later, digits ≠ [] ∧ scan text = .number digits :: tokens ∧
      text.splitOnP (fun c => !c.isDigit) = digits.map digitChar :: later ∧
      later.filter (· ≠ []) = (digitRuns tokens).map (·.map digitChar)) ∨
    ∃ later, (∀ digits tokens, scan text ≠ .number digits :: tokens) ∧
      text.splitOnP (fun c => !c.isDigit) = [] :: later ∧
      later.filter (· ≠ []) = (digitRuns (scan text)).map (·.map digitChar)

theorem Splits.numerals_eq {text : List Char} (h : Splits text) :
    numerals text = (digitRuns (scan text)).map (·.map digitChar) := by
  unfold numerals
  rcases h with ⟨digits, tokens, later, hSome, hScan, hSplit, hLater⟩ | ⟨later, -, hSplit, hLater⟩
  · rw [hSplit, hScan, digitRuns_number_cons, List.map_cons, ← hLater]
    exact List.filter_cons_of_pos (by simpa using hSome)
  · rw [hSplit, ← hLater]
    rfl

theorem splits (text : List Char) : Splits text := by
  induction text with
  | nil => exact .inr ⟨[], scan_ne_number (by simp), rfl, rfl⟩
  | cons c text ih =>
      unfold Splits
      rw [scan_cons, List.splitOnP_cons_eq_if_modifyHead]
      cases hDigit : c.isDigit with
      | false =>
          -- the piece in front is empty and what follows is split as before
          rw [push_of_not_isDigit hDigit, if_pos (by rfl), digitRuns_ofChar_cons]
          refine .inr ⟨_, fun digits tokens hScan => ?_, rfl, ih.numerals_eq⟩
          exact ofChar_ne_number c digits (List.cons.inj hScan).1
      | true =>
          -- the digit joins the piece in front
          obtain ⟨d, rfl⟩ := exists_digitChar hDigit
          rw [if_neg (by simp)]
          rcases ih with ⟨digits, tokens, later, hSome, hScan, hSplit, hLater⟩ |
            ⟨later, hNumber, hSplit, hLater⟩
          · refine .inl ⟨d :: digits, tokens, later, List.cons_ne_nil d digits, ?_, ?_, hLater⟩
            · rw [hScan, push_digitChar_number]
            · rw [hSplit]
              rfl
          · refine .inl ⟨[d], scan text, later, List.cons_ne_nil d [], ?_, ?_, hLater⟩
            · rw [push_digitChar d hNumber]
            · rw [hSplit]
              rfl

/-- The runs of digits that are scanned are those of the text. -/
theorem numerals_eq (text : List Char) :
    numerals text = (digitRuns (scan text)).map (·.map digitChar) :=
  (splits text).numerals_eq

theorem toNat_digitChar (d : Fin 10) : (digitChar d).toNat - '0'.toNat = d.val := by
  revert d
  decide

/-- A run of digits denotes the number that it is scanned as. -/
theorem decimal_map_digitChar (digits : Digits) :
    decimal (digits.map digitChar) = digits.toNat := by
  simp only [decimal, Digits.toNat, List.foldl_map, toNat_digitChar]

theorem map_digitChar_filterMap_digit? {run : List Char} (h : ∀ c ∈ run, c.isDigit = true) :
    (run.filterMap digit?).map digitChar = run := by
  induction run with
  | nil => rfl
  | cons c run ih =>
      obtain ⟨d, rfl⟩ := exists_digitChar (h c List.mem_cons_self)
      rw [List.filterMap_cons_some (digit?_digitChar d), List.map_cons,
        ih fun c hMem => h c (List.mem_cons_of_mem _ hMem)]

theorem map_decimal_numerals (text : List Char) :
    (numerals text).map decimal = (digitRuns (scan text)).map Digits.toNat := by
  rw [numerals_eq, List.map_map]
  exact List.map_congr_left fun digits _ => decimal_map_digitChar digits

end Submission

namespace Digits

theorem map_digitChar_ofNat (n : Nat) : (ofNat n).map digitChar = Nat.toDigits 10 n :=
  Submission.map_digitChar_filterMap_digit? fun _ hMem =>
    Nat.isDigit_of_mem_toDigits (by omega) (by omega) hMem

theorem ofNat_ne_nil (n : Nat) : ofNat n ≠ [] := by
  intro hNil
  have hDigits := map_digitChar_ofNat n
  rw [hNil] at hDigits
  exact Nat.toDigits_ne_nil hDigits.symm

theorem toNat_ofNat (n : Nat) : (ofNat n).toNat = n := by
  rw [← Submission.decimal_map_digitChar, map_digitChar_ofNat, decimal]
  simpa only [Nat.ofDigitChars_eq_foldl, Nat.mul_comm] using Nat.ofDigitChars_ten_toDigits

theorem length_ofNat_le_iff (n : Nat) : (ofNat n).length ≤ 2 ↔ n < 100 := by
  rw [← List.length_map digitChar, map_digitChar_ofNat]
  exact Nat.length_toDigits_le_iff (by omega) (by omega)

end Digits

open Submission in
mutual
theorem Sum.digitRuns_tokens (sum : Sum) : digitRuns sum.tokens = sum.numerals := by
  cases sum with
  | single product => exact product.digitRuns_tokens
  | extend left sign right =>
      rw [Sum.tokens, digitRuns_append, left.digitRuns_tokens]
      exact congrArg _ right.digitRuns_tokens

theorem Product.digitRuns_tokens (product : Product) :
    digitRuns product.tokens = product.numerals := by
  cases product with
  | single factor => exact factor.digitRuns_tokens
  | extend left scale right =>
      rw [Product.tokens, digitRuns_append, left.digitRuns_tokens]
      exact congrArg _ right.digitRuns_tokens

theorem Factor.digitRuns_tokens (factor : Factor) :
    digitRuns factor.tokens = factor.numerals := by
  cases factor with
  | number digits => rfl
  | signed sign operand => exact operand.digitRuns_tokens
  | group inner =>
      have hInner := inner.digitRuns_tokens
      simp only [Factor.tokens, Factor.numerals, List.cons_append]
      change digitRuns (inner.tokens ++ [.closing]) = inner.numerals
      rw [digitRuns_append, hInner]
      exact List.append_nil _
end

namespace Digits

variable {digits : Digits}

theorem toNat_lt (hShort : digits.length ≤ 2) : digits.toNat < 100 := by
  match digits with
  | [] => simp [toNat]
  | [a] => simp [toNat]; omega
  | [a, b] => simp [toNat]; omega
  | _ :: _ :: _ :: _ => exact absurd hShort (by simp)

/-- A number of one or two digits is read without rounding. -/
theorem value_eq (hSome : digits ≠ []) (hShort : digits.length ≤ 2) :
    digits.value = digits.toNat.toFloat := by
  match digits with
  | [] => exact absurd rfl hSome
  | [a] => revert a; decide +kernel
  | [a, b] => revert a b; decide +kernel
  | _ :: _ :: _ :: _ => exact absurd hShort (by simp)

/-- A number of one or two digits is read as the number of a card. -/
theorem value_eq_toFloat {number : UInt8} (hSome : digits ≠ []) (hShort : digits.length ≤ 2)
    (hNumber : digits.toNat = number.toNat) : digits.value = number.toFloat := by
  have hCards : ∀ n : Fin 100, n.val.toFloat = (UInt8.ofNat n.val).toFloat := by
    decide +kernel
  calc
    digits.value = digits.toNat.toFloat := value_eq hSome hShort
    _ = (UInt8.ofNat digits.toNat).toFloat := hCards ⟨digits.toNat, toNat_lt hShort⟩
    _ = number.toFloat := by rw [hNumber, UInt8.ofNat_toNat]

end Digits

end Make24
