import Mathlib
import Make24.Proofs.Submission.Acceptance
import Make24.Proofs.Submission.Splitting

/-! Which gate rejects a submission. The first five numbers of a text, their lengths and how many
there are decide the first gate; the other gates are asked only of four short numbers. -/

namespace Make24

open Submission Token

/-- Numbers in different parts of a text are numbers of the text. -/
theorem numerals_append {before after : List Char} (h : Apart before after) :
    numerals (before ++ after) = numerals before ++ numerals after := by
  simp only [numerals_eq, scan_append h, digitRuns_append, List.map_append]

/-- A run of digits is one number. -/
theorem numerals_run {run : List Char} (hSome : run ≠ []) (hDigits : ∀ c ∈ run, c.isDigit = true) :
    numerals run = [run] := by
  have hRun := map_digitChar_filterMap_digit? hDigits
  have hDigitsSome : run.filterMap digit? ≠ [] := by
    intro hNil
    rw [hNil] at hRun
    exact hSome hRun.symm
  have hScan : scan ((run.filterMap digit?).map digitChar ++ []) =
      .number (run.filterMap digit?) :: scan [] := scan_digits_append hDigitsSome (by simp)
  rw [hRun, List.append_nil] at hScan
  rw [numerals_eq, hScan, digitRuns_number_cons]
  exact congrArg (· :: []) hRun

namespace Submission

/-- The first gate, taken from the characters of the text. -/
theorem readNumbers_scan (text : List Char) :
    readNumbers 0 Round.size (digitRuns (scan text)) =
      if ((numerals text).take 5).any (3 ≤ ·.length) then .error .numberTooLong
      else if 5 ≤ (numerals text).length then .error .numberMismatch
      else if (numerals text).length < 4 then .error (.tooFewNumbers (numerals text).length)
      else .ok ((numerals text).map decimal) := by
  rw [readNumbers_eq, map_decimal_numerals, numerals_eq, ← List.map_take, List.any_map,
    List.length_map, Nat.zero_add]
  simp only [Function.comp_def, List.length_map]
  rfl

/-- The last gate says where or how deep, and nothing that an earlier gate says. -/
theorem rejection_of_read {tokens : List Token} {rejection : Rejection}
    (h : ((Sum.read tokens).mapError rejectionOf).map Sum.value = .error rejection) :
    (∃ position, rejection = .malformed position) ∨ rejection = .nestingTooDeep := by
  cases hRead : Sum.read tokens with
  | ok sum =>
      rw [hRead] at h
      cases h
  | error fault =>
      rw [hRead] at h
      cases h
      cases fault with
      | malformed position => exact .inl ⟨position, rfl⟩
      | nestingTooDeep => exact .inr rfl

end Submission

/-- What a submission comes to, gate by gate, taken from the characters of the text. -/
theorem evaluate_eq (text : String) (round : Round) :
    evaluate text round =
      if ((numerals text.toList).take 5).any (3 ≤ ·.length) then .error .numberTooLong
      else if 5 ≤ (numerals text.toList).length then .error .numberMismatch
      else if (numerals text.toList).length < 4 then
        .error (.tooFewNumbers (numerals text.toList).length)
      else if ¬ ((numerals text.toList).map decimal).Perm (round.numbers.toList.map UInt8.toNat)
        then .error .numberMismatch
      else match text.toList.find? (fun c => !isPermitted c) with
        | some c => .error (.forbiddenCharacter c)
        | none => ((Sum.read (scan text.toList)).mapError rejectionOf).map Sum.value := by
  unfold evaluate accept
  rw [readNumbers_scan, firstForeign?_scan]
  split_ifs with hLong hMany hFew hCards
  · rfl
  · rfl
  · rfl
  · simp only [usesCards_iff.mpr hCards, if_true]
    cases text.toList.find? fun c => !isPermitted c <;> rfl
  · simp only [mt usesCards_iff.mp hCards]
    rfl

/-- The first gate that a text does not pass decides what is reported. The gates are, in order: none
of the first five runs of digits has three digits; there are no five runs; there are four; they
denote the numbers of the cards; every character may stand in an expression; the text is an
expression. What the last gate reports is told apart from the others, runs behind the fifth decide
nothing, and a run may end with the text. -/
theorem evaluate_eq_first_gate (text : String) (round : Round) :
    evaluate text round =
        (if ((numerals text.toList).take 5).any (3 ≤ ·.length) then .error .numberTooLong
        else if 5 ≤ (numerals text.toList).length then .error .numberMismatch
        else if (numerals text.toList).length < 4 then
          .error (.tooFewNumbers (numerals text.toList).length)
        else if ¬ ((numerals text.toList).map decimal).Perm (round.numbers.toList.map UInt8.toNat)
          then .error .numberMismatch
        else match text.toList.find? (fun c => !isPermitted c) with
          | some c => .error (.forbiddenCharacter c)
          | none => ((Sum.read (scan text.toList)).mapError rejectionOf).map Sum.value) ∧
      (∀ rejection,
        ((Sum.read (scan text.toList)).mapError rejectionOf).map Sum.value = .error rejection →
        (∃ position, rejection = .malformed position) ∨ rejection = .nestingTooDeep) ∧
      (∀ other : String, 5 ≤ (numerals text.toList).length →
        (numerals other.toList).take 5 = (numerals text.toList).take 5 →
        evaluate other round = evaluate text round) ∧
      ∀ before run : List Char, (∀ c ∈ before.getLast?, c.isDigit = false) → run ≠ [] →
        (∀ c ∈ run, c.isDigit = true) → numerals (before ++ run) = numerals before ++ [run] := by
  refine ⟨evaluate_eq text round, fun _ h => rejection_of_read h, fun other hFive hSame => ?_,
    fun before run hBefore hSome hDigits => ?_⟩
  · have hOther : 5 ≤ (numerals other.toList).length := by
      have hLength := congrArg List.length hSame
      rw [List.length_take, List.length_take] at hLength
      omega
    rw [evaluate_eq other, evaluate_eq text, hSame, if_pos hFive, if_pos hOther]
  · have hApart : Apart before run := by
      intro a ha b _ hDigit
      exact absurd hDigit (by simp [hBefore a ha])
    rw [numerals_append hApart, numerals_run hSome hDigits]

/-- Behind five runs a longer one is not looked at; the run at the end of a text is one. -/
theorem evaluate_eq_first_gate_five :
    (5 ≤ (numerals "1 2 3 4 5".toList).length ∧
      (numerals "1 2 3 4 5 678".toList).take 5 = (numerals "1 2 3 4 5".toList).take 5 ∧
      evaluate "1 2 3 4 5 678" ⟨#v[⟨.spades, 1⟩, ⟨.spades, 2⟩, ⟨.spades, 3⟩, ⟨.spades, 4⟩]⟩ =
        evaluate "1 2 3 4 5" ⟨#v[⟨.spades, 1⟩, ⟨.spades, 2⟩, ⟨.spades, 3⟩, ⟨.spades, 4⟩]⟩) ∧
    (∀ c ∈ "1 ".toList.getLast?, c.isDigit = false) ∧ "23".toList ≠ [] ∧
      (∀ c ∈ "23".toList, c.isDigit = true) ∧
      numerals ("1 ".toList ++ "23".toList) = numerals "1 ".toList ++ ["23".toList] := by
  have hGate := evaluate_eq_first_gate "1 2 3 4 5"
    ⟨#v[⟨.spades, 1⟩, ⟨.spades, 2⟩, ⟨.spades, 3⟩, ⟨.spades, 4⟩]⟩
  have hFive : 5 ≤ (numerals "1 2 3 4 5".toList).length := by decide
  have hSame : (numerals "1 2 3 4 5 678".toList).take 5 =
      (numerals "1 2 3 4 5".toList).take 5 := by decide
  have hBlank : ∀ c ∈ "1 ".toList.getLast?, c.isDigit = false := by
    rintro c ⟨⟩
    rfl
  have hDigits : ∀ c ∈ "23".toList, c.isDigit = true := by simp
  exact ⟨⟨hFive, hSame, hGate.2.2.1 _ hFive hSame⟩, hBlank, by decide, hDigits,
    hGate.2.2.2 _ _ hBlank (by decide) hDigits⟩

end Make24
