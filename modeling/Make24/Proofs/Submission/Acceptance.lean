import Mathlib
import Make24.Proofs.Submission.Denotation
import Make24.Proofs.Submission.Derivation

/-! Which submissions have a value. The gates are passed by a text that holds the numbers of the
cards and nothing foreign and that writes a derivation, not nested too deeply. There is at most one
such derivation, and its value is the value of the submission. -/

namespace Make24

/-- A text plays a derivation in a round. -/
structure Plays (text : List Char) (round : Round) (sum : Sum) : Prop where
  four : (numerals text).length = Round.size
  short : ∀ run ∈ numerals text, run.length ≤ Submission.digitLimit
  cards : ((numerals text).map decimal).Perm (round.numbers.toList.map UInt8.toNat)
  spells : Spells text sum.tokens
  nesting : sum.nesting ≤ nestingLimit

namespace Submission

open Token

/-- What the lengths of the numbers decide: those that are looked at are one more than there is room
for, and one that is too long goes before one that has no room. -/
theorem readNumbers_eq (found room : Nat) (runs : List Digits) :
    readNumbers found room runs =
      if (runs.take (room + 1)).any (digitLimit < ·.length) then .error .numberTooLong
      else if room < runs.length then .error .numberMismatch
      else if runs.length < room then .error (.tooFewNumbers (found + runs.length))
      else .ok (runs.map Digits.toNat) := by
  fun_induction readNumbers found room runs with
  | case1 found => simp
  | case2 found room => simp
  | case3 found room run rest hLong => simp [hLong]
  | case4 found run rest hLong => simp [hLong]
  | case5 found run rest hLong room later hRest ih =>
      rw [hRest] at ih
      simp only [List.take_succ_cons, List.any_cons, hLong, decide_false, Bool.false_or,
        List.length_cons, Nat.succ_eq_add_one, Nat.add_lt_add_iff_right, List.map_cons]
      split_ifs at ih ⊢
      rw [Except.ok.inj ih]
  | case6 found run rest hLong room rejection hRest ih =>
      rw [hRest] at ih
      simp only [List.take_succ_cons, List.any_cons, hLong, decide_false, Bool.false_or,
        List.length_cons, Nat.succ_eq_add_one, Nat.add_lt_add_iff_right, List.map_cons]
      rw [Nat.add_assoc, Nat.add_comm 1] at ih
      split_ifs at ih ⊢ <;> exact ih

/-- Numbers are read if there are as many as looked for and none is too long. -/
theorem readNumbers_eq_ok_iff {found room : Nat} {runs : List Digits} {numbers : List Nat} :
    readNumbers found room runs = .ok numbers ↔
      runs.length = room ∧ (∀ run ∈ runs, run.length ≤ digitLimit) ∧
        numbers = runs.map Digits.toNat := by
  rw [readNumbers_eq]
  split_ifs with hLong hMany hFew
  · obtain ⟨run, hMem, hRun⟩ := List.any_eq_true.mp hLong
    rw [false_iff]
    rintro ⟨-, hShort, -⟩
    exact absurd (hShort run (List.mem_of_mem_take hMem)) (by simpa using hRun)
  · rw [false_iff]
    omega
  · rw [false_iff]
    omega
  · rw [List.take_of_length_le (by omega), List.any_eq_true] at hLong
    simp only [Except.ok.injEq, eq_comm (a := numbers)]
    refine ⟨fun hNumbers => ⟨by omega, fun run hMem => ?_, hNumbers⟩, fun h => h.2.2⟩
    by_contra hRun
    exact hLong ⟨run, hMem, by simpa using hRun⟩

/-- One number that is too long, among no more than looked for, is what gets reported. -/
theorem readNumbers_eq_numberTooLong {found room : Nat} {runs : List Digits}
    (hRoom : runs.length ≤ room) (hLong : ∃ run ∈ runs, digitLimit < run.length) :
    readNumbers found room runs = .error .numberTooLong := by
  rw [readNumbers_eq, List.take_of_length_le (Nat.le_succ_of_le hRoom), if_pos]
  simpa using hLong

/-- Numbers are those of the cards if they are the same up to their order. -/
theorem usesCards_iff {round : Round} {numbers : List Nat} :
    usesCards round numbers = true ↔ numbers.Perm (round.numbers.toList.map UInt8.toNat) :=
  List.isPerm_iff

/-- What is accepted has passed each gate. -/
theorem accept_eq_ok_iff {tokens : List Token} {round : Round} {sum : Sum} :
    accept tokens round = .ok sum ↔
      ((digitRuns tokens).length = Round.size ∧
        (∀ run ∈ digitRuns tokens, run.length ≤ digitLimit) ∧
        ((digitRuns tokens).map Digits.toNat).Perm (round.numbers.toList.map UInt8.toNat)) ∧
      firstForeign? tokens = none ∧ Sum.read tokens = .ok sum := by
  unfold accept
  cases hNumbers : readNumbers 0 Round.size (digitRuns tokens) with
  | error rejection =>
      simp only [reduceCtorEq, false_iff]
      rintro ⟨⟨hLength, hShort, -⟩, -⟩
      have hRead : readNumbers 0 Round.size (digitRuns tokens) = .ok _ :=
        readNumbers_eq_ok_iff.mpr ⟨hLength, hShort, rfl⟩
      rw [hNumbers] at hRead
      cases hRead
  | ok numbers =>
      obtain ⟨hLength, hShort, rfl⟩ := readNumbers_eq_ok_iff.mp hNumbers
      simp only [hLength, ← usesCards_iff, true_and]
      cases hCards : usesCards round ((digitRuns tokens).map Digits.toNat) with
      | false => simp
      | true =>
          cases hForeign : firstForeign? tokens with
          | some c => simp
          | none =>
              cases hRead : Sum.read tokens with
              | error e => simp [Except.mapError]
              | ok other => simpa [Except.mapError] using fun _ => hShort

/-- A text is accepted for the derivation that it plays. -/
theorem accept_scan_eq_ok_iff {text : List Char} {round : Round} {sum : Sum} :
    accept (scan text) round = .ok sum ↔ Plays text round sum := by
  have hLengths : (∀ run ∈ digitRuns (scan text), run.length ≤ digitLimit) ↔
      ∀ run ∈ numerals text, run.length ≤ digitLimit := by
    rw [numerals_eq, List.forall_mem_map]
    simp only [List.length_map]
  have hLength : (digitRuns (scan text)).length = (numerals text).length := by
    rw [numerals_eq, List.length_map]
  rw [accept_eq_ok_iff, Sum.read_eq_ok_iff, hLengths, hLength, ← map_decimal_numerals]
  constructor
  · rintro ⟨⟨hFour, hShort, hCards⟩, hForeign, hTokens, hNesting⟩
    exact ⟨hFour, hShort, hCards, spells_iff.mpr ⟨hTokens, hForeign⟩, hNesting⟩
  · rintro ⟨hFour, hShort, hCards, hSpells, hNesting⟩
    obtain ⟨hTokens, hForeign⟩ := spells_iff.mp hSpells
    exact ⟨⟨hFour, hShort, hCards⟩, hForeign, hTokens, hNesting⟩

end Submission

theorem Spells.digitRuns_scan {text : List Char} {sum : Sum} (h : Spells text sum.tokens) :
    Submission.digitRuns (Token.scan text) = sum.numerals := by
  rw [← Submission.digitRuns_meaningful, ← h.scan.1, sum.digitRuns_tokens]

/-- The numbers of a derivation are the runs of digits of the text that writes it. -/
theorem Spells.map_numerals {text : List Char} {sum : Sum} (h : Spells text sum.tokens) :
    sum.numerals.map (·.map digitChar) = numerals text := by
  rw [Submission.numerals_eq, h.digitRuns_scan]

/-- A text writes one derivation at most. -/
theorem Spells.iff_eq {text : List Char} {sum : Sum} (h : Spells text sum.tokens) (other : Sum) :
    Spells text other.tokens ↔ other = sum := by
  constructor
  · intro hOther
    exact Sum.tokens_injective (hOther.scan.1.trans h.scan.1.symm)
  · rintro rfl
    exact h

namespace Plays

variable {text : List Char} {round : Round} {sum : Sum}

theorem map_numerals (plays : Plays text round sum) :
    sum.numerals.map (·.map digitChar) = numerals text :=
  plays.spells.map_numerals

/-- The numbers of the derivation are those of the cards. -/
theorem perm (plays : Plays text round sum) :
    (sum.numerals.map Digits.toNat).Perm (round.numbers.toList.map UInt8.toNat) := by
  have hCards := plays.cards
  rw [← plays.map_numerals, List.map_map] at hCards
  simpa only [Function.comp_def, Submission.decimal_map_digitChar] using hCards

/-- A number of the derivation has one or two digits. -/
theorem short_digits (plays : Plays text round sum) {digits : Digits}
    (hMem : digits ∈ sum.numerals) : digits.Short := by
  have hRun : digits.map digitChar ∈ numerals text := by
    rw [← plays.map_numerals]
    exact List.mem_map_of_mem hMem
  have hSome := (List.mem_filter.mp hRun).2
  have hShort := plays.short _ hRun
  rw [List.length_map] at hShort
  exact ⟨by simpa using hSome, hShort⟩

/-- The numbers of the derivation have the values of the runs of digits. -/
theorem map_value (plays : Plays text round sum) :
    sum.numerals.map Digits.value = (numerals text).map fun run => (decimal run).toFloat := by
  rw [← plays.map_numerals, List.map_map]
  refine List.map_congr_left fun digits hMem => ?_
  obtain ⟨hSome, hShort⟩ := plays.short_digits hMem
  rw [Digits.value_eq hSome hShort, Function.comp_apply, Submission.decimal_map_digitChar]

/-- The derivation denotes its value. -/
theorem denotes_iff (plays : Plays text round sum) {v : Float} :
    sum.Denotes v ↔ sum.value = v :=
  sum.denotes_iff fun _ hMem => plays.short_digits hMem

end Plays

/-- A submission has the value of the derivation that it plays. -/
theorem evaluate_eq_ok {text : String} {round : Round} {v : Float} :
    evaluate text round = .ok v ↔ ∃ sum, Plays text.toList round sum ∧ sum.value = v := by
  unfold evaluate
  cases hAccept : Submission.accept (Token.scan text.toList) round with
  | error rejection =>
      simp only [Except.map, reduceCtorEq, false_iff]
      rintro ⟨sum, plays, -⟩
      rw [Submission.accept_scan_eq_ok_iff.mpr plays] at hAccept
      cases hAccept
  | ok sum =>
      have hPlays := Submission.accept_scan_eq_ok_iff.mp hAccept
      simp only [Except.map, Except.ok.injEq]
      constructor
      · exact fun hValue => ⟨sum, hPlays, hValue⟩
      · rintro ⟨other, plays, hValue⟩
        rwa [(hPlays.spells.iff_eq other).mp plays.spells] at hValue

/-- A text has the value `v` in a round exactly if

* its runs of digits are four, of one or two digits each, and denote the numbers of the cards in any
  order;
* it holds digits, operators, parentheses and white space only;
* it writes one and only one derivation, in which no more than 128 parentheses and signs are open at
  once, the numbers are those runs of digits in order, and the value is `v`. That is what the
  derivation denotes: plus and minus, times and divided by in floating point from left to right,
  signs before them, and for each number what its run of digits denotes. -/
theorem evaluate_eq_ok_iff (text : String) (round : Round) (v : Float) :
    evaluate text round = .ok v ↔
      ((numerals text.toList).length = 4 ∧
        (∀ run ∈ numerals text.toList, run.length = 1 ∨ run.length = 2) ∧
        ((numerals text.toList).map decimal).Perm (round.numbers.toList.map UInt8.toNat)) ∧
      (∀ c ∈ text.toList,
        c.isDigit = true ∨ c ∈ ['+', '-', '*', '/', '(', ')'] ∨ Text.isBlank c = true) ∧
      ∃ sum : Sum, (∀ other : Sum, Spells text.toList other.tokens ↔ other = sum) ∧
        sum.nesting ≤ 128 ∧
        sum.numerals.map (·.map digitChar) = numerals text.toList ∧
        sum.numerals.map Digits.value =
          (numerals text.toList).map (fun run => (decimal run).toFloat) ∧
        sum.value = v ∧ ∀ w, sum.Denotes w ↔ w = v := by
  rw [evaluate_eq_ok]
  constructor
  · rintro ⟨sum, plays, hValue⟩
    refine ⟨⟨plays.four, ?_, plays.cards⟩, ?_, sum, plays.spells.iff_eq, plays.nesting,
      plays.map_numerals, plays.map_value, hValue, fun w => ?_⟩
    · intro run hRun
      have hSome : run ≠ [] := by simpa using (List.mem_filter.mp hRun).2
      have hPos := List.length_pos_iff.mpr hSome
      have hShort : run.length ≤ 2 := plays.short run hRun
      omega
    · have hForeign := (spells_iff.mp plays.spells).2
      rw [firstForeign?_scan, List.find?_eq_none] at hForeign
      intro c hMem
      rw [← isPermitted_iff]
      simpa using hForeign c hMem
    · rw [plays.denotes_iff, hValue, eq_comm]
  · rintro ⟨⟨hFour, hShort, hCards⟩, -, sum, hUnique, hNesting, -, -, hValue, -⟩
    refine ⟨sum, ⟨hFour, ?_, hCards, (hUnique sum).mpr rfl, hNesting⟩, hValue⟩
    intro run hRun
    change run.length ≤ 2
    have hLength := hShort run hRun
    omega

end Make24
