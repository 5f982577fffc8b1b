import Mathlib
import Make24.Proofs.Submission.Acceptance
import Make24.Proofs.Submission.Tracking

/-! The numbers of a submission in machine words. One pass over the characters counts the digits of
a run, works out the number that they denote in a byte and writes it to the next place of a row of
four. No count and no number leaves its word and nothing is written outside of the row, as a run is
given up at its third digit and a fifth number before it is written; and the row holds what the gate
reads. -/

namespace Make24

theorem isDigit_of_digit?_eq_none {c : Char} (h : digit? c = none) : c.isDigit = false := by
  cases hDigit : c.isDigit with
  | false => rfl
  | true =>
      obtain ⟨d, rfl⟩ := Token.exists_digitChar hDigit
      rw [Token.digit?_digitChar] at h
      cases h

/-- A run of digits in front is a part of the first number. -/
theorem exists_digitRuns_append (digits : Digits) (hSome : digits ≠ []) (text : List Char) :
    ∃ more runs, Submission.digitRuns (Token.scan (digits.map digitChar ++ text)) =
      (digits ++ more) :: runs := by
  have hMore : ((text.takeWhile Char.isDigit).filterMap digit?).map digitChar =
      text.takeWhile Char.isDigit :=
    Submission.map_digitChar_filterMap_digit? fun _ hMem => List.mem_takeWhile_imp hMem
  generalize (text.takeWhile Char.isDigit).filterMap digit? = more at hMore
  have hText : digits.map digitChar ++ text =
      (digits ++ more).map digitChar ++ text.dropWhile Char.isDigit := by
    rw [List.map_append, hMore, List.append_assoc, List.takeWhile_append_dropWhile]
  rw [hText, Token.scan_digits_append (List.append_ne_nil_of_left_ne_nil hSome more)
    (head_dropWhile Char.isDigit text), Submission.digitRuns_number_cons]
  exact ⟨more, _, rfl⟩

theorem Submission.readNumbers_of_lt {run : Digits} {runs : List Digits} {found room : Nat}
    (hLong : digitLimit < run.length) :
    readNumbers found room (run :: runs) = .error .numberTooLong := by
  rw [readNumbers_eq, if_pos (by simp [hLong])]

theorem Digits.toNat_concat (digits : Digits) (d : Fin 10) :
    Digits.toNat (digits ++ [d]) = digits.toNat * 10 + d.val := by
  rw [Digits.toNat, List.foldl_append]
  rfl

/-- What is kept in the pass over the characters. -/
structure Intake where
  numbers : Vector Nat Round.size
  /-- How many numbers are written to the row. -/
  count : Nat
  /-- The digits of the run that is not at its end. -/
  run : Nat
  /-- The number that they denote. -/
  value : Nat

namespace Intake

open Submission Token

def start : Intake := ⟨Vector.replicate Round.size 0, 0, 0, 0⟩

/-- The number of values of a byte. -/
def byteRange : Nat := 256

/-- Writes a number to a place of the row; outside of it there is none. -/
def write (numbers : Vector Nat Round.size) (place number : Nat) :
    Except Stop (Vector Nat Round.size) :=
  if h : place < Round.size then .ok (numbers.set place number h) else .error .fault

/-- A digit belongs to the run, and any other character is its end. -/
def step (intake : Intake) (c : Char) : Except Stop Intake :=
  match digit? c with
  | some d => do
      let run ← Stop.fit Stop.counterRange (intake.run + 1)
      if digitLimit < run then throw (.rejected .numberTooLong)
      let tens ← Stop.fit byteRange (intake.value * 10)
      let value ← Stop.fit byteRange (tens + d.val)
      return { intake with run, value }
  | none =>
      if 0 < intake.run then do
        if intake.count = Round.size then throw (.rejected .numberMismatch)
        let numbers ← write intake.numbers intake.count intake.value
        let count ← Stop.fit Stop.counterRange (intake.count + 1)
        return ⟨numbers, count, 0, 0⟩
      else return intake

/-- The row, if it is full. -/
def finish (last : Intake) : Except Stop (Vector Nat Round.size) :=
  if last.count < Round.size then .error (.rejected (.tooFewNumbers last.count))
  else .ok last.numbers

/-- The numbers of a text. A space behind the text is the end of its last run. -/
def extract (text : List Char) : Except Stop (Vector Nat Round.size) := do
  let last ← (text ++ [' ']).foldlM step start
  finish last

/-- The numbers found so far and the digits of the run stand in the words. -/
structure Holds (intake : Intake) (found : List Nat) (pending : Digits) : Prop where
  count_eq : intake.count = found.length
  take_eq : intake.numbers.toList.take found.length = found
  run_eq : intake.run = pending.length
  value_eq : intake.value = pending.toNat
  count_le : found.length ≤ Round.size
  run_le : pending.length ≤ digitLimit

theorem Holds.start : Holds start [] [] := ⟨rfl, rfl, rfl, rfl, Nat.zero_le _, Nat.zero_le _⟩

/-- How a character is taken. -/
inductive Taken (found : List Nat) (pending : Digits) (c : Char) : Except Stop Intake → Prop where
  | digit {d : Fin 10} {next : Intake} (hDigit : digit? c = some d)
      (hNext : Holds next found (pending ++ [d])) : Taken found pending c (.ok next)
  | tooLong {d : Fin 10} (hDigit : digit? c = some d) (hLong : pending.length = digitLimit) :
      Taken found pending c (.error (.rejected .numberTooLong))
  | between {next : Intake} (hDigit : c.isDigit = false) (hNone : pending = [])
      (hNext : Holds next found []) : Taken found pending c (.ok next)
  | number {next : Intake} (hDigit : c.isDigit = false) (hSome : pending ≠ [])
      (hNext : Holds next (found ++ [pending.toNat]) []) : Taken found pending c (.ok next)
  | noRoom (hDigit : c.isDigit = false) (hSome : pending ≠ []) (hFull : found.length = Round.size) :
      Taken found pending c (.error (.rejected .numberMismatch))

theorem write_eq {numbers : Vector Nat Round.size} {found : List Nat}
    (hTake : numbers.toList.take found.length = found) (hRoom : found.length < Round.size)
    (number : Nat) : ∃ written, write numbers found.length number = .ok written ∧
      written.toList.take (found.length + 1) = found ++ [number] := by
  refine ⟨_, dif_pos hRoom, ?_⟩
  have hLength : found.length < numbers.toList.length := by rwa [Vector.length_toList]
  rw [Vector.toList_set, List.take_succ_eq_append_getElem (by rwa [List.length_set]),
    List.getElem_set_self, List.take_set_of_le (Nat.le_refl _), hTake]

/-- A character is taken without a fault: the run has at most two digits, so that its number is at
most 99, and a number is written only where fewer than four are. -/
theorem Holds.taken {intake : Intake} {found : List Nat} {pending : Digits}
    (h : Holds intake found pending) (c : Char) : Taken found pending c (intake.step c) := by
  have hShort : pending.length ≤ 2 := h.run_le
  have hRoom : found.length ≤ 4 := h.count_le
  unfold step
  cases hDigit : digit? c with
  | some d =>
      have hRun : Stop.fit Stop.counterRange (intake.run + 1) = .ok (pending.length + 1) := by
        rw [h.run_eq]
        exact if_pos (by unfold Stop.counterRange; omega)
      by_cases hLong : pending.length = digitLimit
      · have hOver : digitLimit < pending.length + 1 := by omega
        simp only [hRun, bind, Except.bind, if_pos hOver]
        exact .tooLong hDigit hLong
      · have hFits : (pending ++ [d]).length ≤ digitLimit := by
          rw [List.length_append]
          exact Nat.lt_of_le_of_ne h.run_le hLong
        have hNumber := Digits.toNat_lt hFits
        rw [Digits.toNat_concat] at hNumber
        rw [List.length_append, List.length_singleton] at hFits
        have hTens : Stop.fit byteRange (intake.value * 10) = .ok (pending.toNat * 10) := by
          rw [h.value_eq]
          exact if_pos (by unfold byteRange; omega)
        have hValue : Stop.fit byteRange (pending.toNat * 10 + d.val) =
            .ok (pending.toNat * 10 + d.val) := if_pos (by unfold byteRange; omega)
        simp only [hRun, hTens, hValue, bind, Except.bind, if_neg (Nat.not_lt.mpr hFits)]
        refine .digit hDigit ⟨h.count_eq, h.take_eq, ?_, ?_, h.count_le, ?_⟩
        · rw [List.length_append, List.length_singleton]
        · rw [Digits.toNat_concat]
        · rwa [List.length_append, List.length_singleton]
  | none =>
      have hOther := isDigit_of_digit?_eq_none hDigit
      by_cases hSome : pending = []
      · subst hSome
        have hRun : ¬0 < intake.run := by
          rw [h.run_eq]
          exact Nat.lt_irrefl 0
        simp only [if_neg hRun]
        exact .between hOther rfl h
      · have hRun : 0 < intake.run := by
          rw [h.run_eq]
          exact List.length_pos_of_ne_nil hSome
        by_cases hFull : found.length = Round.size
        · simp only [if_pos hRun, h.count_eq, if_pos hFull]
          exact .noRoom hOther hSome hFull
        · have hRoom := Nat.lt_of_le_of_ne h.count_le hFull
          have hCount : Stop.fit Stop.counterRange (found.length + 1) = .ok (found.length + 1) :=
            if_pos (by unfold Round.size at hRoom; unfold Stop.counterRange; omega)
          obtain ⟨written, hWrite, hTake⟩ := write_eq h.take_eq hRoom pending.toNat
          simp only [if_pos hRun, h.count_eq, h.value_eq, if_neg hFull, hWrite, hCount, bind,
            Except.bind]
          refine .number hOther hSome ⟨?_, ?_, rfl, rfl, ?_, Nat.zero_le _⟩
          · rw [List.length_append, List.length_singleton]
          · rw [List.length_append, List.length_singleton, hTake]
          · rw [List.length_append, List.length_singleton]
            exact hRoom

/-- In no pass over characters anything leaves its words or the row. -/
theorem Holds.foldlM {intake : Intake} {found : List Nat} {pending : Digits}
    (h : Holds intake found pending) (text : List Char) :
    (∃ rejection, text.foldlM step intake = .error (.rejected rejection)) ∨
      ∃ last found' pending', text.foldlM step intake = .ok last ∧ Holds last found' pending' := by
  induction text generalizing intake found pending with
  | nil => exact .inr ⟨intake, found, pending, rfl, h⟩
  | cons c text ih =>
      rw [List.foldlM_cons]
      have hTaken := h.taken c
      generalize intake.step c = result at hTaken
      cases hTaken with
      | digit hDigit hNext => exact ih hNext
      | tooLong hDigit hLong => exact .inl ⟨_, rfl⟩
      | between hDigit hNone hNext => exact ih hNext
      | number hDigit hSome hNext => exact ih hNext
      | noRoom hDigit hSome hFull => exact .inl ⟨_, rfl⟩

/-- The numbers that the gate reads in a text with some found before it. -/
def gated (found : List Nat) (text : List Char) : Except Stop (List Nat) :=
  ((readNumbers found.length (Round.size - found.length) (digitRuns (scan text))).map
    (found ++ ·)).mapError Stop.rejected

section Gated

variable {found : List Nat} {pending : Digits} {c : Char} {text : List Char}

theorem gated_nil {intake : Intake} (h : Holds intake found []) :
    gated found [] = intake.finish.map Vector.toList := by
  have hRuns : digitRuns (scan []) = [] := rfl
  unfold gated Intake.finish
  rw [h.count_eq, hRuns]
  by_cases hFull : found.length = Round.size
  · have hTake := h.take_eq
    rw [List.take_of_length_le (by rw [Vector.length_toList, hFull])] at hTake
    rw [if_neg (by omega), hFull, Nat.sub_self, readNumbers]
    simp only [Except.map, Except.mapError, hTake, List.append_nil]
  · have hRoom := Nat.lt_of_le_of_ne h.count_le hFull
    obtain ⟨room, hLeft⟩ := Nat.exists_eq_add_of_lt hRoom
    rw [if_pos hRoom, show Round.size - found.length = room + 1 by omega, readNumbers]
    rfl

/-- What is between the runs does not count. -/
theorem gated_between (hDigit : c.isDigit = false) :
    gated found (c :: text) = gated found text := by
  unfold gated
  rw [scan_cons, push_of_not_isDigit hDigit, digitRuns_ofChar_cons]

theorem digitRuns_run (hSome : pending ≠ []) (hDigit : c.isDigit = false) :
    digitRuns (scan (pending.map digitChar ++ c :: text)) = pending :: digitRuns (scan text) := by
  have hEnd : ∀ a ∈ (c :: text).head?, a.isDigit = false := by
    rintro a ⟨⟩
    exact hDigit
  rw [scan_digits_append hSome hEnd, digitRuns_number_cons, scan_cons, push_of_not_isDigit hDigit,
    digitRuns_ofChar_cons]

/-- A run is one number more. -/
theorem gated_number (hSome : pending ≠ []) (hShort : pending.length ≤ digitLimit)
    (hRoom : found.length < Round.size) (hDigit : c.isDigit = false) :
    gated found (pending.map digitChar ++ c :: text) = gated (found ++ [pending.toNat]) text := by
  obtain ⟨room, hLeft⟩ := Nat.exists_eq_add_of_lt hRoom
  have hBefore : Round.size - found.length = room + 1 := by omega
  have hAfter : Round.size - (found.length + 1) = room := by omega
  unfold gated
  rw [digitRuns_run hSome hDigit, hBefore, readNumbers, if_neg (Nat.not_lt.mpr hShort),
    List.length_append, List.length_singleton, hAfter]
  cases readNumbers (found.length + 1) room (digitRuns (scan text)) with
  | error rejection => rfl
  | ok numbers => simp [Except.map, Except.mapError]

theorem gated_full (hSome : pending ≠ []) (hShort : pending.length ≤ digitLimit)
    (hFull : found.length = Round.size) (hDigit : c.isDigit = false) :
    gated found (pending.map digitChar ++ c :: text) = .error (.rejected .numberMismatch) := by
  unfold gated
  rw [digitRuns_run hSome hDigit, hFull, Nat.sub_self, readNumbers, if_neg (Nat.not_lt.mpr hShort)]
  rfl

/-- A third digit decides, whatever follows it. -/
theorem gated_tooLong (hLong : digitLimit < pending.length) :
    gated found (pending.map digitChar ++ text) = .error (.rejected .numberTooLong) := by
  obtain ⟨more, runs, hRuns⟩ :=
    exists_digitRuns_append pending (List.ne_nil_of_length_pos (Nat.zero_lt_of_lt hLong)) text
  have hOver : digitLimit < (pending ++ more).length := by
    rw [List.length_append]
    exact Nat.lt_add_right _ hLong
  unfold gated
  rw [hRuns, readNumbers_of_lt hOver]
  rfl

end Gated

/-- The pass over a text that ends with no run comes to what the gate reads in the run before it and
the text. -/
theorem Holds.finish_foldlM {intake : Intake} {found : List Nat} {pending : Digits}
    (h : Holds intake found pending) {text : List Char}
    (hEnd : ∀ c ∈ (pending.map digitChar ++ text).getLast?, c.isDigit = false) :
    (text.foldlM step intake >>= Intake.finish).map Vector.toList =
      gated found (pending.map digitChar ++ text) := by
  induction text generalizing intake found pending with
  | nil =>
      have hNone : pending = [] := by
        by_contra hSome
        have hLast := hEnd (digitChar (pending.getLast hSome)) (by
          rw [List.append_nil, List.getLast?_map, List.getLast?_eq_some_getLast hSome]
          rfl)
        rw [isDigit_digitChar] at hLast
        cases hLast
      subst hNone
      exact (gated_nil h).symm
  | cons c text ih =>
      have hRest : ∀ a ∈ (([] : Digits).map digitChar ++ text).getLast?, a.isDigit = false :=
        fun a hLast =>
          hEnd a (List.mem_getLast?_append_of_mem_getLast? (List.mem_getLast?_cons hLast))
      have hJoin {d : Fin 10} (hDigit : digit? c = some d) :
          pending.map digitChar ++ c :: text = (pending ++ [d]).map digitChar ++ text := by
        rw [List.map_append, List.append_assoc, ← digitChar_of_digit? hDigit]
        rfl
      rw [List.foldlM_cons, bind_assoc]
      have hTaken := h.taken c
      generalize intake.step c = result at hTaken
      cases hTaken with
      | digit hDigit hNext =>
          rw [hJoin hDigit] at hEnd ⊢
          exact ih hNext hEnd
      | tooLong hDigit hLong =>
          rw [hJoin hDigit, gated_tooLong (by simp [hLong])]
          rfl
      | between hDigit hNone hNext =>
          subst hNone
          exact (ih hNext hRest).trans (gated_between hDigit).symm
      | number hDigit hSome hNext =>
          have hRoom := hNext.count_le
          rw [List.length_append, List.length_singleton] at hRoom
          exact (ih hNext hRest).trans (gated_number hSome h.run_le hRoom hDigit).symm
      | noRoom hDigit hSome hFull =>
          rw [gated_full hSome h.run_le hFull hDigit]
          rfl

/-- The numbers taken in words are the numbers of the gate. -/
theorem extract_eq (text : List Char) :
    (extract text).map Vector.toList =
      (readNumbers 0 Round.size (digitRuns (scan text))).mapError Stop.rejected := by
  have hEnd : ∀ c ∈ (([] : Digits).map digitChar ++ (text ++ [' '])).getLast?,
      c.isDigit = false := by
    rw [List.map_nil, List.nil_append, List.getLast?_append]
    rintro c ⟨⟩
    rfl
  have hRuns : digitRuns (scan (text ++ [' '])) = digitRuns (scan text) := by
    rw [scan_append (.of_head (by rintro c ⟨⟩; rfl)), digitRuns_append]
    exact List.append_nil _
  refine (Holds.start.finish_foldlM hEnd).trans ?_
  rw [gated, List.map_nil, List.nil_append, hRuns]
  cases readNumbers 0 Round.size (digitRuns (scan text)) <;> rfl

end Intake

end Make24
