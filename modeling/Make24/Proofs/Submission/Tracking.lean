import Mathlib
import Make24.Proofs.Submission.Descent
import Make24.Proofs.Submission.Numerals
import Make24.Proofs.Submission.Splitting

/-! The reader at a cursor. The reader takes tokens and the cursor stands between characters; what
is left of the text there is scanned and read. Going past a character, white space or a run of
digits, the reader goes on by one token, or stops. -/

namespace Make24

/-- Between two places of a text stands more than white space. -/
def Consumes (before after : List Char) : Prop :=
  ∃ passed, passed ++ after = before ∧ ∃ c ∈ passed, Text.isBlank c = false

namespace Consumes

variable {before middle after : List Char}

theorem cons {c : Char} (hBlank : Text.isBlank c = false) (hSuffix : after <:+ middle) :
    Consumes (c :: middle) after := by
  obtain ⟨passed, rfl⟩ := hSuffix
  exact ⟨c :: passed, rfl, c, List.mem_cons_self, hBlank⟩

theorem trans_suffix (h : Consumes before middle) (hSuffix : after <:+ middle) :
    Consumes before after := by
  obtain ⟨passed, rfl, c, hMem, hBlank⟩ := h
  obtain ⟨passed', rfl⟩ := hSuffix
  exact ⟨passed ++ passed', List.append_assoc .., c, List.mem_append_left _ hMem, hBlank⟩

theorem of_suffix (h : Consumes middle after) (hSuffix : middle <:+ before) :
    Consumes before after := by
  obtain ⟨passed, rfl⟩ := hSuffix
  obtain ⟨passed', rfl, c, hMem, hBlank⟩ := h
  exact ⟨passed ++ passed', List.append_assoc .., c, List.mem_append_right _ hMem, hBlank⟩

theorem suffix (h : Consumes before after) : after <:+ before := by
  obtain ⟨passed, rfl, -⟩ := h
  exact List.suffix_append ..

theorem length_lt (h : Consumes before after) : after.length < before.length := by
  obtain ⟨passed, rfl, c, hMem, -⟩ := h
  have hPos := List.length_pos_of_mem hMem
  rw [List.length_append]
  omega

end Consumes

/-- Going past characters is going past the first of them and then past the others. -/
theorem Cursor.past_of_head (cursor : Cursor) {p : Char → Bool} {c : Char} {rest : List Char}
    (hRest : cursor.rest = c :: rest) (hHead : p c = true) :
    cursor.past p = cursor.next.past p := by
  simp [past, next, hRest, hHead, Nat.add_assoc, Nat.add_comm]

/-- What is next behind the characters in front that have a property has it not. -/
theorem head_dropWhile (p : Char → Bool) (text : List Char) :
    ∀ c ∈ (text.dropWhile p).head?, p c = false := by
  intro c hHead
  have hNot := List.head?_dropWhile_not p text
  rwa [Option.mem_def.mp hHead] at hNot

/-- Where white space is passed, nothing but it is. -/
theorem of_eq_dropWhile_blank {text rest : List Char} (hRest : rest = text.dropWhile Text.isBlank) :
    rest <:+ text ∧ rest.length ≤ text.length ∧ ∀ c ∈ rest.head?, Text.isBlank c = false := by
  have hSuffix : rest <:+ text := hRest ▸ List.dropWhile_suffix _
  exact ⟨hSuffix, hSuffix.length_le, hRest ▸ head_dropWhile Text.isBlank text⟩

namespace Token

theorem of_sign? {c : Char} {s : Sign} (h : sign? c = some s) :
    c.isDigit = false ∧ ofChar c = .sign s := by
  unfold sign? at h
  split_ifs at h with hPlus hMinus <;> cases h
  · subst hPlus
    exact ⟨rfl, rfl⟩
  · subst hMinus
    exact ⟨rfl, rfl⟩

theorem of_scale? {c : Char} {s : Scale} (h : scale? c = some s) :
    c.isDigit = false ∧ ofChar c = .scale s := by
  unfold scale? at h
  split_ifs at h with hTimes hOver <;> cases h
  · subst hTimes
    exact ⟨rfl, rfl⟩
  · subst hOver
    exact ⟨rfl, rfl⟩

theorem width_ofChar (c : Char) : (ofChar c).width = String.utf8Len [c] := by
  rw [← utf8Len_text, text_ofChar]

end Token

namespace Reading

open Token

/-- The reading of what is left at a cursor. -/
def runAt (reading : Reading) (cursor : Cursor) : Except ReadError Sum :=
  reading.run cursor.offset (scan cursor.rest)

variable {reading next : Reading} {cursor : Cursor} {c : Char} {rest : List Char}

theorem runAt_nil (hRest : cursor.rest = []) : reading.runAt cursor =
    match reading.finish? with
    | some sum => .ok sum
    | none => .error (.malformed cursor.offset) := by
  unfold runAt
  rw [hRest]
  rfl

/-- A character that is not a digit is a token of its own. -/
theorem runAt_of_step (hRest : cursor.rest = c :: rest) (hDigit : c.isDigit = false)
    (hStep : reading.step (ofChar c) = .ok next) :
    reading.runAt cursor = next.runAt cursor.next := by
  unfold runAt
  rw [hRest, scan_cons, push_of_not_isDigit hDigit, run, hStep, width_ofChar]
  simp [Cursor.next, hRest]

theorem runAt_of_fault {fault : Fault} (hRest : cursor.rest = c :: rest)
    (hDigit : c.isDigit = false) (hStep : reading.step (ofChar c) = .error fault) :
    reading.runAt cursor = .error (fault.located cursor.offset) := by
  unfold runAt
  rw [hRest, scan_cons, push_of_not_isDigit hDigit, run, hStep]

/-- White space is passed over. -/
theorem runAt_past_blanks (reading : Reading) (cursor : Cursor) :
    reading.runAt (cursor.past Text.isBlank) = reading.runAt cursor := by
  induction hRest : cursor.rest generalizing cursor with
  | nil => simp [Cursor.past, runAt, hRest]
  | cons c rest ih =>
      cases hBlank : Text.isBlank c with
      | false => simp [Cursor.past, runAt, hRest, hBlank]
      | true =>
          have hStep : reading.step (ofChar c) = .ok reading := by
            rw [ofChar_of_isBlank hBlank]
            cases reading <;> rfl
          rw [cursor.past_of_head hRest hBlank, ih cursor.next (by simp [Cursor.next, hRest]),
            runAt_of_step hRest (isDigit_of_isBlank hBlank) hStep]

/-- A run of digits is one number. -/
theorem runAt_of_digit {hole : FactorHole} (hRest : cursor.rest = c :: rest)
    (hDigit : c.isDigit = true) : (operand hole).runAt cursor =
      (hole.fill (.number ((cursor.rest.takeWhile Char.isDigit).filterMap digit?))).runAt
        (cursor.past Char.isDigit) := by
  have hRun : ((cursor.rest.takeWhile Char.isDigit).filterMap digit?).map digitChar =
      cursor.rest.takeWhile Char.isDigit :=
    Submission.map_digitChar_filterMap_digit? fun _ hMem => List.mem_takeWhile_imp hMem
  have hSome : (cursor.rest.takeWhile Char.isDigit).filterMap digit? ≠ [] := by
    intro hNil
    rw [hNil, hRest] at hRun
    simp [hDigit] at hRun
  have hScan := scan_digits_append hSome (head_dropWhile Char.isDigit cursor.rest)
  rw [hRun, List.takeWhile_append_dropWhile] at hScan
  have hWidth : (Token.number ((cursor.rest.takeWhile Char.isDigit).filterMap digit?)).width =
      String.utf8Len (cursor.rest.takeWhile Char.isDigit) := by
    rw [← utf8Len_text, Token.text, hRun]
  have hStep : (operand hole).step
      (.number ((cursor.rest.takeWhile Char.isDigit).filterMap digit?)) =
      .ok (hole.fill (.number ((cursor.rest.takeWhile Char.isDigit).filterMap digit?))) := rfl
  unfold runAt
  rw [hScan, run, hStep, hWidth]
  rfl

/-- The reader stops before what no operand begins with. -/
theorem runAt_operand_malformed {hole : FactorHole} (hRest : cursor.rest = c :: rest)
    (hBlank : Text.isBlank c = false) (hSign : sign? c = none) (hOpening : c ≠ '(')
    (hDigit : c.isDigit = false) :
    (operand hole).runAt cursor = .error (.malformed cursor.offset) := by
  have hStep : (operand hole).step (ofChar c) = .error .unexpected := by
    unfold ofChar
    split
    · cases hSign
    · cases hSign
    · rfl
    · rfl
    · exact absurd rfl hOpening
    · rfl
    · rw [hBlank]
      rfl
  exact runAt_of_fault hRest hDigit hStep

theorem step_sign {hole : ProductHole} {read : Product} {outer : SumHole} {sum : Sum}
    (hFill : hole.fill read = (outer, sum)) (sign : Sign) :
    (operation hole read).step (.sign sign) = .ok (.operand (.first (.after sum sign outer))) := by
  have hStep : (operation hole read).step (.sign sign) =
      .ok (.operand (.first (.after (hole.fill read).2 sign (hole.fill read).1))) := rfl
  rw [hStep, hFill]

theorem step_closing (hole : ProductHole) (read : Product) :
    (operation hole read).step .closing =
      match hole.fill read with
      | (.group outer, sum) => .ok (outer.fill (.group sum))
      | (.whole, _) => .error .unexpected := rfl

theorem step_closing_group {hole : ProductHole} {read : Product} {outer : FactorHole} {sum : Sum}
    (hFill : hole.fill read = (.group outer, sum)) :
    (operation hole read).step .closing = .ok (outer.fill (.group sum)) := by
  rw [step_closing, hFill]

theorem step_closing_whole {hole : ProductHole} {read : Product} {sum : Sum}
    (hFill : hole.fill read = (.whole, sum)) :
    (operation hole read).step .closing = .error .unexpected := by
  rw [step_closing, hFill]

/-- The reader stops behind an operand before what no operation begins with, and before a
parenthesis that closes none. -/
theorem runAt_operation_malformed {hole : ProductHole} {read : Product}
    (hRest : cursor.rest = c :: rest) (hBlank : Text.isBlank c = false) (hScale : scale? c = none)
    (hSign : sign? c = none) (hClosing : c = ')' → (hole.fill read).1 = .whole) :
    (operation hole read).runAt cursor = .error (.malformed cursor.offset) := by
  cases hDigit : c.isDigit with
  | true =>
      obtain ⟨d, rfl⟩ := exists_digitChar hDigit
      obtain ⟨digits, later, hScan⟩ := exists_scan_digitChar d rest
      unfold runAt
      rw [hRest, hScan]
      rfl
  | false =>
      have hStep : (operation hole read).step (ofChar c) = .error .unexpected := by
        unfold ofChar
        split
        · cases hSign
        · cases hSign
        · cases hScale
        · cases hScale
        · rfl
        · have hWhole := hClosing rfl
          rcases hFill : hole.fill read with ⟨outer, sum⟩
          rw [hFill] at hWhole
          cases hWhole
          exact step_closing_whole hFill
        · rw [hBlank]
          rfl
      exact runAt_of_fault hRest hDigit hStep

end Reading

end Make24
