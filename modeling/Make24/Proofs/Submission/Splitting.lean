import Mathlib
import Make24.Proofs.Submission.Spelling

/-! Scanning a text in two parts. A text can be cut wherever no run of digits is cut, and then its
tokens are those of the parts; between any two of its tokens is such a place. -/

namespace Make24

/-- Putting the texts together joins no runs of digits. -/
def Apart (before after : List Char) : Prop :=
  ∀ a ∈ before.getLast?, ∀ b ∈ after.head?, a.isDigit = true → b.isDigit = false

theorem Apart.nil (after : List Char) : Apart [] after :=
  fun _ ha => absurd ha (Option.not_mem_none _)

theorem Apart.of_head {before after : List Char} (h : ∀ b ∈ after.head?, b.isDigit = false) :
    Apart before after :=
  fun _ _ b hb _ => h b hb

theorem Apart.cons {before after : List Char} {c : Char} (h : Apart before after)
    (hFirst : before = [] → c.isDigit = true → ∀ b ∈ after.head?, b.isDigit = false) :
    Apart (c :: before) after := by
  cases before with
  | nil =>
      rintro a ⟨⟩ b hb hDigit
      exact hFirst rfl hDigit b hb
  | cons d before => rwa [Apart, List.getLast?_cons_cons]

theorem Apart.of_cons {before after : List Char} {c : Char} (h : Apart (c :: before) after) :
    Apart before after := by
  cases before with
  | nil => exact .nil after
  | cons d before => rwa [Apart, List.getLast?_cons_cons] at h

namespace Token

/-- Only the first token feels what is put in front. -/
theorem push_append (c : Char) {tokens : List Token} (hSome : tokens ≠ []) (more : List Token) :
    push c (tokens ++ more) = push c tokens ++ more := by
  cases tokens with
  | nil => exact absurd rfl hSome
  | cons token tokens =>
      unfold push
      cases digit? c <;> cases token <;> rfl

theorem scan_eq_nil {text : List Char} (h : scan text = []) : text = [] := by
  rw [← flatMap_text_scan text, h]
  rfl

/-- A first character is scanned apart from the text behind it unless both are digits. -/
theorem push_scan {c : Char} {after : List Char}
    (h : c.isDigit = true → ∀ b ∈ after.head?, b.isDigit = false) :
    push c (scan after) = push c [] ++ scan after := by
  cases hDigit : c.isDigit with
  | false => rw [push_of_not_isDigit hDigit, push_of_not_isDigit hDigit, List.singleton_append]
  | true =>
      obtain ⟨d, rfl⟩ := exists_digitChar hDigit
      rw [push_digitChar d (scan_ne_number (h hDigit)), push_digitChar d (by simp),
        List.singleton_append]

/-- The tokens of a text are those of its parts. -/
theorem scan_append {before after : List Char} (h : Apart before after) :
    scan (before ++ after) = scan before ++ scan after := by
  induction before with
  | nil => rfl
  | cons c before ih =>
      rw [List.cons_append, scan_cons, ih h.of_cons, scan_cons]
      cases before with
      | nil => exact push_scan fun hDigit b hb => h c rfl b hb hDigit
      | cons d before => exact push_append c (fun hNil => by cases scan_eq_nil hNil) _

/-- A text that starts with a digit starts with a number. -/
theorem exists_scan_digitChar (d : Fin 10) (text : List Char) :
    ∃ digits later, scan (digitChar d :: text) = .number digits :: later := by
  by_cases hNumber : ∃ digits later, scan text = .number digits :: later
  · obtain ⟨digits, later, hScan⟩ := hNumber
    exact ⟨d :: digits, later, by rw [scan_cons, hScan, push_digitChar_number]⟩
  · push Not at hNumber
    exact ⟨[d], scan text, push_digitChar d hNumber⟩

theorem exists_push_nil (c : Char) : ∃ token, push c [] = [token] := by
  unfold push
  cases digit? c <;> exact ⟨_, rfl⟩

/-- Between two tokens a text can be cut. -/
theorem exists_apart {text : List Char} {front later : List Token}
    (h : scan text = front ++ later) : ∃ before after, text = before ++ after ∧
      Apart before after ∧ scan before = front ∧ scan after = later := by
  induction text generalizing front with
  | nil =>
      obtain ⟨rfl, rfl⟩ := List.append_eq_nil_iff.mp h.symm
      exact ⟨[], [], rfl, .nil _, rfl, rfl⟩
  | cons c text ih =>
      cases front with
      | nil => exact ⟨[], c :: text, rfl, .nil _, rfl, h⟩
      | cons token front =>
          by_cases hFirst : c.isDigit = true → ∀ b ∈ text.head?, b.isDigit = false
          · -- the first character is a token of its own
            obtain ⟨first, hToken⟩ := exists_push_nil c
            rw [scan_cons, push_scan hFirst, hToken, List.singleton_append, List.cons_append,
              List.cons.injEq] at h
            obtain ⟨rfl, hText⟩ := h
            obtain ⟨before, after, rfl, hApart, rfl, rfl⟩ := ih hText
            refine ⟨c :: before, after, rfl, hApart.cons ?_, ?_, rfl⟩
            · rintro rfl
              exact hFirst
            · rw [scan_cons, push_scan, hToken, List.singleton_append]
              intro hDigit b hb
              exact hFirst hDigit b (by simp [List.head?_append, Option.mem_def.mp hb])
          · -- the first character joins the number behind it
            push Not at hFirst
            obtain ⟨hDigit, b, hb, hNext⟩ := hFirst
            obtain ⟨d, rfl⟩ := exists_digitChar hDigit
            have hNumber : ∃ digits rest, scan text = .number digits :: rest := by
              by_contra hNone
              push Not at hNone
              exact hNext (isDigit_of_scan_ne_number hNone b hb)
            obtain ⟨digits, rest, hScan⟩ := hNumber
            rw [scan_cons, hScan, push_digitChar_number, List.cons_append, List.cons.injEq] at h
            obtain ⟨rfl, rfl⟩ := h
            rw [← List.cons_append] at hScan
            obtain ⟨before, after, rfl, hApart, hBefore, rfl⟩ := ih hScan
            refine ⟨digitChar d :: before, after, rfl, hApart.cons ?_, ?_, rfl⟩
            · rintro rfl
              cases hBefore
            · rw [scan_cons, hBefore, push_digitChar_number]

theorem utf8Len_text (token : Token) : String.utf8Len token.text = token.width := by
  cases token with
  | number digits =>
      have hOne : ∀ d : Fin 10, (digitChar d).utf8Size = 1 := by decide
      induction digits with
      | nil => rfl
      | cons d digits ih =>
          change String.utf8Len (digitChar d :: digits.map digitChar) = digits.length + 1
          rw [String.utf8Len_cons, hOne]
          exact congrArg (· + 1) ih
  | sign s => cases s <;> rfl
  | scale s => cases s <;> rfl
  | opening => rfl
  | closing => rfl
  | blank c => simp [text, width]
  | foreign c => simp [text, width]

/-- The tokens of a text are as wide as the text. -/
theorem sum_width_scan (source : List Char) :
    ((scan source).map width).sum = (String.ofList source).utf8ByteSize := by
  have hTokens (tokens : List Token) :
      String.utf8Len (tokens.flatMap text) = (tokens.map width).sum := by
    induction tokens with
    | nil => rfl
    | cons token tokens ih =>
        rw [List.flatMap_cons, String.utf8Len_append, utf8Len_text, ih, List.map_cons,
          List.sum_cons]
  rw [String.utf8ByteSize_ofList, ← hTokens, flatMap_text_scan]

end Token

end Make24
