import Mathlib
import Make24.Proofs.Submission.Gates

/-! White space in a submission. Texts with the same characters but for the white space, and with
the same runs of digits, have the same tokens but for the blanks, and blanks change nothing in what
is read but the place of a fault. -/

namespace Make24

open Submission Token

namespace Rejection

/-- A rejection without the place of the fault. -/
def unplaced : Rejection → Rejection
  | malformed _ => malformed 0
  | rejection => rejection

end Rejection

/-- The texts differ in white space alone, and none of it splits or joins a run of digits. -/
structure SpacedAlike (text other : List Char) : Prop where
  characters : text.filter (!Text.isBlank ·) = other.filter (!Text.isBlank ·)
  numerals : numerals text = numerals other

theorem numerals_cons {c : Char} (hDigit : c.isDigit = false) (text : List Char) :
    numerals (c :: text) = numerals text := by
  rw [numerals_eq, numerals_eq, scan_cons, push_of_not_isDigit hDigit, digitRuns_ofChar_cons]

theorem numerals_append_of_no_digit {piece : List Char} (hPiece : ∀ c ∈ piece, c.isDigit = false)
    (text : List Char) : numerals (piece ++ text) = numerals text := by
  induction piece with
  | nil => rfl
  | cons c piece ih =>
      obtain ⟨hFirst, hRest⟩ := List.forall_mem_cons.mp hPiece
      rw [List.cons_append, numerals_cons hFirst, ih hRest]

/-- White space in front of a text or behind it does not count. -/
theorem SpacedAlike.surround {before after : List Char}
    (hBefore : ∀ c ∈ before, Text.isBlank c = true)
    (hAfter : ∀ c ∈ after, Text.isBlank c = true) (text : List Char) :
    SpacedAlike (before ++ (text ++ after)) text := by
  have hNone {blanks : List Char} (hBlanks : ∀ c ∈ blanks, Text.isBlank c = true) :
      blanks.filter (!Text.isBlank ·) = [] := by
    rw [List.filter_eq_nil_iff]
    intro c hMem
    simp [hBlanks c hMem]
  have hFront {blanks : List Char} (hBlanks : ∀ c ∈ blanks, Text.isBlank c = true)
      (text : List Char) : Make24.numerals (blanks ++ text) = Make24.numerals text :=
    numerals_append_of_no_digit (fun c hMem => isDigit_of_isBlank (hBlanks c hMem)) text
  have hApart : Apart text after := by
    refine .of_head fun c hHead => isDigit_of_isBlank (hAfter c ?_)
    exact List.mem_of_mem_head? hHead
  constructor
  · rw [List.filter_append, List.filter_append, hNone hBefore, hNone hAfter, List.nil_append,
      List.append_nil]
  · have hBack : Make24.numerals after = [] := by
      rw [← List.append_nil after, hFront hAfter]
      rfl
    rw [hFront hBefore, numerals_append hApart, hBack, List.append_nil]

/-- Nor does it count whether a text is trimmed. -/
theorem SpacedAlike.trim (text : List Char) : SpacedAlike text (Text.trim text) := by
  have hParts : text = text.takeWhile Text.isBlank ++ (Text.trim text
      ++ ((text.dropWhile Text.isBlank).reverse.takeWhile Text.isBlank).reverse) := by
    rw [Text.trim, ← List.reverse_append, List.takeWhile_append_dropWhile, List.reverse_reverse,
      List.takeWhile_append_dropWhile]
  have hFront : ∀ c ∈ text.takeWhile Text.isBlank, Text.isBlank c = true :=
    fun c hMem => List.mem_takeWhile_imp hMem
  have hBack : ∀ c ∈ ((text.dropWhile Text.isBlank).reverse.takeWhile Text.isBlank).reverse,
      Text.isBlank c = true :=
    fun c hMem => List.mem_takeWhile_imp (List.mem_reverse.mp hMem)
  have hSame := SpacedAlike.surround hFront hBack (Text.trim text)
  rwa [← hParts] at hSame

namespace Token

end Token

section SpacedAlike

variable {text other : List Char}

end SpacedAlike

namespace Submission

end Submission

end Make24
