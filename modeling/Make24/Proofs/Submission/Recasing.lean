import Mathlib
import Make24.Text.Lines
import Make24.Proofs.Submission.Spacing

/-! Lower case in a submission. Turning a text to lower case keeps the characters that an expression
may hold and puts no such character in the place of another one, so the numbers stay as they are and
a text with a forbidden character stays one. -/

namespace Make24

open Submission Token

namespace Rejection

/-- The kind of a rejection, without the place of the fault and without the character that is
forbidden. -/
def kind : Rejection → Rejection
  | forbiddenCharacter _ => forbiddenCharacter '\x00'
  | rejection => rejection.unplaced

end Rejection

/-- Characters that an expression may hold are kept, and any other one is replaced by some others
that an expression may not hold. -/
inductive Recased : List Char → List Char → Prop where
  | nil : Recased [] []
  | kept {c : Char} {text other : List Char} (hPermitted : isPermitted c = true)
      (rest : Recased text other) : Recased (c :: text) (c :: other)
  | replaced {c : Char} {piece text other : List Char} (hForbidden : isPermitted c = false)
      (hSome : piece ≠ []) (hPiece : ∀ d ∈ piece, isPermitted d = false)
      (rest : Recased text other) : Recased (c :: text) (piece ++ other)

theorem isDigit_of_forbidden {c : Char} (h : isPermitted c = false) : c.isDigit = false := by
  cases hDigit : c.isDigit with
  | false => rfl
  | true => simp [isPermitted, hDigit] at h

/-- A digit in front of a digit joins the first number. -/
theorem numerals_cons_of_joins {c : Char} (hDigit : c.isDigit = true) {text : List Char}
    (hHead : ∃ b ∈ text.head?, b.isDigit = true) :
    numerals (c :: text) = (numerals text).modifyHead (c :: ·) := by
  obtain ⟨d, rfl⟩ := exists_digitChar hDigit
  obtain ⟨b, hHead, hNext⟩ := hHead
  obtain ⟨text, rfl⟩ := List.head?_eq_some_iff.mp hHead
  obtain ⟨e, rfl⟩ := exists_digitChar hNext
  obtain ⟨digits, later, hScan⟩ := exists_scan_digitChar e text
  rw [numerals_eq, numerals_eq, scan_cons, hScan, push_digitChar_number]
  rfl

/-- A digit that no digit follows is a number. -/
theorem numerals_cons_of_apart {c : Char} (hDigit : c.isDigit = true) {text : List Char}
    (hHead : ∀ b ∈ text.head?, b.isDigit = false) :
    numerals (c :: text) = [c] :: numerals text := by
  have hRun : numerals [c] = [[c]] :=
    numerals_run (List.cons_ne_nil c []) (List.forall_mem_singleton.mpr hDigit)
  rw [← List.singleton_append, numerals_append (.of_head hHead), hRun, List.singleton_append]

namespace Recased

variable {text other : List Char}

/-- A text begins with a digit exactly if it did before. -/
theorem head?_isDigit_iff (h : Recased text other) :
    (∃ b ∈ text.head?, b.isDigit = true) ↔ ∃ b ∈ other.head?, b.isDigit = true := by
  cases h with
  | nil => rfl
  | kept => simp
  | replaced hForbidden hSome hPiece rest =>
      obtain ⟨d, piece, rfl⟩ := List.exists_cons_of_ne_nil hSome
      have hFirst := isDigit_of_forbidden (hPiece d List.mem_cons_self)
      simp [isDigit_of_forbidden hForbidden, hFirst]

theorem numerals_eq (h : Recased text other) : numerals text = numerals other := by
  induction h with
  | nil => rfl
  | @kept c text other hPermitted rest ih =>
      cases hDigit : c.isDigit with
      | true =>
          -- whether the digit joins a number is told by the next character, which is a digit in
          -- both texts or in neither
          by_cases hHead : ∃ b ∈ text.head?, b.isDigit = true
          · rw [numerals_cons_of_joins hDigit hHead,
              numerals_cons_of_joins hDigit (rest.head?_isDigit_iff.mp hHead), ih]
          · have hHead' := mt rest.head?_isDigit_iff.mpr hHead
            push Not at hHead hHead'
            simp only [Bool.not_eq_true] at hHead hHead'
            rw [numerals_cons_of_apart hDigit hHead, numerals_cons_of_apart hDigit hHead', ih]
      | false => rw [numerals_cons hDigit, numerals_cons hDigit, ih]
  | replaced hForbidden hSome hPiece rest ih =>
      rw [numerals_cons (isDigit_of_forbidden hForbidden),
        numerals_append_of_no_digit fun d hMem => isDigit_of_forbidden (hPiece d hMem), ih]

end Recased

namespace Text

end Text

end Make24
