import Make24.Arithmetic
import Make24.Text.Blank

/-! The tokens of a submitted text. Nothing is dropped: blanks and characters that have no place in
an expression are tokens too, so the tokens of a text write it back exactly and the byte offset of
a token is the width of the tokens before it. -/

namespace Make24

/-- A run of decimal digits, most significant first. -/
abbrev Digits := List (Fin 10)

namespace Digits

/-- The number that the digits denote. -/
def toNat (digits : Digits) : Nat :=
  digits.foldl (fun n d => n * 10 + d.val) 0

/-- The number that the digits denote, read in floating point digit by digit. -/
def value (digits : Digits) : Float :=
  digits.foldl (fun x d => x * 10.0 + d.val.toFloat) 0.0

end Digits

/-- The digit that a character stands for. Digits of other scripts are not digits here. -/
def digit? (c : Char) : Option (Fin 10) :=
  if h : 48 ≤ c.toNat ∧ c.toNat ≤ 57 then some ⟨c.toNat - 48, by omega⟩ else none

/-- The character for a digit. -/
def digitChar (d : Fin 10) : Char := Char.ofNat (48 + d.val)

inductive Token where
  | number (digits : Digits)
  | sign (sign : Sign)
  | scale (scale : Scale)
  | opening
  | closing
  | blank (c : Char)
  | foreign (c : Char)
deriving DecidableEq, Repr

namespace Token

/-- The token of a character that is not a digit. -/
def ofChar (c : Char) : Token :=
  match c with
  | '+' => sign .plus
  | '-' => sign .minus
  | '*' => scale .multiply
  | '/' => scale .divide
  | '(' => opening
  | ')' => closing
  | c => if Text.isBlank c then blank c else foreign c

/-- Puts a character before tokens. A digit joins a number that follows it directly. -/
def push (c : Char) (tokens : List Token) : List Token :=
  match digit? c, tokens with
  | some d, number digits :: rest => number (d :: digits) :: rest
  | some d, rest => number [d] :: rest
  | none, rest => ofChar c :: rest

/-- The tokens of a text. -/
def scan (text : List Char) : List Token :=
  text.foldr push []

/-- The characters that a token stands for. -/
def text : Token → List Char
  | number digits => digits.map digitChar
  | sign s => [s.symbol]
  | scale s => [s.symbol]
  | opening => ['(']
  | closing => [')']
  | blank c => [c]
  | foreign c => [c]

/-- The number of bytes that a token takes in UTF-8. -/
def width : Token → Nat
  | number digits => digits.length
  | blank c => c.utf8Size
  | foreign c => c.utf8Size
  | _ => 1

/-- The digits of a number. -/
def digits? : Token → Option Digits
  | number digits => some digits
  | _ => none

/-- The character of a token that no expression may hold. -/
def foreign? : Token → Option Char
  | foreign c => some c
  | _ => none

theorem text_ofChar (c : Char) : (ofChar c).text = [c] := by
  unfold ofChar
  split <;> try rfl
  split <;> rfl

theorem digitChar_of_digit? {c : Char} {d : Fin 10} (h : digit? c = some d) :
    digitChar d = c := by
  simp only [digit?, Option.dite_none_right_eq_some, Option.some.injEq] at h
  obtain ⟨bounds, rfl⟩ := h
  simp only [digitChar]
  rw [Nat.add_sub_cancel' bounds.1, Char.ofNat_toNat]

theorem flatMap_text_push (c : Char) (tokens : List Token) :
    (push c tokens).flatMap text = c :: tokens.flatMap text := by
  cases h : digit? c with
  | none => simp [push, h, text_ofChar]
  | some d =>
      have written := digitChar_of_digit? h
      unfold push
      rw [h]
      split <;> simp_all [text]

/-- Scanning loses nothing. -/
theorem flatMap_text_scan (source : List Char) : (scan source).flatMap text = source := by
  induction source with
  | nil => rfl
  | cons c rest ih =>
      simp only [scan, List.foldr_cons] at ih ⊢
      rw [flatMap_text_push, ih]

end Token

end Make24
