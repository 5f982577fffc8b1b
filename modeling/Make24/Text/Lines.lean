import Make24.Text.Blank
import Make24.Text.LowerCase

/-! Lines of an input of bytes. -/

namespace Make24.Text

def newline : UInt8 := 10

/-- Puts a byte before lines. A newline is a line's last byte, so what follows it is another line.
-/
def pushByte (byte : UInt8) (lines : List (List UInt8)) : List (List UInt8) :=
  match lines with
  | [] => [[byte]]
  | line :: rest => if byte = newline then [byte] :: line :: rest else (byte :: line) :: rest

/-- The lines of an input, each with its newline. The last may lack one; nothing after the last
newline is no line. -/
def lines (input : List UInt8) : List (List UInt8) :=
  input.foldr pushByte []

theorem flatten_pushByte (byte : UInt8) (rest : List (List UInt8)) :
    (pushByte byte rest).flatten = byte :: rest.flatten := by
  unfold pushByte
  split
  · rfl
  · split <;> rfl

/-- Cutting an input into lines loses nothing. -/
theorem flatten_lines (input : List UInt8) : (lines input).flatten = input := by
  induction input with
  | nil => rfl
  | cons byte rest ih =>
      simp only [lines, List.foldr_cons] at ih ⊢
      rw [flatten_pushByte, ih]

/-- A text without the white space around it and in lower case. -/
def plain (text : String) : String :=
  String.ofList (lowerCase (trim text.toList))

/-- The text of a line, if its bytes are UTF-8. -/
def decode? (line : List UInt8) : Option String :=
  String.fromUTF8? ⟨line.toArray⟩

end Make24.Text
