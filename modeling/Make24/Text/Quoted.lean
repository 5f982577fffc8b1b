import Make24.Text.GraphemeExtend
import Make24.Text.Unprintable

/-! One character as it is shown in a message: between single quotes, and written as an escape where
the character itself could not be seen or would be mistaken for part of the message. -/

namespace Make24.Text

/-- The halfwidth voiced and semi-voiced sound marks. They extend a grapheme as combining marks do,
but they are letters that take a place of their own. -/
def soundMarks : Ranges := .ofPairs [(0xFF9E, 0xFF9F)]

/-- Whether a character would be drawn onto the one before it. -/
def isCombining (c : Char) : Bool :=
  graphemeExtend.contains c && !soundMarks.contains c

/-- Whether a character is written by its code point: it is drawn onto its neighbour or leaves no
mark. -/
def isHidden (c : Char) : Bool := isCombining c || unprintable.contains c

/-- A code point in lower-case hexadecimal without leading zeros, in braces. -/
def codePointEscape (c : Char) : String :=
  "\\u\x7b" ++ String.ofList (Nat.toDigits 16 c.toNat) ++ "\x7d"

/-- The character itself or its escape. A double quote needs none between single quotes. -/
def escape (c : Char) : String :=
  match c with
  | '\x00' => "\\0"
  | '\t' => "\\t"
  | '\r' => "\\r"
  | '\n' => "\\n"
  | '\'' => "\\'"
  | '\\' => "\\\\"
  | c => if isHidden c then codePointEscape c else String.singleton c

def quote (c : Char) : String := "'" ++ escape c ++ "'"

end Make24.Text
