import Make24.Text.Ranges

/-! White space: the characters with the Unicode property White_Space. -/

namespace Make24.Text

/-- Tab to carriage return, space, next line, no-break space, the Ogham space, the fixed-width
spaces, the two separators, the narrow and the mathematical space and the ideographic space. -/
def blanks : Ranges :=
  .ofPairs [(0x09, 0x0D), (0x20, 0x20), (0x85, 0x85), (0xA0, 0xA0), (0x1680, 0x1680),
    (0x2000, 0x200A), (0x2028, 0x2029), (0x202F, 0x202F), (0x205F, 0x205F), (0x3000, 0x3000)]

def isBlank (c : Char) : Bool := blanks.contains c

/-- The text without the white space at both ends. -/
def trim (text : List Char) : List Char :=
  ((text.dropWhile isBlank).reverse.dropWhile isBlank).reverse

end Make24.Text
