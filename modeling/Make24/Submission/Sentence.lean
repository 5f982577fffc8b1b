import Make24.Submission.Reading

/-! What it means for a text to be an expression, apart from any way to read it. -/

namespace Make24

/-- Whether a token may stand anywhere without meaning. -/
def Token.isBlank : Token → Bool
  | .blank _ => true
  | _ => false

/-- The tokens that a derivation has to account for. -/
def Token.meaningful (tokens : List Token) : List Token :=
  tokens.filter fun token => !token.isBlank

theorem Token.meaningful_cons (token : Token) (tokens : List Token) :
    meaningful (token :: tokens) =
      if token.isBlank then meaningful tokens else token :: meaningful tokens := by
  cases hBlank : token.isBlank <;> simp [meaningful, hBlank]

/-- A derivation writes the text but for the blanks. -/
def Sum.Writes (sum : Sum) (text : List Char) : Prop :=
  sum.tokens = Token.meaningful (Token.scan text)

/-- A text that some derivation writes, however deep. -/
def IsSentence (text : List Char) : Prop := ∃ sum : Sum, sum.Writes text

/-- A text that can be completed to a sentence. -/
def Viable (text : List Char) : Prop := ∃ rest, IsSentence (text ++ rest)

/-- The number of parentheses and signs in front of an operand that are open at this point. -/
def Reading.depth : Reading → Nat
  | .operand hole => hole.nesting
  | .operation hole _ => hole.nesting

end Make24
