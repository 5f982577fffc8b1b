import Make24.Submission.Grammar

/-! Reading a derivation from tokens, one token at a time. Between two tokens the reader holds the
unfinished derivation as a hole: what has been read so far around the place where the next operand
goes. One type of hole for each level of precedence leaves no ill-formed state to rule out. -/

namespace Make24

/-- The most parentheses and signs that may be open at once. -/
def nestingLimit : Nat := 128

mutual
/-- Where a sum goes: it is the whole submission or stands in parentheses. -/
inductive SumHole where
  | whole
  | group (outer : FactorHole)

/-- Where a product goes: first in a sum or after what was read of the sum. -/
inductive ProductHole where
  | first (outer : SumHole)
  | after (left : Sum) (sign : Sign) (outer : SumHole)

/-- Where a factor goes: first in a product, after what was read of the product, or behind a
sign. -/
inductive FactorHole where
  | first (outer : ProductHole)
  | after (left : Product) (scale : Scale) (outer : ProductHole)
  | signed (sign : Sign) (outer : FactorHole)
end

mutual
/-- The number of parentheses and signs that are open around a sum. -/
def SumHole.nesting : SumHole → Nat
  | .whole => 0
  | .group outer => outer.nesting + 1

/-- The number of parentheses and signs that are open around a product. -/
def ProductHole.nesting : ProductHole → Nat
  | .first outer => outer.nesting
  | .after _ _ outer => outer.nesting

/-- The number of parentheses and signs that are open around a factor. -/
def FactorHole.nesting : FactorHole → Nat
  | .first outer => outer.nesting
  | .after _ _ outer => outer.nesting
  | .signed _ outer => outer.nesting + 1
end

/-- What the reader is in the middle of: it needs an operand, or it has read a product and an
operation, a closing parenthesis or the end may follow. -/
inductive Reading where
  | operand (hole : FactorHole)
  | operation (hole : ProductHole) (read : Product)

/-- Nothing is read yet. -/
def Reading.start : Reading := .operand (.first (.first .whole))

/-- Puts a factor in its place; a sign in front of it is closed by it. -/
def FactorHole.fill : FactorHole → Factor → Reading
  | .first outer, factor => .operation outer (.single factor)
  | .after left scale outer, factor => .operation outer (.extend left scale factor)
  | .signed sign outer, factor => outer.fill (.signed sign factor)

/-- Puts a product in its place when no further factor belongs to it. -/
def ProductHole.fill : ProductHole → Product → SumHole × Sum
  | .first outer, product => (outer, .single product)
  | .after left sign outer, product => (outer, .extend left sign product)

/-- Why a token cannot be read. -/
inductive Fault where
  | unexpected
  | tooDeep
deriving DecidableEq, Repr

/-- Opens a parenthesis or a sign inside a hole unless too many are open. -/
def FactorHole.enter (hole : FactorHole) (inner : FactorHole) : Except Fault Reading :=
  if hole.nesting < nestingLimit then .ok (.operand inner) else .error .tooDeep

/-- Reads one token. -/
def Reading.step : Reading → Token → Except Fault Reading
  | reading, .blank _ => .ok reading
  | .operand hole, .number digits => .ok (hole.fill (.number digits))
  | .operand hole, .sign sign => hole.enter (.signed sign hole)
  | .operand hole, .opening => hole.enter (.first (.first (.group hole)))
  | .operand _, _ => .error .unexpected
  | .operation hole read, .scale scale => .ok (.operand (.after read scale hole))
  | .operation hole read, .sign sign =>
      let (outer, sum) := hole.fill read
      .ok (.operand (.first (.after sum sign outer)))
  | .operation hole read, .closing =>
      match hole.fill read with
      | (.group outer, sum) => .ok (outer.fill (.group sum))
      | (.whole, _) => .error .unexpected
  | .operation _ _, _ => .error .unexpected

/-- The derivation that is complete if the tokens end here. -/
def Reading.finish? : Reading → Option Sum
  | .operand _ => none
  | .operation hole read =>
      match hole.fill read with
      | (.whole, sum) => some sum
      | (.group _, _) => none

/-- Why tokens are no derivation: the offset of the first token that cannot follow, or the end of
the text if more was needed; or that too much is open at once. -/
inductive ReadError where
  | malformed (offset : Nat)
  | nestingTooDeep
deriving DecidableEq, Repr

/-- What is reported for a token at an offset. -/
def Fault.located (offset : Nat) : Fault → ReadError
  | unexpected => .malformed offset
  | tooDeep => .nestingTooDeep

/-- Reads the tokens from a byte offset on. -/
def Reading.run (offset : Nat) : Reading → List Token → Except ReadError Sum
  | reading, [] =>
      match reading.finish? with
      | some sum => .ok sum
      | none => .error (.malformed offset)
  | reading, token :: rest =>
      match reading.step token with
      | .ok next => next.run (offset + token.width) rest
      | .error fault => .error (fault.located offset)

/-- The derivation that the tokens of a text write. -/
def Sum.read (tokens : List Token) : Except ReadError Sum :=
  Reading.start.run 0 tokens

end Make24
