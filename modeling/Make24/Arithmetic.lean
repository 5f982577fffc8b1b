/-! The four operations of the puzzle on binary floating-point numbers. Sums and products are kept
apart because a written expression gives them different precedence. All arithmetic is rounded
double precision and the target is compared exactly, without a tolerance. -/

namespace Make24

/-- The value that has to be made. -/
def target : Float := 24.0

/-- Whether a value is the target exactly. -/
def isTarget (value : Float) : Bool := value == target

/-- Plus or minus, between two terms or in front of one. -/
inductive Sign where
  | plus
  | minus
deriving DecidableEq, Repr

namespace Sign

def symbol : Sign → Char
  | plus => '+'
  | minus => '-'

/-- The sign between two terms. -/
def combine : Sign → Float → Float → Float
  | plus, a, b => a + b
  | minus, a, b => a - b

/-- The sign in front of an operand. A minus flips the sign bit, so it makes a negative zero
of a zero. -/
def apply : Sign → Float → Float
  | plus, a => a
  | minus, a => -a

end Sign

/-- Multiplied by or divided by, between two factors. -/
inductive Scale where
  | multiply
  | divide
deriving DecidableEq, Repr

namespace Scale

def symbol : Scale → Char
  | multiply => '*'
  | divide => '/'

/-- Division by zero is not an error: it gives an infinity or no number. -/
def combine : Scale → Float → Float → Float
  | multiply, a, b => a * b
  | divide, a, b => a / b

end Scale

/-- Any of the four operations between two values. -/
inductive Op where
  | additive (sign : Sign)
  | multiplicative (scale : Scale)
deriving DecidableEq, Repr

namespace Op

@[match_pattern] def add : Op := additive .plus
@[match_pattern] def sub : Op := additive .minus
@[match_pattern] def mul : Op := multiplicative .multiply
@[match_pattern] def div : Op := multiplicative .divide

def symbol : Op → Char
  | additive sign => sign.symbol
  | multiplicative scale => scale.symbol

def apply : Op → Float → Float → Float
  | additive sign => sign.combine
  | multiplicative scale => scale.combine

end Op

end Make24
