import Make24.Submission.Token

/-! The grammar of submissions, one type for each level of precedence:

* a sum is a product, or a sum, a plus or minus, and a product;
* a product is a factor, or a product, a times or divided by, and a factor;
* a factor is a number, a sign and a factor, or a sum in parentheses.

A value of these types is a derivation: operations of one level group to the left, and a sign binds
tighter than any operation. Blanks are not part of a derivation. -/

namespace Make24

mutual
inductive Sum where
  | single (product : Product)
  | extend (left : Sum) (sign : Sign) (right : Product)
deriving DecidableEq, Repr

inductive Product where
  | single (factor : Factor)
  | extend (left : Product) (scale : Scale) (right : Factor)
deriving DecidableEq, Repr

inductive Factor where
  | number (digits : Digits)
  | signed (sign : Sign) (operand : Factor)
  | group (inner : Sum)
deriving DecidableEq, Repr
end

mutual
/-- The value of a sum, in floating point from left to right. -/
def Sum.value : Sum → Float
  | .single product => product.value
  | .extend left sign right => sign.combine left.value right.value

/-- The value of a product, in floating point from left to right. -/
def Product.value : Product → Float
  | .single factor => factor.value
  | .extend left scale right => scale.combine left.value right.value

def Factor.value : Factor → Float
  | .number digits => digits.value
  | .signed sign operand => sign.apply operand.value
  | .group inner => inner.value
end

mutual
/-- The tokens that a sum is written with, without blanks. -/
def Sum.tokens : Sum → List Token
  | .single product => product.tokens
  | .extend left sign right => left.tokens ++ .sign sign :: right.tokens

/-- The tokens that a product is written with, without blanks. -/
def Product.tokens : Product → List Token
  | .single factor => factor.tokens
  | .extend left scale right => left.tokens ++ .scale scale :: right.tokens

/-- The tokens that a factor is written with, without blanks. -/
def Factor.tokens : Factor → List Token
  | .number digits => [.number digits]
  | .signed sign operand => .sign sign :: operand.tokens
  | .group inner => .opening :: inner.tokens ++ [.closing]
end

mutual
/-- The most parentheses and signs in front of an operand that are open at once in a sum. -/
def Sum.nesting : Sum → Nat
  | .single product => product.nesting
  | .extend left _ right => max left.nesting right.nesting

/-- The most parentheses and signs in front of an operand that are open at once in a product. -/
def Product.nesting : Product → Nat
  | .single factor => factor.nesting
  | .extend left _ right => max left.nesting right.nesting

/-- The most parentheses and signs in front of an operand that are open at once in a factor. -/
def Factor.nesting : Factor → Nat
  | .number _ => 0
  | .signed _ operand => operand.nesting + 1
  | .group inner => inner.nesting + 1
end

end Make24
