import Make24.Text.Quoted

/-! Why a submission is rejected before its value counts. -/

namespace Make24

inductive Rejection where
  /-- fewer than four numbers are written -/
  | tooFewNumbers (found : Nat)
  /-- a number has three or more digits -/
  | numberTooLong
  /-- the numbers are not those of the cards -/
  | numberMismatch
  /-- the first character that no expression may hold -/
  | forbiddenCharacter (c : Char)
  /-- the byte offset of what cannot follow, or of the end of the text -/
  | malformed (offset : Nat)
  /-- too many parentheses and signs are open at once -/
  | nestingTooDeep
deriving DecidableEq, Repr

def Rejection.message : Rejection → String
  | tooFewNumbers found => s!"expected four numbers, found {found}"
  | numberTooLong => "numbers have at most two digits"
  | numberMismatch => "numbers do not match the cards in play"
  | forbiddenCharacter c => "character " ++ Text.quote c ++ " is not allowed"
  | malformed offset => s!"malformed expression at offset {offset}"
  | nestingTooDeep => "expression is nested too deeply"

end Make24
