import Make24.Round
import Make24.Submission.Reading
import Make24.Submission.Rejection

/-! Judging a submission against the round in play. The text passes four gates in order and the
first that fails decides: it holds four short numbers, they are those of the cards, it holds no
character that an expression may not, and it is an expression. What passes has a value. -/

namespace Make24.Submission

/-- The most digits that a number may have. -/
def digitLimit : Nat := 2

/-- The runs of digits among the tokens of a text, in order. -/
def digitRuns (tokens : List Token) : List Digits :=
  tokens.filterMap Token.digits?

/-- Reads up to `room` more numbers off the runs, `found` having been read. A run that is too long
is noticed before it is noticed that there is no room for it; what comes after is not looked at. -/
def readNumbers (found : Nat) : Nat → List Digits → Except Rejection (List Nat)
  | 0, [] => .ok []
  | _ + 1, [] => .error (.tooFewNumbers found)
  | room, run :: rest =>
      if digitLimit < run.length then .error .numberTooLong
      else
        match room with
        | 0 => .error .numberMismatch
        | room + 1 =>
            match readNumbers (found + 1) room rest with
            | .ok numbers => .ok (run.toNat :: numbers)
            | .error rejection => .error rejection

/-- Whether the numbers are those of the cards, each as often, in any order. -/
def usesCards (round : Round) (numbers : List Nat) : Bool :=
  numbers.isPerm (round.numbers.toList.map UInt8.toNat)

/-- The first character that no expression may hold. -/
def firstForeign? (tokens : List Token) : Option Char :=
  tokens.findSome? Token.foreign?

/-- What is reported for a text that is no expression. -/
def rejectionOf : ReadError → Rejection
  | .malformed offset => .malformed offset
  | .nestingTooDeep => .nestingTooDeep

/-- The expression that the tokens of a submission write, if it may be played in the round. -/
def accept (tokens : List Token) (round : Round) : Except Rejection Sum :=
  match readNumbers 0 Round.size (digitRuns tokens) with
  | .error rejection => .error rejection
  | .ok numbers =>
      if usesCards round numbers then
        match firstForeign? tokens with
        | some c => .error (.forbiddenCharacter c)
        | none => (Sum.read tokens).mapError rejectionOf
      else .error .numberMismatch

end Make24.Submission

namespace Make24

/-- The value of a submission in a round; it wins the round if it is the target exactly. -/
def evaluate (text : String) (round : Round) : Except Rejection Float :=
  (Submission.accept (Token.scan text.toList) round).map Sum.value

end Make24
