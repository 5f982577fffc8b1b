import Make24.Arithmetic

/-! The partial results that a search works on. -/

namespace Make24

/-- A value and the expression that makes it. -/
structure Term where
  value : Float
  text : String

namespace Term

/-- A number as it stands on a card. -/
def ofNumber (number : UInt8) : Term :=
  ⟨number.toFloat, toString number.toNat⟩

/-- Two terms joined by an operation and put in parentheses. -/
def join (left : Term) (op : Op) (right : Term) : Term :=
  ⟨op.apply left.value right.value,
    "(" ++ left.text ++ " " ++ op.symbol.toString ++ " " ++ right.text ++ ")"⟩

/-- The results of joining two terms, in the order in which a search tries them. A quotient is left
out if its divisor is a zero of either sign. -/
def reductions (a b : Term) : List Term :=
  [a.join .add b, a.join .sub b, b.join .sub a, a.join .mul b]
    ++ (if b.value == 0.0 then [] else [a.join .div b])
    ++ (if a.value == 0.0 then [] else [b.join .div a])

/-- The expression without the parentheses around the whole of it. A lone number has none. -/
def bareText (term : Term) : String :=
  match term.text.toList with
  | '(' :: inner =>
      match inner.reverse with
      | ')' :: middle => String.ofList middle.reverse
      | _ => term.text
  | _ => term.text

end Term

end Make24
