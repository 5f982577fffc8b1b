import Make24.Search.Term

/-! Expressions over the numbers of cards as trees, apart from any search. -/

namespace Make24

inductive Tree where
  | leaf (number : UInt8)
  | node (op : Op) (left right : Tree)
deriving DecidableEq, Repr

namespace Tree

/-- The numbers of a tree from left to right. -/
def leaves : Tree → List UInt8
  | leaf number => [number]
  | node _ left right => left.leaves ++ right.leaves

/-- The value of a tree, in floating point from the leaves up. -/
def value : Tree → Float
  | leaf number => number.toFloat
  | node op left right => op.apply left.value right.value

/-- No divisor in the tree is a zero of either sign. -/
def Divides : Tree → Prop
  | leaf _ => True
  | node op left right =>
      left.Divides ∧ right.Divides ∧ (op = .div → (right.value == 0.0) = false)

/-- A tree with parentheses around every operation. -/
def wrappedText : Tree → String
  | leaf number => toString number.toNat
  | node op left right =>
      "(" ++ left.wrappedText ++ " " ++ op.symbol.toString ++ " " ++ right.wrappedText ++ ")"

/-- A tree with parentheses around every operation but the last. -/
def text : Tree → String
  | leaf number => toString number.toNat
  | node op left right =>
      left.wrappedText ++ " " ++ op.symbol.toString ++ " " ++ right.wrappedText

/-- The term that a search builds for a tree. -/
def term : Tree → Term
  | leaf number => .ofNumber number
  | node op left right => left.term.join op right.term

theorem value_term (tree : Tree) : tree.term.value = tree.value := by
  induction tree with
  | leaf => rfl
  | node op left right ihLeft ihRight => simp [term, Term.join, value, ihLeft, ihRight]

theorem text_term (tree : Tree) : tree.term.text = tree.wrappedText := by
  induction tree with
  | leaf => rfl
  | node op left right ihLeft ihRight => simp [term, Term.join, wrappedText, ihLeft, ihRight]

end Tree

end Make24
