import Mathlib
import Make24.Submission.Judgement

/-! Reading an expression by recursive descent, straight off the characters: one call for each level
of precedence, with a cursor into the text that all calls share and a counter of the parentheses and
signs that are open. Nothing in these types promises that the calls come to an end or that the
counter can be raised and lowered; calls are given so much depth, and a number that leaves its word
is a fault. -/

namespace Make24

/-- Why there is no value: the submission is rejected, or a number does not fit its word or a place
its row. -/
inductive Stop where
  | rejected (rejection : Rejection)
  | fault
deriving DecidableEq, Repr

namespace Stop

/-- A number that has to be below the number of values of its word. -/
def fit (range n : Nat) : Except Stop Nat := if n < range then .ok n else .error .fault

/-- The number before a number, which has to be one. -/
def lower (n : Nat) : Except Stop Nat := if 0 < n then .ok (n - 1) else .error .fault

/-- The number of values of a counter. -/
def counterRange : Nat := 2 ^ 64

end Stop

/-- The sign that a character stands for. -/
def sign? (c : Char) : Option Sign :=
  if c = '+' then some .plus else if c = '-' then some .minus else none

/-- The operation of a product that a character stands for. -/
def scale? (c : Char) : Option Scale :=
  if c = '*' then some .multiply else if c = '/' then some .divide else none

/-- Where the calls are in the text. -/
structure Cursor where
  /-- The bytes before the rest. -/
  offset : Nat
  rest : List Char
  /-- The number of parentheses and signs that are open. -/
  depth : Nat
  /-- The greatest number that the depth was. No call looks at it. -/
  deepest : Nat
  /-- The most parentheses and signs inside which a call was made. No call looks at it. -/
  entered : Nat

namespace Cursor

/-- At the beginning of a text. -/
def start (text : List Char) : Cursor := ⟨0, text, 0, 0, 0⟩

/-- Past the characters in front that have a property. -/
def past (cursor : Cursor) (p : Char → Bool) : Cursor :=
  { cursor with
    offset := cursor.offset + String.utf8Len (cursor.rest.takeWhile p)
    rest := cursor.rest.dropWhile p }

/-- Past the first character. -/
def next (cursor : Cursor) : Cursor :=
  { cursor with
    offset := cursor.offset + String.utf8Len (cursor.rest.take 1)
    rest := cursor.rest.drop 1 }

end Cursor

/-- A call moves the cursor and may stop; with too little depth left it has no result at all. -/
abbrev Descent := ExceptT Stop (StateT Cursor Option)

namespace Descent

def reject {α : Type} (rejection : Rejection) : Descent α := throw (.rejected rejection)

/-- What cannot stand at the cursor, or the end of the text there. -/
def malformed {α : Type} : Descent α := do
  reject (.malformed (← get).offset)

/-- Goes past white space and looks at the next character without going past it. -/
def peek : Descent (Option Char) := do
  modify (·.past Text.isBlank)
  return (← get).rest.head?

def advance : Descent Unit := modify Cursor.next

/-- Opens a parenthesis or a sign. The depth is counted up before it is compared with the limit. -/
def enter : Descent Unit := do
  let cursor ← get
  let depth ← liftExcept (Stop.fit Stop.counterRange (cursor.depth + 1))
  set { cursor with depth, deepest := max cursor.deepest depth }
  if nestingLimit < depth then reject .nestingTooDeep
  modify fun cursor => { cursor with entered := max cursor.entered depth }

/-- Closes a parenthesis or a sign. -/
def leave : Descent Unit := do
  let cursor ← get
  let depth ← liftExcept (Stop.lower cursor.depth)
  set { cursor with depth }

/-- What is open behind the next character while something is read, and closed again after it. -/
def nested (body : Descent Float) : Descent Float := do
  advance
  enter
  let value ← body
  leave
  return value

/-- The closing parenthesis of a sum in parentheses. -/
def close : Descent Unit := do
  match ← peek with
  | some ')' => advance
  | _ => malformed

/-- The value of a run of digits, digit by digit. -/
def number : Descent Float := do
  let digits := (← get).rest.takeWhile Char.isDigit
  modify (·.past Char.isDigit)
  return Digits.value (digits.filterMap digit?)

/-- No call may be made any more. -/
def exhausted {α : Type} : Descent α := fun _ => none

mutual

def sum : Nat → Descent Float
  | 0 => exhausted
  | fuel + 1 => do
      let value ← product fuel
      sumFrom fuel value

/-- The products that are added to a value or taken from it. -/
def sumFrom : Nat → Float → Descent Float
  | 0, _ => exhausted
  | fuel + 1, value => do
      match (← peek).bind sign? with
      | some sign =>
          advance
          let right ← product fuel
          sumFrom fuel (sign.combine value right)
      | none => return value

def product : Nat → Descent Float
  | 0 => exhausted
  | fuel + 1 => do
      let value ← factor fuel
      productFrom fuel value

/-- The factors that a value is multiplied or divided by. -/
def productFrom : Nat → Float → Descent Float
  | 0, _ => exhausted
  | fuel + 1, value => do
      match (← peek).bind scale? with
      | some scale =>
          advance
          let right ← factor fuel
          productFrom fuel (scale.combine value right)
      | none => return value

def factor : Nat → Descent Float
  | 0 => exhausted
  | fuel + 1 => do
      match ← peek with
      | none => malformed
      | some c =>
          match sign? c with
          | some sign =>
              nested do
                let operand ← factor fuel
                return sign.apply operand
          | none =>
              if c = '(' then
                nested do
                  let inner ← sum fuel
                  close
                  return inner
              else if c.isDigit then number
              else malformed

end

/-- The value of a whole text. -/
def whole (fuel : Nat) : Descent Float := do
  let value ← sum fuel
  match ← peek with
  | none => return value
  | some _ => malformed

section Outcomes

variable {α β : Type} {call call' : Descent α} {next next' : α → Descent β} {start finish : Cursor}

/-- A call comes to an end, with what the postcondition says of its result and of the cursor. -/
def Meets (call : Descent α) (start : Cursor) (post : Except Stop α → Cursor → Prop) : Prop :=
  ∃ result finish, call.run.run start = some (result, finish) ∧ post result finish

theorem Meets.of_run {result : Except Stop α} {post : Except Stop α → Cursor → Prop}
    (hRun : call.run.run start = some (result, finish)) (hPost : post result finish) :
    Meets call start post :=
  ⟨result, finish, hRun, hPost⟩

/-- A call and what is called with its value; a stop ends both. -/
theorem Meets.bind {post : Except Stop β → Cursor → Prop}
    (h : Meets call start fun result finish =>
      match result with
      | .ok value => Meets (next value) finish post
      | .error stop => post (.error stop) finish) :
    Meets (call >>= next) start post := by
  obtain ⟨result, finish, hRun, hPost⟩ := h
  cases result with
  | error stop => exact ⟨.error stop, finish, by simp [hRun], hPost⟩
  | ok value =>
      obtain ⟨result, last, hNext, hPost⟩ := hPost
      exact ⟨result, last, by simp [hRun, hNext], hPost⟩

/-- Where the one call comes to an end the other comes to the same end. -/
def Refines (call call' : Descent α) : Prop :=
  ∀ start outcome, call.run.run start = some outcome → call'.run.run start = some outcome

theorem Refines.refl (call : Descent α) : Refines call call := fun _ _ hRun => hRun

theorem Refines.bind (hCall : Refines call call')
    (hNext : ∀ value, Refines (next value) (next' value)) :
    Refines (call >>= next) (call' >>= next') := by
  intro start outcome hRun
  rw [ExceptT.run_bind, StateT.run_bind, Option.bind_eq_bind, Option.bind_eq_some_iff] at hRun ⊢
  obtain ⟨⟨result, finish⟩, hFirst, hRest⟩ := hRun
  refine ⟨(result, finish), hCall _ _ hFirst, ?_⟩
  cases result with
  | error stop => exact hRest
  | ok value => exact hNext value _ _ hRest

theorem Refines.nested {body body' : Descent Float} (hBody : Refines body body') :
    Refines (nested body) (nested body') :=
  (Refines.refl _).bind fun _ => (Refines.refl _).bind fun _ => hBody.bind fun _ => .refl _

end Outcomes

/-- More depth does not change what a call comes to. -/
theorem refines_succ (fuel : Nat) :
    Refines (sum fuel) (sum (fuel + 1)) ∧
      (∀ value, Refines (sumFrom fuel value) (sumFrom (fuel + 1) value)) ∧
      Refines (product fuel) (product (fuel + 1)) ∧
      (∀ value, Refines (productFrom fuel value) (productFrom (fuel + 1) value)) ∧
      Refines (factor fuel) (factor (fuel + 1)) := by
  induction fuel with
  | zero =>
      have hNone (call : Descent Float) : Refines exhausted call := fun _ _ hRun => by cases hRun
      exact ⟨hNone _, fun _ => hNone _, hNone _, fun _ => hNone _, hNone _⟩
  | succ fuel ih =>
      obtain ⟨hSum, hSumFrom, hProduct, hProductFrom, hFactor⟩ := ih
      refine ⟨?_, fun value => ?_, ?_, fun value => ?_, ?_⟩
      · rw [sum, sum]
        exact hProduct.bind hSumFrom
      · rw [sumFrom, sumFrom]
        refine (Refines.refl _).bind fun next => ?_
        cases next.bind sign? with
        | none => exact .refl _
        | some sign => exact (Refines.refl _).bind fun _ => hProduct.bind fun _ => hSumFrom _
      · rw [product, product]
        exact hFactor.bind hProductFrom
      · rw [productFrom, productFrom]
        refine (Refines.refl _).bind fun next => ?_
        cases next.bind scale? with
        | none => exact .refl _
        | some scale => exact (Refines.refl _).bind fun _ => hFactor.bind fun _ => hProductFrom _
      · rw [factor, factor]
        refine (Refines.refl _).bind fun next => ?_
        cases next with
        | none => exact .refl _
        | some c =>
            dsimp only
            cases sign? c with
            | some sign => exact (hFactor.bind fun _ => .refl _).nested
            | none =>
                dsimp only
                split
                · exact (hSum.bind fun _ => .refl _).nested
                · exact .refl _

end Descent

end Make24
