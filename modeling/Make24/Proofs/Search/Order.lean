import Mathlib
import Make24.Terminal.Session
import Make24.Proofs.Search.Enumeration

/-! The order in which a search finds its expressions. Places in a row of terms are taken pair by
pair, the first place and then the second, and every pair is followed to its end before the next
one. What the search adds to the expressions that it has are the new ones among those met, each
where it is met first; the set of the known ones has no say in the order. -/

namespace Make24.Search

/-- What two terms come to, in the order in which it is tried: the sum, the two differences and the
product, and then the two quotients, each of them unless its divisor is zero. -/
def combined (a b : Term) : List Term :=
  [some ⟨a.value + b.value, "(" ++ a.text ++ " + " ++ b.text ++ ")"⟩,
    some ⟨a.value - b.value, "(" ++ a.text ++ " - " ++ b.text ++ ")"⟩,
    some ⟨b.value - a.value, "(" ++ b.text ++ " - " ++ a.text ++ ")"⟩,
    some ⟨a.value * b.value, "(" ++ a.text ++ " * " ++ b.text ++ ")"⟩,
    if b.value != 0.0 then some ⟨a.value / b.value, "(" ++ a.text ++ " / " ++ b.text ++ ")"⟩
      else none,
    if a.value != 0.0 then some ⟨b.value / a.value, "(" ++ b.text ++ " / " ++ a.text ++ ")"⟩
      else none].reduceOption

/-- A text without the parenthesis that opens it and the one that closes it, if it has both. -/
def stripped (text : String) : String :=
  if text.toList.head? = some '(' ∧ text.toList.tail.getLast? = some ')' then
    String.ofList text.toList.tail.dropLast
  else text

/-- The terms at all places but two, in their order. -/
def untouched (terms : List Term) (first second : Fin terms.length) : List Term :=
  ((List.finRange terms.length).filter fun place => place ≠ first ∧ place ≠ second).map terms.get

/-- The rows that one reduction leads to: for every first place and every other second place, what
the terms there come to, each behind the untouched terms. -/
def branches (terms : List Term) : List (List Term) :=
  (List.finRange terms.length).flatMap fun first =>
    ((List.finRange terms.length).filter (· ≠ first)).flatMap fun second =>
      (combined (terms.get first) (terms.get second)).map fun reduced =>
        untouched terms first second ++ [reduced]

/-- The terms that a row ends in after some rounds of reductions, depth first. -/
def finals : Nat → List Term → List Term
  | 0, terms => terms
  | rounds + 1, terms => (branches terms).flatMap (finals rounds)

/-- The expressions of the final terms that have 24 for their value, as often as they are met. -/
def met (terms : List Term) : List String :=
  ((finals (terms.length - 1) terms).filter (·.value == 24.0)).map fun term => stripped term.text

section Terms

/-- An operation is written between spaces and in parentheses. -/
theorem join_eq {op : Op} {spaced : String} (hSpaced : " " ++ op.symbol.toString ++ " " = spaced)
    (a b : Term) :
    a.join op b = ⟨op.apply a.value b.value, "(" ++ a.text ++ spaced ++ b.text ++ ")"⟩ := by
  subst hSpaced
  simp only [Term.join, String.append_assoc]

theorem reductions_eq_combined (a b : Term) : a.reductions b = combined a b := by
  have hAdd : " " ++ Op.add.symbol.toString ++ " " = " + " := by decide
  have hSub : " " ++ Op.sub.symbol.toString ++ " " = " - " := by decide
  have hMul : " " ++ Op.mul.symbol.toString ++ " " = " * " := by decide
  have hDiv : " " ++ Op.div.symbol.toString ++ " " = " / " := by decide
  unfold Term.reductions combined
  simp only [join_eq hAdd, join_eq hSub, join_eq hMul, join_eq hDiv]
  cases hLeft : a.value == 0.0 <;> cases hRight : b.value == 0.0 <;>
    simp [List.reduceOption, bne, hLeft, hRight, Op.apply, Sign.combine, Scale.combine]

theorem bareText_eq_stripped (term : Term) : term.bareText = stripped term.text := by
  unfold Term.bareText stripped
  split
  case h_1 inner hText =>
    rw [hText, List.head?_cons, List.tail_cons]
    split
    case h_1 middle hInner =>
      rw [List.reverse_eq_cons_iff] at hInner
      simp [hInner]
    case h_2 hInner =>
      rw [if_neg]
      rintro ⟨-, hLast⟩
      rw [List.getLast?_eq_head?_reverse] at hLast
      obtain ⟨middle, hMiddle⟩ := List.head?_eq_some_iff.mp hLast
      exact hInner middle hMiddle
  case h_2 hText =>
    rw [if_neg]
    rintro ⟨hFirst, -⟩
    obtain ⟨inner, hInner⟩ := List.head?_eq_some_iff.mp hFirst
    exact hText inner hInner

end Terms

section Picks

variable {α : Type} [DecidableEq α]

/-- Where nothing occurs twice, picking an element leaves all that are different from it. -/
theorem picks_of_nodup {list : List α} (hNodup : list.Nodup) :
    picks list = list.map fun a => (a, list.filter (· ≠ a)) := by
  induction list with
  | nil => rfl
  | cons a rest ih =>
      rw [List.nodup_cons] at hNodup
      have hFirst : (a :: rest).filter (· ≠ a) = rest := by
        rw [List.filter_cons_of_neg (by simp), List.filter_eq_self]
        intro b hMem
        exact decide_eq_true fun hEq => hNodup.1 (hEq ▸ hMem)
      rw [picks, ih hNodup.2, List.map_cons, hFirst, List.map_map]
      refine congrArg _ (List.map_congr_left fun b hMem => ?_)
      have hNe : a ≠ b := fun hEq => hNodup.1 (hEq ▸ hMem)
      rw [List.filter_cons_of_pos (by simpa using hNe)]
      rfl

end Picks

/-- One step of the search takes the pairs of places in their order. -/
theorem steps_eq_branches (terms : List Term) : steps terms = branches terms := by
  have hPlaces := List.nodup_finRange terms.length
  conv_lhs => rw [← List.map_get_finRange terms]
  unfold steps branches untouched
  rw [picks_map, picks_of_nodup hPlaces, List.map_map, List.flatMap_map]
  refine List.flatMap_congr fun first _ => ?_
  dsimp only [Function.comp_apply]
  rw [picks_map, picks_of_nodup (hPlaces.filter _), List.map_map, List.flatMap_map]
  refine List.flatMap_congr fun second _ => ?_
  dsimp only [Function.comp_apply]
  rw [List.filter_filter, reductions_eq_combined]
  simp only [Bool.and_comm, Bool.decide_and]

/-- The enumeration ends in the final terms. -/
theorem outcomes_eq_finals (terms : List Term) :
    outcomes terms = finals (terms.length - 1) terms := by
  induction hLength : terms.length using Nat.strong_induction_on generalizing terms with
  | _ length ih =>
      match terms with
      | [] =>
          subst hLength
          rw [outcomes_of_ne (by simp)]
          rfl
      | [term] =>
          subst hLength
          rw [outcomes]
          rfl
      | first :: second :: rest =>
          -- every row after the first reduction is one shorter, so it has one round less to go
          subst hLength
          rw [outcomes_of_ne (by simp), List.length_cons, Nat.add_sub_cancel, List.length_cons,
            finals, ← steps_eq_branches]
          refine List.flatMap_congr fun next hNext => ?_
          have hNextLength := length_of_mem_steps hNext
          simp only [List.length_cons, Nat.add_right_cancel_iff] at hNextLength
          rw [ih next.length (by simp [hNextLength]) next rfl, hNextLength, Nat.add_sub_cancel]

theorem discoveries_eq_met (terms : List Term) : discoveries terms = met terms := by
  unfold discoveries met
  rw [outcomes_eq_finals]
  exact List.map_congr_left fun term _ => bareText_eq_stripped term

/-- Noting texts adds those that are new, each where it comes first. -/
theorem Found.Coherent.noteAll_eq {found : Found} (hCoherent : found.Coherent)
    (texts : List String) :
    (found.noteAll texts).inOrder.toList =
      found.inOrder.toList ++ (texts.filter (· ∉ found.inOrder.toList)).eraseDups := by
  induction texts generalizing found with
  | nil => exact (List.append_nil _).symm
  | cons text texts ih =>
      change ((found.note text).noteAll texts).inOrder.toList = _
      rw [ih (hCoherent.note text)]
      cases hKnown : found.known.contains text with
      | true =>
          have hMem := (hCoherent.known_iff text).mp hKnown
          rw [note_of_known hKnown, List.filter_cons_of_neg (by simpa using hMem)]
      | false =>
          have hNew : text ∉ found.inOrder.toList := by
            rw [← hCoherent.known_iff, hKnown]
            exact Bool.false_ne_true
          rw [note_of_unknown hKnown, List.filter_cons_of_pos (by simpa using hNew),
            List.eraseDups_cons, List.filter_filter, Array.toList_push, List.append_assoc,
            List.singleton_append]
          congr 4
          funext other
          simp [Bool.beq_eq_decide_eq, Bool.and_comm]

/-- The expressions for some numbers are those met from the numbers, each where it is met first. -/
theorem solve_eq_eraseDups (numbers : Vector UInt8 Round.size) :
    solve numbers = (met (numbers.toList.map Term.ofNumber)).eraseDups := by
  unfold solve
  rw [Found.search_eq_noteAll, Found.coherent_empty.noteAll_eq, discoveries_eq_met]
  have hNone : Found.empty.inOrder.toList = [] := rfl
  simp [hNone]

open Terminal in
/-- A hint counts the expressions for the round in play and shows the one that is met first. -/
theorem hintLine_eq (game : Game) :
    hintLine game =
      match game.round? with
      | none => .noRound
      | some round =>
          let texts := met (round.numbers.toList.map Term.ofNumber)
          match texts.head? with
          | none => .noSolution
          | some first => .hint texts.eraseDups.length first := by
  unfold hintLine Round.solutions
  cases game.round? with
  | none => rfl
  | some round =>
      dsimp only
      rw [solve_eq_eraseDups]
      cases met (round.numbers.toList.map Term.ofNumber) with
      | nil => rfl
      | cons first texts => simp [List.eraseDups_cons]

/-- From any row of terms, whatever their values and texts, and with any expressions noted before:

* a search keeps the set of the known expressions and the row of the noted ones in agreement, and
  notes none twice;
* it adds to those noted before the ones that are met, in depth-first order, each where it is met
  first and none that was noted before: pair by pair of places, for each pair `a + b`, `a - b`,
  `b - a`, `a * b`, `a / b` and `b / a` in this order, and at the end every term that is 24, without
  the parentheses around it;
* what it notes does not depend on anything else about the set.

So the expressions for the numbers of a round are those met from the numbers, each where it is met
first, and a hint shows the very first. -/
theorem search_adds_first_met {found : Found} (hCoherent : found.Coherent) (terms : List Term) :
    ((found.search terms).Coherent ∧
      (found.search terms).inOrder.toList =
        found.inOrder.toList ++
          ((met terms).filter (· ∉ found.inOrder.toList)).eraseDups ∧
      ∀ other : Found, other.Coherent → other.inOrder = found.inOrder →
        (other.search terms).inOrder = (found.search terms).inOrder) ∧
    (∀ numbers : Vector UInt8 Round.size,
      solve numbers = (met (numbers.toList.map Term.ofNumber)).eraseDups) ∧
    ∀ game : Game, Terminal.hintLine game =
      match game.round? with
      | none => .noRound
      | some round =>
          let texts := met (round.numbers.toList.map Term.ofNumber)
          match texts.head? with
          | none => .noSolution
          | some first => .hint texts.eraseDups.length first := by
  have hAdds {noted : Found} (hNoted : noted.Coherent) :
      (noted.search terms).inOrder.toList =
        noted.inOrder.toList ++ ((met terms).filter (· ∉ noted.inOrder.toList)).eraseDups := by
    rw [Found.search_eq_noteAll, hNoted.noteAll_eq, discoveries_eq_met]
  refine ⟨⟨?_, hAdds hCoherent, fun other hOther hSame => ?_⟩, solve_eq_eraseDups, hintLine_eq⟩
  · rw [Found.search_eq_noteAll]
    exact hCoherent.noteAll _
  · rw [← Array.toList_inj, hAdds hOther, hAdds hCoherent, hSame]

/-- Of 24 and zero the two sums and the difference are met, the latter once for each order of the
terms and never the quotient by zero. The difference is noted already, so it stays in front. -/
theorem search_adds_first_met_zero :
    let found := Found.empty.note "24 - 0"
    let terms : List Term := [⟨24, "24"⟩, ⟨0, "0"⟩]
    found.Coherent ∧ met terms = ["24 + 0", "24 - 0", "0 + 24", "24 - 0"] ∧
      (found.search terms).inOrder.toList = ["24 - 0", "24 + 0", "0 + 24"] := by
  intro found terms
  have hCoherent : found.Coherent := Found.coherent_empty.note "24 - 0"
  have hMet : met terms = ["24 + 0", "24 - 0", "0 + 24", "24 - 0"] := by decide +kernel
  refine ⟨hCoherent, hMet, ?_⟩
  rw [(search_adds_first_met hCoherent terms).1.2.1, hMet]
  have hNoted : found.inOrder.toList = ["24 - 0"] := by
    simp [found, Found.note_of_unknown, Found.empty]
  rw [hNoted]
  decide

end Make24.Search
