import Std.Data.HashSet
import Make24.Round
import Make24.Search.Term

/-! The exhaustive search for expressions that make the target. It takes two of the terms, replaces
them by one of their reductions at the end of the list, and goes on until one term is left. -/

namespace Make24

namespace Search

/-- Every way to take one element out of a list, with the others in their order. -/
def picks {α : Type} : List α → List (α × List α)
  | [] => []
  | a :: rest => (a, rest) :: (picks rest).map fun (b, others) => (b, a :: others)

theorem length_of_mem_picks {α : Type} {list : List α} {pick : α × List α}
    (h : pick ∈ picks list) : pick.2.length + 1 = list.length := by
  induction list generalizing pick with
  | nil => simp [picks] at h
  | cons a rest ih =>
      simp only [picks, List.mem_cons, List.mem_map] at h
      rcases h with rfl | ⟨inner, member, rfl⟩
      · rfl
      · simp [ih member]

/-- The lists of terms that one step of the search leads to, in the order in which they are
searched: pairs by the place of the first term and then of the second. -/
def steps (terms : List Term) : List (List Term) :=
  (picks terms).flatMap fun (a, others) =>
    (picks others).flatMap fun (b, rest) =>
      (a.reductions b).map fun reduced => rest ++ [reduced]

/-- Every step leaves one term less. -/
theorem length_of_mem_steps {terms next : List Term} (h : next ∈ steps terms) :
    next.length + 1 = terms.length := by
  simp only [steps, List.mem_flatMap, List.mem_map] at h
  obtain ⟨first, firstMem, second, secondMem, reduced, -, rfl⟩ := h
  have hFirst := length_of_mem_picks firstMem
  have hSecond := length_of_mem_picks secondMem
  simp only [List.length_append, List.length_cons, List.length_nil]
  omega

/-- The expressions found so far: in order of discovery, and as a set for the question whether one
is already known. -/
structure Found where
  known : Std.HashSet String
  inOrder : Array String

namespace Found

def empty : Found := ⟨∅, #[]⟩

/-- Notes an expression unless it is known. -/
def note (found : Found) (text : String) : Found :=
  if found.known.contains text then found
  else ⟨found.known.insert text, found.inOrder.push text⟩

/-- Searches on from a list of terms and notes the expressions that make the target. -/
def search (found : Found) (terms : List Term) : Found :=
  match terms with
  | [term] => if isTarget term.value then found.note term.bareText else found
  | terms =>
      (steps terms).attach.foldl (fun found next => found.search next.val) found
termination_by terms.length
decreasing_by
  have := length_of_mem_steps next.property
  omega

end Found

end Search

/-- Every expression over the numbers that makes the target, each once, in the order in which the
search meets them. -/
def solve (numbers : Vector UInt8 Round.size) : List String :=
  (Search.Found.empty.search (numbers.toList.map Term.ofNumber)).inOrder.toList

/-- Whether the target can be made at all. -/
def hasSolution (numbers : Vector UInt8 Round.size) : Bool :=
  !(solve numbers).isEmpty

namespace Round

def solutions (round : Round) : List String := solve round.numbers

def hasSolution (round : Round) : Bool := Make24.hasSolution round.numbers

end Round

end Make24
