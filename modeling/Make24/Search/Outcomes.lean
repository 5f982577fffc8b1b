import Make24.Search.Solutions

/-! The search as a plain enumeration: the terms that it ends in, in the order in which it comes to
them, without any memory of what was found. -/

namespace Make24.Search

/-- The single terms that the steps from a list of terms end in. -/
def outcomes (terms : List Term) : List Term :=
  match terms with
  | [term] => [term]
  | terms => (steps terms).attach.flatMap fun next => outcomes next.val
termination_by terms.length
decreasing_by
  have := length_of_mem_steps next.property
  omega

/-- The expressions that make the target, as often as the search comes to them. -/
def discoveries (terms : List Term) : List String :=
  ((outcomes terms).filter fun term => isTarget term.value).map Term.bareText

/-- What noting texts one after the other leads to. -/
def Found.noteAll (found : Found) (texts : List String) : Found :=
  texts.foldl Found.note found

end Make24.Search
