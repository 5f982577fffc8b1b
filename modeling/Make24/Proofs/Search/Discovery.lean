import Mathlib
import Make24.Search.Outcomes

/-! What a search comes back with. It notes the expressions of the plain enumeration in their order,
and the set of the known ones only serves to tell which were noted before. -/

namespace Make24.Search

theorem outcomes_of_ne {terms : List Term} (h : ∀ term, terms ≠ [term]) :
    outcomes terms = (steps terms).flatMap outcomes := by
  rw [outcomes.eq_def]
  split
  case h_1 term => exact absurd rfl (h term)
  case h_2 => rw [List.flatMap_def, List.flatMap_def, List.attach_map_val]

theorem discoveries_single (term : Term) :
    discoveries [term] = if isTarget term.value then [term.bareText] else [] := by
  rw [discoveries, outcomes]
  cases hTarget : isTarget term.value <;> simp [hTarget]

theorem discoveries_of_ne {terms : List Term} (h : ∀ term, terms ≠ [term]) :
    discoveries terms = (steps terms).flatMap discoveries := by
  unfold discoveries
  rw [outcomes_of_ne h, List.filter_flatMap, List.map_flatMap]

namespace Found

theorem noteAll_flatMap {α : Type} (found : Found) (list : List α) (texts : α → List String) :
    found.noteAll (list.flatMap texts) =
      list.foldl (fun found a => found.noteAll (texts a)) found :=
  List.foldl_flatMap

/-- A search notes what the enumeration discovers. -/
theorem search_eq_noteAll (found : Found) (terms : List Term) :
    found.search terms = found.noteAll (discoveries terms) := by
  induction hLength : terms.length using Nat.strong_induction_on generalizing found terms with
  | _ length ih =>
      rw [search.eq_def]
      split
      case h_1 term =>
          rw [discoveries_single]
          cases isTarget term.value <;> rfl
      case h_2 hSingle =>
          rw [discoveries_of_ne hSingle, noteAll_flatMap, List.foldl_attach]
          refine List.foldl_ext _ _ _ fun found next hNext => ?_
          have hShorter := length_of_mem_steps hNext
          exact ih next.length (by omega) found next rfl

/-- The expressions are noted once each and the set knows exactly those. -/
structure Coherent (found : Found) : Prop where
  known_iff : ∀ text, found.known.contains text = true ↔ text ∈ found.inOrder.toList
  nodup : found.inOrder.toList.Nodup

theorem coherent_empty : Coherent .empty where
  known_iff text := by simp [empty]
  nodup := List.nodup_nil

theorem note_of_known {found : Found} {text : String} (h : found.known.contains text = true) :
    found.note text = found := if_pos h

theorem note_of_unknown {found : Found} {text : String} (h : found.known.contains text = false) :
    found.note text = ⟨found.known.insert text, found.inOrder.push text⟩ := by
  rw [note, if_neg (by simp [h])]

namespace Coherent

theorem mem_note {found : Found} (hCoherent : found.Coherent) (text other : String) :
    other ∈ (found.note text).inOrder.toList ↔ other ∈ found.inOrder.toList ∨ other = text := by
  cases hKnown : found.known.contains text with
  | true =>
      rw [note_of_known hKnown]
      have hMem := (hCoherent.known_iff text).mp hKnown
      exact ⟨.inl, fun h => h.elim id fun hEq => hEq ▸ hMem⟩
  | false =>
      rw [note_of_unknown hKnown, Array.toList_push, List.mem_append, List.mem_singleton]

theorem note {found : Found} (hCoherent : found.Coherent) (text : String) :
    (found.note text).Coherent := by
  cases hKnown : found.known.contains text with
  | true =>
      rw [note_of_known hKnown]
      exact hCoherent
  | false =>
      have hNew : text ∉ found.inOrder.toList := by
        rw [← hCoherent.known_iff, hKnown]
        exact Bool.false_ne_true
      rw [note_of_unknown hKnown]
      refine ⟨fun other => ?_, ?_⟩
      · rw [Std.HashSet.contains_insert, Bool.or_eq_true, hCoherent.known_iff, beq_iff_eq,
          Array.toList_push, List.mem_append, List.mem_singleton, or_comm, eq_comm]
      · rw [Array.toList_push, List.nodup_append]
        refine ⟨hCoherent.nodup, List.nodup_singleton text, ?_⟩
        rintro other hOther _ hText rfl
        exact hNew (List.mem_singleton.mp hText ▸ hOther)

theorem noteAll {found : Found} (hCoherent : found.Coherent) (texts : List String) :
    (found.noteAll texts).Coherent := by
  induction texts generalizing found with
  | nil => exact hCoherent
  | cons text texts ih => exact ih (hCoherent.note text)

theorem mem_noteAll {found : Found} (hCoherent : found.Coherent) (texts : List String)
    (other : String) :
    other ∈ (found.noteAll texts).inOrder.toList ↔
      other ∈ found.inOrder.toList ∨ other ∈ texts := by
  induction texts generalizing found with
  | nil => exact ⟨.inl, fun h => h.elim id fun hMem => absurd hMem List.not_mem_nil⟩
  | cons text texts ih =>
      change other ∈ ((found.note text).noteAll texts).inOrder.toList ↔ _
      rw [ih (hCoherent.note text), hCoherent.mem_note, List.mem_cons, or_assoc]

end Coherent

end Found

/-- The expressions that a search finds from scratch are the discoveries. -/
theorem mem_search_empty (terms : List Term) (text : String) :
    text ∈ (Found.empty.search terms).inOrder.toList ↔ text ∈ discoveries terms := by
  rw [Found.search_eq_noteAll, Found.coherent_empty.mem_noteAll]
  exact ⟨fun h => h.elim (fun hMem => absurd hMem List.not_mem_nil) id, .inr⟩

theorem nodup_search_empty (terms : List Term) :
    (Found.empty.search terms).inOrder.toList.Nodup := by
  rw [Found.search_eq_noteAll]
  exact (Found.coherent_empty.noteAll _).nodup

end Make24.Search
