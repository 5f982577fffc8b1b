import Mathlib
import Make24.Event
import Make24.Game.Basic

/-! The language of event traces. The words that commands tell are put together to patterns, one for
each phase: what can be heard of a game from that phase on. A word that a phase allows goes in front
of any trace of the phase that it leads to. -/

namespace Make24

open scoped Computability

namespace Trace

/-- A deal is announced as the round, then the deck, then the discards. -/
def announcement : List Event.Kind := [.roundDealt, .deckChanged, .discardsChanged]

/-- A restart announces its deal and then the players. -/
def reopening : List Event.Kind := announcement ++ [.playersReset]

/-- The words that begin the first session. -/
def openings : List (List Event.Kind) := [announcement, reopening]

/-- The words of commands that leave a round in play. -/
def turns : List (List Event.Kind) :=
  [[.attemptInvalid], [.attemptIncorrect], .pointScored :: announcement,
    announcement ++ [.roundSkipped], reopening]

/-- The words of commands that find the deck too short for another round. -/
def endings : List (List Event.Kind) := [[.pointScored, .gameFinished], [.gameFinished]]

abbrev Pattern := RegularExpression Event.Kind

namespace Pattern

/-- The pattern of a single word. -/
def word (kinds : List Event.Kind) : Pattern :=
  kinds.foldr (fun kind rest => .char kind * rest) 1

/-- The pattern of some words. -/
def oneOf (words : List (List Event.Kind)) : Pattern :=
  words.foldr (fun kinds rest => word kinds + rest) 0

/-- A session that was begun by a restart after the game had finished, without its end. -/
def again : Pattern := word reopening * (oneOf turns).star

/-- What can follow the end of a session: more sessions that came to an end, and perhaps one that
did not. -/
def finished : Pattern := (again * oneOf endings).star * (1 + again)

/-- What can follow while a round is in play. -/
def active : Pattern := (oneOf turns).star * (1 + oneOf endings * finished)

/-- All that can be heard of a game from its making on. -/
def notStarted : Pattern := 1 + oneOf openings * active

/-- What can follow in a phase. -/
def future : Phase → Pattern
  | .notStarted => notStarted
  | .active => active
  | .finished => finished

theorem mem_word {kinds other : List Event.Kind} :
    other ∈ (word kinds).matches' ↔ other = kinds := by
  induction kinds generalizing other with
  | nil => exact Iff.rfl
  | cons kind rest ih =>
      change other ∈ {[kind]} * (word rest).matches' ↔ _
      rw [Language.mem_mul]
      constructor
      · rintro ⟨first, hFirst, second, hSecond, rfl⟩
        obtain rfl : first = [kind] := hFirst
        rw [ih.mp hSecond]
        rfl
      · rintro rfl
        exact ⟨[kind], rfl, rest, ih.mpr rfl, rfl⟩

theorem mem_oneOf {words : List (List Event.Kind)} {kinds : List Event.Kind} :
    kinds ∈ (oneOf words).matches' ↔ kinds ∈ words := by
  induction words with
  | nil => simp [oneOf]
  | cons first rest ih =>
      change kinds ∈ (word first).matches' + (oneOf rest).matches' ↔ _
      rw [Language.mem_add, mem_word, ih, List.mem_cons]

theorem turns_mul_active_le :
    (oneOf turns).matches' * active.matches' ≤ active.matches' := by
  change (oneOf turns).matches' * ((oneOf turns).matches'∗ * _) ≤ (oneOf turns).matches'∗ * _
  rw [← mul_assoc]
  gcongr
  exact mul_kstar_le_kstar

theorem endings_mul_finished_le :
    (oneOf endings).matches' * finished.matches' ≤ active.matches' :=
  calc (oneOf endings).matches' * finished.matches'
    _ ≤ 1 + (oneOf endings).matches' * finished.matches' := le_add_self
    _ ≤ (oneOf turns).matches'∗ * (1 + (oneOf endings).matches' * finished.matches') :=
        le_mul_of_one_le_left' one_le_kstar

theorem again_le_finished : again.matches' ≤ finished.matches' :=
  calc again.matches'
    _ ≤ 1 + again.matches' := le_add_self
    _ ≤ (again.matches' * (oneOf endings).matches')∗ * (1 + again.matches') :=
        le_mul_of_one_le_left' one_le_kstar

theorem again_mul_endings_mul_finished_le :
    again.matches' * (oneOf endings).matches' * finished.matches' ≤ finished.matches' := by
  change again.matches' * (oneOf endings).matches'
    * ((again.matches' * (oneOf endings).matches')∗ * _) ≤ (again.matches' * _)∗ * _
  rw [← mul_assoc]
  gcongr
  exact mul_kstar_le_kstar

theorem reopening_mul_active_le :
    (word reopening).matches' * active.matches' ≤ finished.matches' := by
  have hUnfold : (word reopening).matches' * active.matches' =
      again.matches' + again.matches' * (oneOf endings).matches' * finished.matches' := by
    change _ * (_ * (1 + _ * _)) = (_ * _) + (_ * _) * _ * _
    simp only [mul_add, mul_one, mul_assoc]
  rw [hUnfold]
  exact add_le again_le_finished again_mul_endings_mul_finished_le

theorem openings_mul_active_le :
    (oneOf openings).matches' * active.matches' ≤ notStarted.matches' :=
  le_add_self

theorem nil_mem_future (phase : Phase) : [] ∈ (future phase).matches' := by
  have hOne {pattern : Pattern} : [] ∈ (1 + pattern).matches' := .inl rfl
  cases phase with
  | notStarted => exact hOne
  | active | finished =>
      exact Language.append_mem_mul (Language.nil_mem_kstar _) hOne

end Pattern

end Trace

end Make24
