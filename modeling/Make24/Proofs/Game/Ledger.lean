import Mathlib
import Make24.Proofs.Game.Audience

/-! The registrations as a ledger. They are kept kind by kind, with handles that count all kinds
together, but they answer whatever is asked of them as one flat list does that holds all standing
registrations in the order in which they were made. What one observer hears can then be told from
the events and from the fate of its own registration. -/

namespace Make24

namespace Observers

/-- What registrations are asked for. -/
inductive Request where
  | on (kind : Event.Kind)
  | off (kind : Event.Kind) (id : ListenerId)
  | emit (event : Event)

def Request.isOn : Request → Bool
  | on _ => true
  | _ => false

/-- What comes of a request. -/
inductive Answer where
  | listening (id : ListenerId)
  | removed (found : Bool)
  | called (calls : List (ListenerId × Event))

/-- The handle that is given with an answer. -/
def Answer.handle? : Answer → Option ListenerId
  | listening id => some id
  | _ => Option.none

def Answer.calls : Answer → List (ListenerId × Event)
  | called calls => calls
  | _ => []

/-- The events that the observer with a handle is called for. -/
def Answer.heard (id : ListenerId) (answer : Answer) : List Event :=
  (answer.calls.filter fun call => call.1 = id).map Prod.snd

/-- Where requests lead whatever serves them. -/
def after {σ : Type} (serve : σ → Request → Answer × σ) (state : σ) (requests : List Request) : σ :=
  requests.foldl (fun state request => (serve state request).2) state

/-- The answers to requests of whatever serves them. -/
def answers {σ : Type} (serve : σ → Request → Answer × σ) (state : σ) : List Request → List Answer
  | [] => []
  | request :: rest => (serve state request).1 :: answers serve (serve state request).2 rest

def serve (observers : Observers) : Request → Answer × Observers
  | .on kind => (.listening (observers.on kind).1, (observers.on kind).2)
  | .off kind id => (.removed (observers.off kind id).1, (observers.off kind id).2)
  | .emit event => (.called (observers.calls [event]), observers)

/-- A flat list of the registrations that stand, in the order in which they were made. -/
structure Ledger where
  /-- The number of registrations made so far. -/
  made : Nat := 0
  standing : List Registration := []

namespace Ledger

def serve (ledger : Ledger) : Request → Answer × Ledger
  | .on kind =>
      (.listening ⟨ledger.made⟩,
        ⟨ledger.made + 1, ledger.standing ++ [(kind, ⟨ledger.made⟩)]⟩)
  | .off kind id =>
      (.removed (decide ((kind, id) ∈ ledger.standing)),
        { ledger with standing := ledger.standing.erase (kind, id) })
  | .emit event =>
      (.called ((ledger.standing.filter fun entry => entry.1 = event.kind).map
        fun entry => (entry.2, event)), ledger)

/-- The handles of the entries grow and were all given out. -/
structure Ordered (ledger : Ledger) : Prop where
  growing : ledger.standing.Pairwise fun first second => first.2.number < second.2.number
  made : ∀ entry ∈ ledger.standing, entry.2.number < ledger.made

namespace Ordered

variable {ledger : Ledger}

theorem empty : Ordered {} := ⟨.nil, by simp⟩

/-- No handle stands twice. -/
theorem nodup_ids (h : Ordered ledger) : (ledger.standing.map Prod.snd).Nodup :=
  List.pairwise_map.mpr (h.growing.imp fun hLess hSame => by simp [hSame] at hLess)

theorem nodup (h : Ordered ledger) : ledger.standing.Nodup := h.nodup_ids.of_map

theorem serve (h : Ordered ledger) (request : Request) : Ordered (ledger.serve request).2 := by
  cases request with
  | on kind =>
      constructor
      · refine List.pairwise_append.mpr ⟨h.growing, List.pairwise_singleton _ _, ?_⟩
        intro entry hEntry new hNew
        rw [List.mem_singleton.mp hNew]
        exact h.made entry hEntry
      · intro entry hEntry
        rcases List.mem_append.mp hEntry with hStanding | hNew
        · exact Nat.lt_succ_of_lt (h.made entry hStanding)
        · rw [List.mem_singleton.mp hNew]
          exact Nat.lt_succ_self _
  | off kind id =>
      exact ⟨h.growing.sublist List.erase_sublist,
        fun entry hEntry => h.made entry (List.mem_of_mem_erase hEntry)⟩
  | emit event => exact h

theorem after (h : Ordered ledger) (requests : List Request) :
    Ordered (after Ledger.serve ledger requests) := by
  induction requests generalizing ledger with
  | nil => exact h
  | cons request rest ih => exact ih (h.serve request)

end Ordered

end Ledger

/-- The registrations of each kind are the entries of the ledger for it, in the same order. -/
structure Represents (observers : Observers) (ledger : Ledger) : Prop where
  registered : observers.registered = ledger.made
  listeners : ∀ kind, observers.listeners kind =
    (ledger.standing.filter fun entry => entry.1 = kind).map Prod.snd

namespace Represents

variable {observers : Observers} {ledger : Ledger}

theorem none : Represents Observers.none {} := ⟨rfl, fun _ => Std.HashMap.getD_empty⟩

theorem on (h : Represents observers ledger) (kind : Event.Kind) :
    Represents (observers.on kind).2 (ledger.serve (.on kind)).2 where
  registered := congrArg (· + 1) h.registered
  listeners other := by
    have hId : (observers.on kind).1 = ⟨ledger.made⟩ := congrArg ListenerId.mk h.registered
    rw [listeners_on, h.listeners, hId, Ledger.serve, List.filter_append, List.map_append]
    by_cases hKind : kind = other <;> simp [hKind]

theorem mem_listeners_iff (h : Represents observers ledger) {kind : Event.Kind} {id : ListenerId} :
    id ∈ observers.listeners kind ↔ (kind, id) ∈ ledger.standing := by
  simp [h.listeners]

theorem off_found (h : Represents observers ledger) (kind : Event.Kind) (id : ListenerId) :
    (observers.off kind id).1 = decide ((kind, id) ∈ ledger.standing) := by
  unfold off
  simp only [List.contains_iff_mem, h.mem_listeners_iff]
  split <;> simp [*]

/-- Striking out a handle under its kind strikes out that entry. -/
theorem off (h : Represents observers ledger) (hOrdered : ledger.Ordered) (kind : Event.Kind)
    (id : ListenerId) :
    Represents (observers.off kind id).2 (ledger.serve (.off kind id)).2 where
  registered := (observers.registered_off kind id).trans h.registered
  listeners other := by
    rw [listeners_off, h.listeners, Ledger.serve, hOrdered.nodup.erase_eq_filter,
      List.filter_filter]
    split
    case isTrue hKind =>
      subst hKind
      rw [List.filter_map, List.filter_filter]
      congr 1
      refine List.filter_congr fun entry _ => ?_
      rw [Bool.eq_iff_iff]
      simp +contextual [Prod.ext_iff, and_comm]
    case isFalse hKind =>
      congr 1
      refine List.filter_congr fun entry _ => ?_
      rw [Bool.eq_iff_iff]
      simp +contextual [Prod.ext_iff, Ne.symm hKind]

theorem calls (h : Represents observers ledger) (event : Event) :
    observers.calls [event] =
      (ledger.standing.filter fun entry => entry.1 = event.kind).map
        fun entry => (entry.2, event) := by
  simp [Observers.calls, h.listeners]

/-- Both give the same answer and stay together. -/
theorem serve (h : Represents observers ledger) (hOrdered : ledger.Ordered) (request : Request) :
    (observers.serve request).1 = (ledger.serve request).1 ∧
      Represents (observers.serve request).2 (ledger.serve request).2 := by
  cases request with
  | on kind =>
      exact ⟨congrArg (fun number => Answer.listening ⟨number⟩) h.registered, h.on kind⟩
  | off kind id => exact ⟨congrArg Answer.removed (h.off_found kind id), h.off hOrdered kind id⟩
  | emit event => exact ⟨congrArg Answer.called (h.calls event), h⟩

theorem answers (h : Represents observers ledger) (hOrdered : ledger.Ordered)
    (requests : List Request) :
    answers Observers.serve observers requests = answers Ledger.serve ledger requests ∧
      Represents (after Observers.serve observers requests)
        (after Ledger.serve ledger requests) := by
  induction requests generalizing observers ledger with
  | nil => exact ⟨rfl, h⟩
  | cons request rest ih =>
      obtain ⟨hAnswer, hNext⟩ := h.serve hOrdered request
      obtain ⟨hRest, hAfter⟩ := ih hNext (hOrdered.serve request)
      exact ⟨List.cons_eq_cons.mpr ⟨hAnswer, hRest⟩, hAfter⟩

end Represents

/-! ### Handles -/

theorem after_append {σ : Type} (serve : σ → Request → Answer × σ) (state : σ)
    (earlier later : List Request) :
    after serve state (earlier ++ later) = after serve (after serve state earlier) later :=
  List.foldl_append

theorem answers_append {σ : Type} (serve : σ → Request → Answer × σ) (state : σ)
    (earlier later : List Request) :
    answers serve state (earlier ++ later) =
      answers serve state earlier ++ answers serve (after serve state earlier) later := by
  induction earlier generalizing state with
  | nil => rfl
  | cons request rest ih => exact congrArg (_ :: ·) (ih (serve state request).2)

/-- Handles are numbered through, whatever else is asked for in between. -/
theorem Ledger.handles_answers (ledger : Ledger) (requests : List Request) :
    (answers Ledger.serve ledger requests).filterMap Answer.handle? =
        (List.range' ledger.made (requests.countP Request.isOn)).map ListenerId.mk ∧
      (after Ledger.serve ledger requests).made =
        ledger.made + requests.countP Request.isOn := by
  induction requests generalizing ledger with
  | nil => exact ⟨rfl, rfl⟩
  | cons request rest ih =>
      obtain ⟨hHandles, hMade⟩ := ih (ledger.serve request).2
      have hAfter : after Ledger.serve ledger (request :: rest) =
          after Ledger.serve (ledger.serve request).2 rest := rfl
      rw [answers, List.filterMap_cons, hHandles, hAfter, hMade]
      cases request with
      | on kind =>
          have hCount : (Request.on kind :: rest).countP Request.isOn =
              rest.countP Request.isOn + 1 := List.countP_cons_of_pos rfl
          rw [hCount, List.range'_succ, List.map_cons]
          exact ⟨rfl, Nat.succ_add_eq_add_succ _ _⟩
      | off kind id => exact ⟨rfl, rfl⟩
      | emit event => exact ⟨rfl, rfl⟩

/-- The handles given out are those from the next number on. -/
theorem Ledger.mem_handles_iff {ledger : Ledger} {requests : List Request} {id : ListenerId} :
    id ∈ (answers Ledger.serve ledger requests).filterMap Answer.handle? ↔
      ledger.made ≤ id.number ∧ id.number < ledger.made + requests.countP Request.isOn := by
  rw [(ledger.handles_answers requests).1, List.mem_map]
  constructor
  · rintro ⟨number, hMem, rfl⟩
    exact List.mem_range'_1.mp hMem
  · exact fun h => ⟨id.number, List.mem_range'_1.mpr h, rfl⟩

/-- A registration was made in the course of requests and not removed since. -/
def Stands (requests : List Request) (entry : Registration) : Prop :=
  ∃ earlier later, requests = earlier ++ .on entry.1 :: later ∧
    ((after serve .none earlier).serve (.on entry.1)).1 = .listening entry.2 ∧
    .off entry.1 entry.2 ∉ later

/-- One more request makes one more registration stand, or one less, or leaves them as they were. -/
theorem stands_concat_iff {requests : List Request} {request : Request} {entry : Registration} :
    Stands (requests ++ [request]) entry ↔
      (Stands requests entry ∧ request ≠ .off entry.1 entry.2) ∨
        (request = .on entry.1 ∧
          ((after serve .none requests).serve (.on entry.1)).1 = .listening entry.2) := by
  constructor
  · rintro ⟨earlier, later, hSplit, hHandle, hKept⟩
    rcases List.eq_nil_or_concat later with rfl | ⟨rest, last, rfl⟩
    · obtain ⟨rfl, hLast⟩ := List.append_inj' hSplit rfl
      exact .inr ⟨List.singleton_inj.mp hLast, hHandle⟩
    · rw [List.concat_eq_append, ← List.cons_append, ← List.append_assoc] at hSplit
      obtain ⟨rfl, hLast⟩ := List.append_inj' hSplit rfl
      obtain rfl := List.singleton_inj.mp hLast
      rw [List.concat_eq_append, List.mem_append, List.mem_singleton, not_or] at hKept
      exact .inl ⟨⟨earlier, rest, rfl, hHandle, hKept.1⟩, Ne.symm hKept.2⟩
  · rintro (⟨⟨earlier, later, rfl, hHandle, hKept⟩, hOther⟩ | ⟨rfl, hHandle⟩)
    · refine ⟨earlier, later ++ [request], by simp, hHandle, ?_⟩
      rw [List.mem_append, List.mem_singleton, not_or]
      exact ⟨hKept, Ne.symm hOther⟩
    · exact ⟨requests, [], rfl, hHandle, List.not_mem_nil⟩

/-- The ledger holds the registrations that stand. -/
theorem mem_standing_iff (requests : List Request) (entry : Registration) :
    entry ∈ (after Ledger.serve {} requests).standing ↔ Stands requests entry := by
  -- Requests are added at the end, since a removal concerns what was registered before it.
  induction requests using List.reverseRecOn with
  | nil => simp [after, Stands]
  | append_singleton requests request ih =>
      have hOrdered := Ledger.Ordered.empty.after requests
      have hMade := (Represents.none.answers .empty requests).2.registered
      rw [after_append, stands_concat_iff, ← ih]
      generalize after Ledger.serve {} requests = ledger at hOrdered hMade ⊢
      change entry ∈ (ledger.serve request).2.standing ↔ _
      cases request with
      | on kind =>
          have hEntry : entry = (kind, ⟨ledger.made⟩) ↔
              kind = entry.1 ∧ (⟨ledger.made⟩ : ListenerId) = entry.2 := by
            rw [Prod.ext_iff, eq_comm, eq_comm (a := entry.2)]
          simp [Ledger.serve, serve, Observers.on, hMade, hEntry]
      | off kind id =>
          have hSame : Request.off kind id ≠ .off entry.1 entry.2 ↔ entry ≠ (kind, id) := by
            rw [Ne, Ne, Request.off.injEq, Prod.ext_iff, eq_comm, eq_comm (a := id)]
          simp [Ledger.serve, hOrdered.nodup.mem_erase_iff, hSame, and_comm]
      | emit event => simp [Ledger.serve]

/-! ### What one observer hears -/

/-- What a request means to the observer with a registration: an event to hear, or that the
registration is taken away. -/
def Request.concern (entry : Registration) : Request → Option (Option Event)
  | on _ => Option.none
  | off kind id => if (kind, id) = entry then some Option.none else Option.none
  | emit event => if event.kind = entry.1 then some (some event) else Option.none

/-- The events of the kind registered for until the registration is taken away. -/
def audible (entry : Registration) (requests : List Request) : List Event :=
  ((requests.filterMap (Request.concern entry)).takeWhile Option.isSome).reduceOption

namespace Ledger

variable {ledger : Ledger} {entry : Registration} {id : ListenerId}

/-- A handle that does not stand and is not given out is not called. -/
theorem heard_eq_nil {requests : List Request} (hGone : ∀ kind, (kind, id) ∉ ledger.standing)
    (hNew : id ∉ (answers Ledger.serve ledger requests).filterMap Answer.handle?) :
    (answers Ledger.serve ledger requests).flatMap (Answer.heard id) = [] := by
  induction requests generalizing ledger with
  | nil => rfl
  | cons request rest ih =>
      rw [answers, List.flatMap_cons]
      rw [answers, List.filterMap_cons] at hNew
      cases request with
      | on kind =>
          have hOther : id ≠ ⟨ledger.made⟩ ∧
              id ∉ (answers Ledger.serve (ledger.serve (.on kind)).2 rest).filterMap
                Answer.handle? := by
            simpa [Ledger.serve, Answer.handle?] using hNew
          rw [ih ?_ hOther.2]
          · rfl
          · intro other hMem
            rcases List.mem_append.mp hMem with hStanding | hLast
            · exact hGone other hStanding
            · exact hOther.1 (Prod.ext_iff.mp (List.mem_singleton.mp hLast)).2
      | off kind other =>
          rw [ih (fun kind hMem => hGone kind (List.mem_of_mem_erase hMem)) hNew]
          rfl
      | emit event =>
          have hRest : (answers Ledger.serve ledger rest).flatMap (Answer.heard id) = [] :=
            ih hGone hNew
          simp only [Ledger.serve, hRest, List.append_nil, Answer.heard, Answer.calls,
            List.map_eq_nil_iff, List.filter_eq_nil_iff, List.forall_mem_map, decide_eq_true_eq]
          intro entry hEntry hId
          exact hGone entry.1 (hId ▸ List.mem_of_mem_filter hEntry)

/-- An event is heard once by whom it is meant for. -/
theorem heard_emit (hOrdered : ledger.Ordered) (hEntry : entry ∈ ledger.standing) (event : Event) :
    (ledger.serve (.emit event)).1.heard entry.2 =
      if event.kind = entry.1 then [event] else [] := by
  have hOnly := filter_key_eq hOrdered.nodup_ids hEntry
  simp only [serve, Answer.heard, Answer.calls, List.filter_map, Function.comp_def, List.map_map]
  rw [List.filter_comm, hOnly, List.filter_singleton]
  by_cases hKind : event.kind = entry.1
  · simp [hKind]
  · simp [hKind, Ne.symm hKind]

/-- From where a registration stands, its observer hears what is meant for it until it is taken
away. -/
theorem heard_eq_audible {requests : List Request} (hOrdered : ledger.Ordered)
    (hEntry : entry ∈ ledger.standing) :
    (answers Ledger.serve ledger requests).flatMap (Answer.heard entry.2) =
      audible entry requests := by
  induction requests generalizing ledger with
  | nil => rfl
  | cons request rest ih =>
      have hNext := hOrdered.serve request
      rw [answers, List.flatMap_cons, audible, List.filterMap_cons]
      cases request with
      | on kind =>
          rw [ih hNext (List.mem_append_left _ hEntry)]
          rfl
      | off kind id =>
          by_cases hSame : (kind, id) = entry
          · subst hSame
            -- The handle does not stand under any kind now and is never given out again.
            have hGone : ∀ other, (other, id) ∉ (ledger.serve (.off kind id)).2.standing := by
              intro other hMem
              obtain ⟨hNe, hStanding⟩ := hOrdered.nodup.mem_erase_iff.mp hMem
              exact hNe (List.inj_on_of_nodup_map hOrdered.nodup_ids hStanding hEntry rfl)
            have hOld : id ∉ (answers Ledger.serve (ledger.serve (.off kind id)).2 rest).filterMap
                Answer.handle? := by
              rw [mem_handles_iff, not_and_or, Nat.not_le]
              exact .inl (hOrdered.made _ hEntry)
            rw [heard_eq_nil hGone hOld]
            simp [Request.concern, Answer.heard, serve, Answer.calls, List.reduceOption]
          · rw [ih hNext ((List.mem_erase_of_ne (Ne.symm hSame)).mpr hEntry)]
            simp [Request.concern, hSame, audible, Answer.heard, serve, Answer.calls]
      | emit event =>
          rw [heard_emit hOrdered hEntry, ih hNext hEntry]
          by_cases hKind : event.kind = entry.1 <;>
            simp [Request.concern, hKind, audible, List.reduceOption]

end Ledger

/-- What an observer hears in the course of requests is told by those that come after its
registration. -/
theorem heard_run (before later : List Request) (kind : Event.Kind) :
    let id := ((after serve .none before).on kind).1
    (answers serve .none (before ++ .on kind :: later)).flatMap (Answer.heard id) =
      audible (kind, id) later := by
  intro id
  have hRefines := Represents.none.answers .empty
  have hOrdered := Ledger.Ordered.empty.after before
  obtain ⟨-, hMade⟩ := Ledger.handles_answers {} before
  have hId : id = ⟨(after Ledger.serve {} before).made⟩ :=
    congrArg ListenerId.mk (hRefines before).2.registered
  have hEarlier : id ∉ (answers Ledger.serve {} before).filterMap Answer.handle? := by
    rw [Ledger.mem_handles_iff, hId, hMade]
    exact fun h => Nat.lt_irrefl _ h.2
  have hStanding : (kind, id) ∈
      ((after Ledger.serve {} before).serve (.on kind)).2.standing := by
    rw [hId]
    exact List.mem_append_right _ (List.mem_singleton_self _)
  rw [(hRefines _).1, answers_append, List.flatMap_append, Ledger.heard_eq_nil (by simp) hEarlier,
    List.nil_append, answers, List.flatMap_cons]
  exact Ledger.heard_eq_audible (hOrdered.serve _) hStanding

end Observers

open Observers

/-- What a command asks of the registrations, given the events that it has. -/
def Command.requests (events : List Event) : Command → List Request
  | .on kind => [.on kind]
  | .off kind id => [.off kind id]
  | _ => events.map .emit

theorem Observers.answers_emit (observers : Observers) (events : List Event) :
    Observers.after serve observers (events.map .emit) = observers ∧
      (answers serve observers (events.map .emit)).flatMap Answer.calls =
        observers.calls events := by
  induction events with
  | nil => exact ⟨rfl, rfl⟩
  | cons event rest ih =>
      refine ⟨ih.1, ?_⟩
      calc
        observers.calls [event]
            ++ (answers serve observers (rest.map .emit)).flatMap Answer.calls
          = observers.calls [event] ++ observers.calls rest := by rw [ih.2]
        _ = observers.calls (event :: rest) := List.flatMap_append.symm

namespace Game

/-- What a run asks of the registrations. -/
def requests (game : Game) : List Command → List Request
  | [] => []
  | command :: rest =>
      let step := game.perform command
      command.requests step.events ++ step.game.requests rest

/-- A step of a game serves what its command asks. -/
theorem Move.requests {game : Game} {command : Command} {step : Step Reply}
    (move : Move game command step) :
    step.game.observers =
        Observers.after serve game.observers (command.requests step.events) ∧
      step.calls =
        (answers serve game.observers (command.requests step.events)).flatMap Answer.calls := by
  by_cases hOn : ∃ kind, command = .on kind
  · obtain ⟨kind, rfl⟩ := hOn
    cases move with
    | listening hEntered =>
        obtain rfl := congrArg Prod.snd hEntered
        exact ⟨rfl, rfl⟩
  · by_cases hOff : ∃ kind id, command = .off kind id
    · obtain ⟨kind, id, rfl⟩ := hOff
      cases move with
      | removed hStruck =>
          obtain rfl := congrArg Prod.snd hStruck
          exact ⟨rfl, rfl⟩
    · push Not at hOn hOff
      have hSame := move.observers_eq hOn hOff
      have hEmit : command.requests step.events = step.events.map .emit := by
        cases command with
        | on kind => exact absurd rfl (hOn kind)
        | off kind id => exact absurd rfl (hOff kind id)
        | _ => rfl
      obtain ⟨hAfter, hCalls⟩ := game.observers.answers_emit step.events
      rw [hEmit, hAfter, hCalls, ← hSame]
      exact ⟨rfl, rfl⟩

theorem observers_after_eq (game : Game) (commands : List Command) :
    (game.after commands).observers =
        Observers.after serve game.observers (game.requests commands) ∧
      (game.steps commands).flatMap Step.calls =
        (answers serve game.observers (game.requests commands)).flatMap Answer.calls := by
  induction commands generalizing game with
  | nil => exact ⟨rfl, rfl⟩
  | cons command rest ih =>
      obtain ⟨hObservers, hCalls⟩ := (move_perform game command).requests
      obtain ⟨hAfter, hRest⟩ := ih (game.perform command).game
      rw [hObservers] at hAfter hRest
      refine ⟨?_, ?_⟩
      · rw [requests, Observers.after_append, ← hAfter]
        rfl
      · rw [requests, answers_append, List.flatMap_append, steps, List.flatMap_cons, hCalls, hRest]

end Game

/-- For all requests, from when nobody is registered:

* the answers are those of the flat list, to which a registration is added at the end, from which
  just the one asked for is removed, and whose entries for the kind of an event are called with it
  in their order;
* handles are numbered through over all kinds, so that none is given out twice;
* in the list are the registrations that were made and not removed since, in the order in which
  they were made, and a removal finds just these and otherwise changes nothing;
* an observer hears the events of its kind from its registration on until that is removed, and so
  the same in any two runs that agree on these, whatever others register and remove.

The runs of a game are such requests: those of its commands, with the events that they have. -/
theorem Observers.registrations_answer_as_ledger (requests : List Request) :
    let observers := Observers.after serve .none requests
    let standing := (Observers.after Ledger.serve {} requests).standing
    answers serve .none requests = answers Ledger.serve {} requests ∧
    ((answers serve .none requests).filterMap Answer.handle? =
        (List.range (requests.countP Request.isOn)).map ListenerId.mk ∧
      ((answers serve .none requests).filterMap Answer.handle?).Nodup) ∧
    ((∀ entry, entry ∈ standing ↔ Stands requests entry) ∧
      (standing.Pairwise fun first second => first.2.number < second.2.number) ∧
      (∀ kind id, (observers.off kind id).1 = true ↔ Stands requests (kind, id)) ∧
      ∀ kind id, ¬ Stands requests (kind, id) → observers.off kind id = (false, observers)) ∧
    ((∀ kind later, let entry := (kind, (observers.on kind).1)
        (answers serve .none (requests ++ .on kind :: later)).flatMap (Answer.heard entry.2) =
          audible entry later) ∧
      ∀ kind later others later', let entry := (kind, (observers.on kind).1)
        let entry' := (kind, ((Observers.after serve .none others).on kind).1)
        later.filterMap (Request.concern entry) = later'.filterMap (Request.concern entry') →
          (answers serve .none (requests ++ .on kind :: later)).flatMap (Answer.heard entry.2) =
            (answers serve .none (others ++ .on kind :: later')).flatMap
              (Answer.heard entry'.2)) ∧
    ∀ options seed commands, let game := Game.new options seed
      (game.after commands).observers = Observers.after serve .none (game.requests commands) ∧
        (game.steps commands).flatMap Step.calls =
          (answers serve .none (game.requests commands)).flatMap Answer.calls := by
  intro observers standing
  obtain ⟨hAnswers, hRepresents⟩ := Represents.none.answers .empty requests
  have hOrdered := Ledger.Ordered.empty.after requests
  have hHandles : (answers serve .none requests).filterMap Answer.handle? =
      (List.range (requests.countP Request.isOn)).map ListenerId.mk := by
    rw [hAnswers, (Ledger.handles_answers {} requests).1, List.range_eq_range']
  have hFound (kind : Event.Kind) (id : ListenerId) :
      (observers.off kind id).1 = true ↔ Stands requests (kind, id) := by
    rw [hRepresents.off_found, decide_eq_true_iff, mem_standing_iff]
  refine ⟨hAnswers, ⟨hHandles, ?_⟩,
    ⟨mem_standing_iff requests, hOrdered.growing, hFound, ?_⟩,
    ⟨fun kind later => heard_run requests later kind, ?_⟩,
    fun options seed commands => (Game.new options seed).observers_after_eq commands⟩
  · rw [hHandles]
    exact List.nodup_range.map fun _ _ => congrArg ListenerId.number
  · intro kind id hGone
    rw [← hFound] at hGone
    unfold off at hGone ⊢
    split at hGone <;> simp_all
  · intro kind later others later' entry entry' hSame
    have hHeard : (answers serve .none (requests ++ .on kind :: later)).flatMap
        (Answer.heard entry.2) = audible entry later := heard_run requests later kind
    have hHeard' : (answers serve .none (others ++ .on kind :: later')).flatMap
        (Answer.heard entry'.2) = audible entry' later' := heard_run others later' kind
    rw [hHeard, hHeard', audible, audible, hSame]

/-- A handle is no use under another kind, and other observers come and go unheard. -/
theorem Observers.registrations_answer_as_ledger_two :
    let before : List Request := [.on .deckChanged, .on .gameFinished, .off .deckChanged ⟨1⟩]
    let others : List Request := []
    let later : List Request := [.off .deckChanged ⟨0⟩, .emit .gameFinished, .on .gameFinished,
      .off .gameFinished ⟨2⟩, .emit .gameFinished]
    let later' : List Request := [.emit .gameFinished, .emit (.deckChanged []),
      .off .gameFinished ⟨0⟩, .emit .gameFinished]
    let id := ((Observers.after serve .none before).on .gameFinished).1
    let id' := ((Observers.after serve .none others).on .gameFinished).1
    (¬ Stands before (.deckChanged, ⟨1⟩) ∧
      (Observers.after serve .none before).off .deckChanged ⟨1⟩ =
        (false, Observers.after serve .none before)) ∧
    later.filterMap (Request.concern (.gameFinished, id)) =
        later'.filterMap (Request.concern (.gameFinished, id')) ∧
      (answers serve .none (before ++ .on .gameFinished :: later)).flatMap (Answer.heard id) =
        (answers serve .none (others ++ .on .gameFinished :: later')).flatMap
          (Answer.heard id') := by
  intro before others later later' id id'
  have hBefore := registrations_answer_as_ledger before
  obtain ⟨-, -, ⟨hStanding, -, -, hMissed⟩, ⟨-, hAlike⟩, -⟩ := hBefore
  have hGone : ¬ Stands before (.deckChanged, ⟨1⟩) := by
    rw [← hStanding]
    decide
  have hId : id = ⟨2⟩ :=
    congrArg ListenerId.mk (Represents.none.answers .empty before).2.registered
  have hSame : later.filterMap (Request.concern (.gameFinished, id)) =
      later'.filterMap (Request.concern (.gameFinished, id')) := by
    rw [hId]
    rfl
  exact ⟨⟨hGone, hMissed _ _ hGone⟩, hSame, hAlike _ later others later' hSame⟩

end Make24
