import Mathlib
import Make24.Proofs.Game.Move

/-! What reaches an observer in the course of a run. An observer who registers for every kind of
event hears all events of the game in order and once each, for as long as the registrations stand;
it makes no difference what others register and remove. -/

namespace Make24

/-- A kind of event together with the handle of a registration for it. -/
abbrev Registration := Event.Kind × ListenerId

/-- Among entries with different keys, only one has the key of a given one. -/
theorem filter_key_eq {α β : Type} [DecidableEq β] {key : α → β} {entries : List α}
    (hNodup : (entries.map key).Nodup) {entry : α} (hEntry : entry ∈ entries) :
    entries.filter (fun other => key other = key entry) = [entry] := by
  obtain ⟨before, after, rfl⟩ := List.append_of_mem hEntry
  rw [List.map_append, List.map_cons, List.nodup_middle, List.nodup_cons, List.mem_append,
    not_or] at hNodup
  obtain ⟨⟨hBefore, hAfter⟩, -⟩ := hNodup
  have hNone {others : List α} (hKey : key entry ∉ others.map key) :
      others.filter (fun other => key other = key entry) = [] := by
    refine List.filter_eq_nil_iff.mpr fun other hOther => ?_
    rw [decide_eq_true_eq]
    exact fun hEq => hKey (hEq ▸ List.mem_map_of_mem hOther)
  rw [List.filter_append, List.filter_cons_of_pos (by simp), hNone hBefore, hNone hAfter]
  rfl

namespace Observers

/-- A registration adds its handle to the listeners of its kind, after those that were there. -/
theorem listeners_on (observers : Observers) (kind other : Event.Kind) :
    (observers.on kind).2.listeners other =
      observers.listeners other ++ if kind = other then [(observers.on kind).1] else [] := by
  unfold listeners on
  rw [Std.HashMap.getD_insert]
  by_cases hKind : kind = other
  · subst hKind
    simp [listeners]
  · simp [hKind]

/-- A removal takes away its handle from the listeners of its kind, if it was among them. -/
theorem listeners_off (observers : Observers) (kind other : Event.Kind) (id : ListenerId) :
    (observers.off kind id).2.listeners other =
      if kind = other then (observers.listeners other).filter (· ≠ id)
      else observers.listeners other := by
  unfold off
  split
  case isTrue hFound =>
    rw [listeners, Std.HashMap.getD_insert]
    by_cases hKind : kind = other
    · subst hKind
      simp
    · simp [hKind, listeners]
  case isFalse hMissing =>
    split
    case isTrue hKind =>
      subst hKind
      refine (List.filter_eq_self.mpr fun other hOther => ?_).symm
      rw [decide_eq_true_eq]
      rintro rfl
      exact hMissing (List.contains_iff_mem.mpr hOther)
    case isFalse => rfl

theorem registered_off (observers : Observers) (kind : Event.Kind) (id : ListenerId) :
    (observers.off kind id).2.registered = observers.registered := by
  unfold off
  split <;> rfl

/-- Of all listeners to a kind of event, exactly one is among these registrations, and their handles
are not given out again. -/
structure Serves (observers : Observers) (own : List Registration) : Prop where
  once : ∀ kind, ∃ id, (kind, id) ∈ own ∧
    (observers.listeners kind).filter (· ∈ own.map Prod.snd) = [id]
  made : ∀ entry ∈ own, entry.2.number < observers.registered

namespace Serves

variable {observers : Observers} {own : List Registration}

theorem on (serves : Serves observers own) (kind : Event.Kind) :
    Serves (observers.on kind).2 own := by
  have hFresh : (observers.on kind).1 ∉ own.map Prod.snd := by
    intro hMem
    obtain ⟨entry, hEntry, hId⟩ := List.mem_map.mp hMem
    have hMade := serves.made entry hEntry
    rw [hId] at hMade
    exact Nat.lt_irrefl _ hMade
  constructor
  · intro other
    obtain ⟨id, hOwn, hOnce⟩ := serves.once other
    refine ⟨id, hOwn, ?_⟩
    rw [listeners_on, List.filter_append, hOnce]
    split <;> simp [hFresh]
  · exact fun entry hEntry => Nat.lt_succ_of_lt (serves.made entry hEntry)

/-- A removal that does not name one of the registrations with its kind does them no harm, even if
it names the handle of one with another kind. -/
theorem off (serves : Serves observers own) {kind : Event.Kind} {id : ListenerId}
    (hOther : (kind, id) ∉ own) : Serves (observers.off kind id).2 own := by
  constructor
  · intro other
    obtain ⟨listener, hOwn, hOnce⟩ := serves.once other
    refine ⟨listener, hOwn, ?_⟩
    rw [listeners_off]
    split
    case isFalse => exact hOnce
    case isTrue hKind =>
      subst hKind
      have hNe : listener ≠ id := fun hEq => hOther (hEq ▸ hOwn)
      rw [List.filter_comm, hOnce]
      simp [hNe]
  · rw [registered_off]
    exact serves.made

/-- Each event makes one call to the registrations. -/
theorem calls (serves : Serves observers own) (events : List Event) :
    ((observers.calls events).filter fun call => call.1 ∈ own.map Prod.snd).map Prod.snd =
      events := by
  induction events with
  | nil => rfl
  | cons event rest ih =>
      obtain ⟨id, -, hOnce⟩ := serves.once event.kind
      have hFirst : (((observers.listeners event.kind).map fun id => (id, event)).filter
          fun call => call.1 ∈ own.map Prod.snd).map Prod.snd = [event] := by
        rw [List.filter_map, Function.comp_def, hOnce]
        rfl
      have hCalls : observers.calls (event :: rest) =
          ((observers.listeners event.kind).map fun id => (id, event)) ++ observers.calls rest :=
        rfl
      rw [hCalls, List.filter_append, List.map_append, hFirst, ih]
      rfl

end Serves

end Observers

section Events

variable {α : Type} {result : α} {game : Game} {player : String} {dealt : Step Bool}
  {entry : LogRecord}

theorem filterMap_event?_registrationRecords :
    (game.registrationRecords player).filterMap Signal.event? = [] := by
  unfold Game.registrationRecords
  cases game.roster.find? player <;> rfl

theorem Step.events_registered {next : Game} :
    Step.events ⟨result, next, game.registrationRecords player⟩ = [] :=
  filterMap_event?_registrationRecords

theorem Step.events_restarted {players : List Player} :
    Step.events ⟨result, dealt.game,
      .record entry :: dealt.signals ++ [.event (.playersReset players)]⟩ =
      dealt.events ++ [.playersReset players] := by
  simp [Step.events, List.filterMap_cons, Signal.event?]

theorem Step.events_won {winner : Player} :
    Step.events ⟨result, dealt.game, game.registrationRecords player
      ++ .record entry :: .event (.pointScored winner) :: dealt.signals⟩ =
      .pointScored winner :: dealt.events := by
  unfold Step.events
  rw [List.filterMap_append, filterMap_event?_registrationRecords]
  rfl

theorem Step.events_skipped {rounds : List Round} :
    Step.events ⟨result, dealt.game, .record entry :: dealt.signals
      ++ rounds.map fun round => .event (.roundSkipped player round)⟩ =
      dealt.events ++ rounds.map (.roundSkipped player) := by
  simp [Step.events, List.filterMap_cons, List.filterMap_map, Function.comp_def, Signal.event?]

end Events

namespace Game

/-- Registers an observer for some kinds of events, one after the other. -/
def watch (game : Game) : List Event.Kind → List Registration × Game
  | [] => ([], game)
  | kind :: rest =>
      let step := game.on kind
      let (own, next) := step.game.watch rest
      ((kind, step.result) :: own, next)

/-- The events of a run, in order. -/
def events (game : Game) (commands : List Command) : List Event :=
  (game.steps commands).flatMap Step.events

/-- The events of a run that reach the observer with some registrations, in order. -/
def heard (game : Game) (own : List Registration) (commands : List Command) : List Event :=
  let calls := (game.steps commands).flatMap Step.calls
  (calls.filter fun call => call.1 ∈ own.map Prod.snd).map Prod.snd

theorem events_cons (game : Game) (command : Command) (rest : List Command) :
    game.events (command :: rest) =
      (game.perform command).events ++ (game.perform command).game.events rest := by
  simp [events, steps]

theorem heard_cons (game : Game) (own : List Registration) (command : Command)
    (rest : List Command) :
    game.heard own (command :: rest) =
      (((game.perform command).calls.filter fun call => call.1 ∈ own.map Prod.snd).map Prod.snd)
        ++ (game.perform command).game.heard own rest := by
  simp [heard, steps]

/-- Registering is what the commands for it do. -/
theorem watch_eq_after (game : Game) (kinds : List Event.Kind) :
    (game.watch kinds).2 = game.after (kinds.map .on) := by
  induction kinds generalizing game with
  | nil => rfl
  | cons kind rest ih => exact ih (game.on kind).game

/-- Registering touches nothing but the registrations. -/
theorem exists_watch_eq (game : Game) (kinds : List Event.Kind) :
    ∃ observers, (game.watch kinds).2 = { game with observers } := by
  induction kinds generalizing game with
  | nil => exact ⟨game.observers, rfl⟩
  | cons kind rest ih => exact ih (game.on kind).game

section Watch

variable {game : Game}

theorem kinds_watch (game : Game) (kinds : List Event.Kind) :
    (game.watch kinds).1.map Prod.fst = kinds := by
  induction kinds generalizing game with
  | nil => rfl
  | cons kind rest ih => exact congrArg (kind :: ·) (ih (game.on kind).game)

theorem listeners_watch (game : Game) (kinds : List Event.Kind) (kind : Event.Kind) :
    (game.watch kinds).2.observers.listeners kind =
      game.observers.listeners kind
        ++ ((game.watch kinds).1.filter fun entry => entry.1 = kind).map Prod.snd := by
  induction kinds generalizing game with
  | nil => simp [watch]
  | cons first rest ih =>
      have hListeners : (game.on first).game.observers.listeners kind =
          game.observers.listeners kind
            ++ if first = kind then [(game.on first).result] else [] :=
        game.observers.listeners_on first kind
      simp only [watch, ih, hListeners, List.append_assoc]
      split <;> simp [*]

theorem registered_watch (game : Game) (kinds : List Event.Kind) :
    game.observers.registered ≤ (game.watch kinds).2.observers.registered ∧
      ∀ entry ∈ (game.watch kinds).1,
        entry.2.number < (game.watch kinds).2.observers.registered := by
  induction kinds generalizing game with
  | nil => simp [watch]
  | cons kind rest ih =>
      obtain ⟨hGrown, hMade⟩ := ih (game.on kind).game
      have hFirst : (game.on kind).result.number < (game.on kind).game.observers.registered :=
        Nat.lt_succ_self _
      refine ⟨(Nat.le_succ _).trans hGrown, ?_⟩
      intro entry hEntry
      rcases List.mem_cons.mp hEntry with rfl | hRest
      · exact hFirst.trans_le hGrown
      · exact hMade entry hRest

/-- Whoever registers once for every kind before anybody else does is served. -/
theorem serves_watch {kinds : List Event.Kind}
    (hNone : ∀ kind, game.observers.listeners kind = []) (hNodup : kinds.Nodup)
    (hAll : ∀ kind, kind ∈ kinds) :
    (game.watch kinds).2.observers.Serves (game.watch kinds).1 where
  once := by
    intro kind
    have hKinds := kinds_watch game kinds
    have hIn : kind ∈ (game.watch kinds).1.map Prod.fst := by
      rw [hKinds]
      exact hAll kind
    obtain ⟨⟨_, id⟩, hEntry, rfl⟩ := List.mem_map.mp hIn
    have hOnly := filter_key_eq (hKinds.symm ▸ hNodup) hEntry
    refine ⟨id, hEntry, ?_⟩
    rw [listeners_watch, hNone, hOnly]
    simpa using ⟨_, hEntry⟩
  made := (registered_watch game kinds).2

end Watch

theorem Dealing.observers_eq {game : Game} {dealt : Step Bool} (hDealt : Dealing game dealt) :
    dealt.game.observers = game.observers := by
  cases hDealt <;> rfl

theorem Move.observers_eq {game : Game} {command : Command} {step : Step Reply}
    (move : Move game command step) (hOn : ∀ kind, command ≠ .on kind)
    (hOff : ∀ kind id, command ≠ .off kind id) : step.game.observers = game.observers := by
  cases move with
  | started hPhase hDealt => exact hDealt.observers_eq
  | restarted hDealt => exact hDealt.observers_eq
  | won hRound hText hValue hAward hDealt => exact hDealt.observers_eq
  | skipped hRound hDealt => exact hDealt.observers_eq
  | @listening kind => exact absurd rfl (hOn kind)
  | @removed kind id => exact absurd rfl (hOff kind id)
  | _ => rfl

/-- A command that does not remove one of the registrations keeps them served. -/
theorem Move.serves {game : Game} {command : Command} {step : Step Reply}
    (move : Move game command step) {own : List Registration} (serves : game.observers.Serves own)
    (hKept : ∀ entry ∈ own, command ≠ .off entry.1 entry.2) : step.game.observers.Serves own := by
  cases move with
  | started hPhase hDealt => exact hDealt.observers_eq.symm ▸ serves
  | restarted hDealt => exact hDealt.observers_eq.symm ▸ serves
  | won hRound hText hValue hAward hDealt => exact hDealt.observers_eq.symm ▸ serves
  | skipped hRound hDealt => exact hDealt.observers_eq.symm ▸ serves
  | @listening kind id observers hOn =>
      obtain rfl := congrArg Prod.snd hOn
      exact serves.on kind
  | @removed kind id found observers hOff =>
      obtain rfl := congrArg Prod.snd hOff
      exact serves.off fun hOwn => hKept _ hOwn rfl
  | _ => exact serves

/-- As long as the registrations stand, all events reach their holder. -/
theorem heard_eq_events {game : Game} {own : List Registration} {commands : List Command}
    (serves : game.observers.Serves own)
    (hKept : ∀ entry ∈ own, .off entry.1 entry.2 ∉ commands) :
    game.heard own commands = game.events commands := by
  induction commands generalizing game with
  | nil => rfl
  | cons command rest ih =>
      have hFirst : ∀ entry ∈ own, command ≠ .off entry.1 entry.2 := fun entry hEntry hEq =>
        hKept entry hEntry (hEq ▸ List.mem_cons_self)
      have hNext := (move_perform game command).serves serves hFirst
      have hRest : ∀ entry ∈ own, .off entry.1 entry.2 ∉ rest := fun entry hEntry hMem =>
        hKept entry hEntry (List.mem_cons_of_mem _ hMem)
      rw [heard_cons, events_cons, ih hNext hRest, Step.calls, hNext.calls]

/-- All events of a new game reach the observer who registers for every kind first of all, as long
as the registrations stand. -/
theorem heard_watch (options : Options) (seed : UInt64) {kinds : List Event.Kind}
    (hNodup : kinds.Nodup) (hAll : ∀ kind, kind ∈ kinds) {commands : List Command}
    (hKept : ∀ entry ∈ ((new options seed).watch kinds).1,
      .off entry.1 entry.2 ∉ commands) :
    ((new options seed).watch kinds).2.heard ((new options seed).watch kinds).1 commands =
      ((new options seed).watch kinds).2.events commands := by
  have hNone : ∀ kind, (new options seed).observers.listeners kind = [] := fun kind =>
    Std.HashMap.getD_empty
  exact heard_eq_events (serves_watch hNone hNodup hAll) hKept

end Game

end Make24
