import Mathlib
import Make24.Proofs.Game.Audience
import Make24.Proofs.Game.Refusal
import Make24.Proofs.Trace.Language

/-! The traces of a game's events. Every command tells one short word of events, or nothing, and the
phase decides which. So the events of a run, read by their kinds, make a word of the language of
sessions, and each kind of event has its fixed place beside the others. -/

namespace Make24

namespace Trace

/-- Whether a command has anything to tell in a phase. -/
def speaks (phase : Phase) : Command → Bool
  | .start => phase = .notStarted
  | .restart => true
  | .attempt .. | .skip _ => phase = .active
  | .addPlayer _ | .replaceDeck _ | .on _ | .off .. => false

/-- The word that a command tells in a phase, and the phase that it leads to. -/
inductive Turn : Phase → Command → List Event.Kind → Phase → Prop where
  | silent {phase : Phase} {command : Command} (hSilent : speaks phase command = false) :
      Turn phase command [] phase
  | started : Turn .notStarted .start announcement .active
  | restarted {phase : Phase} : Turn phase .restart reopening .active
  | invalid {player text : String} :
      Turn .active (.attempt player text) [.attemptInvalid] .active
  | incorrect {player text : String} :
      Turn .active (.attempt player text) [.attemptIncorrect] .active
  | won {player text : String} :
      Turn .active (.attempt player text) (.pointScored :: announcement) .active
  | wonLast {player text : String} :
      Turn .active (.attempt player text) [.pointScored, .gameFinished] .finished
  | skipped {player : String} :
      Turn .active (.skip player) (announcement ++ [.roundSkipped]) .active
  | skippedLast {player : String} : Turn .active (.skip player) [.gameFinished] .finished

namespace Turn

variable {phase phase' : Phase} {command : Command} {kinds rest : List Event.Kind}

theorem of_finished (turn : Turn phase command kinds phase') (hPhase : phase = .finished) :
    kinds = [] ∧ phase' = .finished ∨ kinds = reopening := by
  cases turn with
  | silent => exact .inl ⟨rfl, hPhase⟩
  | restarted => exact .inr rfl
  | _ => cases hPhase

open Pattern in
/-- A word and what can follow the phase that it leads to can follow the phase it was told in. -/
theorem append_mem_future (turn : Turn phase command kinds phase')
    (hRest : rest ∈ (future phase').matches') : kinds ++ rest ∈ (future phase).matches' := by
  have hTurn {kinds : List Event.Kind} (hKinds : kinds ∈ turns)
      (hRest : rest ∈ active.matches') : kinds ++ rest ∈ active.matches' :=
    turns_mul_active_le (Language.append_mem_mul (mem_oneOf.mpr hKinds) hRest)
  have hEnding {kinds : List Event.Kind} (hKinds : kinds ∈ endings)
      (hRest : rest ∈ finished.matches') : kinds ++ rest ∈ active.matches' :=
    endings_mul_finished_le (Language.append_mem_mul (mem_oneOf.mpr hKinds) hRest)
  have hOpening {kinds : List Event.Kind} (hKinds : kinds ∈ openings)
      (hRest : rest ∈ active.matches') : kinds ++ rest ∈ notStarted.matches' :=
    openings_mul_active_le (Language.append_mem_mul (mem_oneOf.mpr hKinds) hRest)
  cases turn with
  | silent => exact hRest
  | started => exact hOpening (by simp [openings]) hRest
  | restarted =>
      cases phase with
      | notStarted => exact hOpening (by simp [openings]) hRest
      | active => exact hTurn (by simp [turns]) hRest
      | finished =>
          exact reopening_mul_active_le (Language.append_mem_mul (mem_word.mpr rfl) hRest)
  | invalid | incorrect | won | skipped => exact hTurn (by simp [turns]) hRest
  | wonLast | skippedLast => exact hEnding (by simp [endings]) hRest

end Turn

/-- What stands right before and right after an event of a kind in a trace. -/
def Fits (before : List Event.Kind) (kind : Event.Kind) (after : List Event.Kind) : Prop :=
  match kind with
  | .roundDealt => [.deckChanged, .discardsChanged] <+: after
  | .deckChanged => [.roundDealt] <:+ before ∧ [.discardsChanged] <+: after
  | .discardsChanged => [.roundDealt, .deckChanged] <:+ before
  | .pointScored => announcement <+: after ∨ [.gameFinished] <+: after
  | .roundSkipped | .playersReset => announcement <:+ before
  | .gameFinished => after = [] ∨ reopening <+: after
  | .attemptIncorrect | .attemptInvalid => True

/-- Every event of a trace is in its place. -/
def Ordered (trace : List Event.Kind) : Prop :=
  ∀ before kind after, trace = before ++ kind :: after → Fits before kind after

theorem Fits.prepend {before after : List Event.Kind} {kind : Event.Kind}
    (fits : Fits before kind after) (earlier : List Event.Kind) :
    Fits (earlier ++ before) kind after := by
  have hBefore {kinds : List Event.Kind} (hSuffix : kinds <:+ before) :
      kinds <:+ earlier ++ before := hSuffix.trans (List.suffix_append _ _)
  cases kind with
  | deckChanged => exact ⟨hBefore fits.1, fits.2⟩
  | discardsChanged | roundSkipped | playersReset => exact hBefore fits
  | _ => exact fits

/-- A word goes in front of a trace if its own events are in their places there. -/
theorem Ordered.prepend {word trace : List Event.Kind} (ordered : Ordered trace)
    (hWord : ∀ before kind after, word = before ++ kind :: after →
      Fits before kind (after ++ trace)) : Ordered (word ++ trace) := by
  intro before kind after hEq
  rcases List.append_eq_append_iff.mp hEq with ⟨more, rfl, hTrace⟩ | ⟨more, hSplit, hMore⟩
  · exact (ordered more kind after hTrace).prepend word
  · cases more with
    | nil =>
        have hFits := (ordered [] kind after hMore.symm).prepend word
        rwa [hSplit, List.append_nil, List.append_nil] at hFits
    | cons first rest =>
        obtain ⟨rfl, rfl⟩ := List.cons.inj hMore
        exact hWord before kind rest hSplit

section Split

variable {α : Type} {P : List α → α → List α → Prop}

/-- A property of all places in a list, one place at a time. -/
theorem forall_split_cons {first : α} {rest : List α} :
    (∀ before x after, first :: rest = before ++ x :: after → P before x after) ↔
      P [] first rest ∧
        ∀ before x after, rest = before ++ x :: after → P (first :: before) x after := by
  constructor
  · intro h
    exact ⟨h [] first rest rfl, fun before x after hRest => h _ x after (hRest ▸ rfl)⟩
  · rintro ⟨hFirst, hRest⟩ before x after hEq
    cases before with
    | nil =>
        obtain ⟨rfl, rfl⟩ := List.cons.inj hEq
        exact hFirst
    | cons other before =>
        obtain ⟨rfl, hSplit⟩ := List.cons.inj hEq
        exact hRest before x after hSplit

end Split

theorem Turn.ordered {phase phase' : Phase} {command : Command} {kinds rest : List Event.Kind}
    (turn : Turn phase command kinds phase') (hRest : Ordered rest)
    (hFinished : phase' = .finished → rest = [] ∨ reopening <+: rest) :
    Ordered (kinds ++ rest) := by
  refine hRest.prepend ?_
  cases turn with
  | silent => simp
  | started | restarted | invalid | incorrect | won | skipped =>
      simp [announcement, reopening, forall_split_cons, Fits]
  | wonLast | skippedLast => simp [forall_split_cons, Fits, hFinished rfl]

end Trace

/-- The kinds of events that a step tells, in order. -/
def Step.kinds {α : Type} (step : Step α) : List Event.Kind :=
  step.events.map Event.kind

namespace Game

open Trace

/-- Every command takes a turn. -/
theorem Coherent.turn {game : Game} {chronicle : Chronicle} {command : Command}
    {step : Step Reply} (h : Coherent game chronicle) (move : Move game command step) :
    Turn game.phase command step.kinds step.game.phase := by
  have hInactive {refusal : Refusal} (hRound : game.roundInPlay = .error refusal) :
      game.phase ≠ .active := by
    rw [ne_eq, h.active_iff, h.round?_eq_none hRound]
    simp
  cases move with
  | startRefused hPhase => exact .silent (decide_eq_false hPhase)
  | attemptRefused hRound | skipRefused hRound =>
      exact .silent (decide_eq_false (hInactive hRound))
  | started hPhase hDealt =>
      rw [hPhase]
      cases hDealt with
      | dealt => exact .started
      | exhausted short => exact absurd short (not_short_deck game.options)
  | restarted hDealt =>
      unfold Step.kinds
      rw [Step.events_restarted, List.map_append]
      cases hDealt with
      | dealt => exact .restarted
      | exhausted short => exact absurd short (not_short_deck game.options)
  | invalid hRound hText =>
      rw [(roundInPlay_eq_ok_iff.mp hRound).1]
      exact .invalid
  | incorrect hRound hText hValue =>
      rw [(roundInPlay_eq_ok_iff.mp hRound).1]
      exact .incorrect
  | won hRound hText hValue hAward hDealt =>
      unfold Step.kinds
      rw [(roundInPlay_eq_ok_iff.mp hRound).1, Step.events_won, List.map_cons]
      cases hDealt with
      | dealt => exact .won
      | exhausted => exact .wonLast
  | skipped hRound hDealt =>
      unfold Step.kinds
      rw [(roundInPlay_eq_ok_iff.mp hRound).1, Step.events_skipped, List.map_append]
      cases hDealt with
      | dealt => exact .skipped
      | exhausted => exact .skippedLast
  | registered hRegister =>
      unfold Step.kinds
      rw [Step.events_registered]
      exact .silent rfl
  | replaced => exact .silent rfl
  | listening => exact .silent rfl
  | removed => exact .silent rfl

/-- The events of a run, by their kinds. -/
def trace (game : Game) (commands : List Command) : List Event.Kind :=
  (game.events commands).map Event.kind

theorem trace_cons (game : Game) (command : Command) (rest : List Command) :
    game.trace (command :: rest) =
      (game.perform command).kinds ++ (game.perform command).game.trace rest := by
  unfold trace
  rw [events_cons, List.map_append]
  rfl

variable {game : Game} {chronicle : Chronicle}

theorem Coherent.trace_mem_future (h : Coherent game chronicle) (commands : List Command) :
    game.trace commands ∈ (Pattern.future game.phase).matches' := by
  induction commands generalizing game chronicle with
  | nil => exact Pattern.nil_mem_future game.phase
  | cons command rest ih =>
      have move := move_perform game command
      rw [trace_cons]
      exact (h.turn move).append_mem_future (ih (h.advance (move.advance chronicle)))

/-- In a finished game nothing is heard but a restart and what comes after it. -/
theorem Coherent.trace_of_finished (h : Coherent game chronicle) (hPhase : game.phase = .finished)
    (commands : List Command) :
    game.trace commands = [] ∨ reopening <+: game.trace commands := by
  induction commands generalizing game chronicle with
  | nil => exact .inl rfl
  | cons command rest ih =>
      have move := move_perform game command
      have turn := h.turn move
      rw [trace_cons]
      rcases turn.of_finished hPhase with ⟨hKinds, hNext⟩ | hKinds
      · rw [hKinds]
        exact ih (h.advance (move.advance chronicle)) hNext
      · rw [hKinds]
        exact .inr (List.prefix_append _ _)

theorem Coherent.ordered_trace (h : Coherent game chronicle) (commands : List Command) :
    Ordered (game.trace commands) := by
  induction commands generalizing game chronicle with
  | nil => simp [Ordered, trace, events, steps]
  | cons command rest ih =>
      have move := move_perform game command
      have hNext := h.advance (move.advance chronicle)
      rw [trace_cons]
      exact (h.turn move).ordered (ih hNext) fun hPhase => hNext.trace_of_finished hPhase rest

/-- For an observer who registers for each kind of event right after the game was made, and for any
commands then:

* all events of the game reach the observer, in order and once each, as long as none of the
  registrations is removed;
* the kinds of events make a word of sessions: an opening with turns after it, then perhaps an
  ending, then sessions that a restart begins, of which the last need not have come to an end;
* each command tells one word, which the phase and the command allow, or nothing;
* a deal is told as round, deck and discards, in this order and with nothing between; a point comes
  right before a deal or before the end; a skip comes right after a deal; and after the end
  nothing comes before the deal of a restart. -/
theorem trace_forms_sessions (options : Options) (seed : UInt64) {kinds : List Event.Kind}
    (hNodup : kinds.Nodup) (hAll : ∀ kind, kind ∈ kinds) (commands : List Command) :
    let own := ((new options seed).watch kinds).1
    let game := ((new options seed).watch kinds).2
    ((∀ entry ∈ own, .off entry.1 entry.2 ∉ commands) →
      game.heard own commands = game.events commands) ∧
    game.trace commands ∈ Pattern.notStarted.matches' ∧
    (∀ earlier command,
      let now := game.after earlier
      let step := now.perform command
      Turn now.phase command step.kinds step.game.phase) ∧
    ∀ before kind after, game.trace commands = before ++ kind :: after →
      Fits before kind after := by
  intro own game
  have h : Coherent game ((new options seed).chronicle (kinds.map .on)) := by
    have hCoherent := coherent_after options seed (kinds.map .on)
    rwa [← watch_eq_after] at hCoherent
  have hPhase : game.phase = .notStarted := by
    obtain ⟨observers, hWatch⟩ := exists_watch_eq (new options seed) kinds
    exact congrArg Game.phase hWatch
  refine ⟨heard_watch options seed hNodup hAll, ?_, ?_, h.ordered_trace commands⟩
  · have hTrace := h.trace_mem_future commands
    rwa [hPhase] at hTrace
  · intro earlier command
    have hLater := after_along Coherent.advance earlier h
    exact hLater.turn (move_perform _ command)

/-- A staged round is tried, failed, solved and found to be the last; the restart is heard although
somebody removes one of the handles, but for a kind that it is not registered for. -/
theorem trace_forms_sessions_staged :
    let kinds : List Event.Kind :=
      [.gameFinished, .playersReset, .roundDealt, .deckChanged, .discardsChanged, .roundSkipped,
        .pointScored, .attemptIncorrect, .attemptInvalid]
    let own := ((new {} 7).watch kinds).1
    let game := ((new {} 7).watch kinds).2
    let commands : List Command :=
      [.start, .attempt "ann" "6 * 4",
        .replaceDeck [⟨.hearts, 6⟩, ⟨.spades, 1⟩, ⟨.clubs, 1⟩, ⟨.diamonds, 4⟩], .skip "ben",
        .attempt "ann" "6 + 4 + 1 + 1", .attempt "ann" "6 * 4 * 1 * 1", .skip "ben",
        .off .roundDealt ⟨0⟩, .restart]
    (kinds.Nodup ∧ (∀ kind, kind ∈ kinds) ∧ ∀ entry ∈ own, .off entry.1 entry.2 ∉ commands) ∧
      game.trace commands =
        [.roundDealt, .deckChanged, .discardsChanged, .attemptInvalid,
          .roundDealt, .deckChanged, .discardsChanged, .roundSkipped, .attemptIncorrect,
          .pointScored, .gameFinished,
          .roundDealt, .deckChanged, .discardsChanged, .playersReset] ∧
      (game.heard own commands).map Event.kind = game.trace commands ∧
      game.trace commands ∈ Pattern.notStarted.matches' := by
  intro kinds own game commands
  have hNodup : kinds.Nodup := by decide
  have hAll : ∀ kind, kind ∈ kinds := by intro kind; cases kind <;> decide
  have hOwn : (.roundDealt, ⟨0⟩) ∉ own := by decide +kernel
  have hKept : ∀ entry ∈ own, .off entry.1 entry.2 ∉ commands := by
    rintro ⟨kind, id⟩ hEntry hOff
    have hSame : kind = .roundDealt ∧ id = ⟨0⟩ := by simpa [commands] using hOff
    rw [hSame.1, hSame.2] at hEntry
    exact hOwn hEntry
  obtain ⟨hHeard, hTrace, -⟩ := trace_forms_sessions {} 7 hNodup hAll commands
  exact ⟨⟨hNodup, hAll, hKept⟩, by decide +kernel, congrArg _ (hHeard hKept), hTrace⟩

end Game

end Make24
