import Mathlib
import Make24.Proofs.Game.Registry
import Make24.Proofs.Game.Trace

/-! The log and the observers are told the same. What a record of the log reports is reported to the
observers later in the same command, in the same order and with the same details; and the details of
a record are those of the game that the command was given to or has led to. -/

namespace Make24

/-- The matters that are reported both to the log and to the observers. -/
inductive Topic where
  | deal
  | remaining
  | exhaustion
  | point
  | invalid
  | incorrect
  | restart
deriving DecidableEq

/-- A report on a matter, with the details that the log and the observers both get. -/
inductive News where
  | deal (round : Round)
  | remaining (cards : Nat)
  | exhaustion
  | point (player : String) (score : Nat)
  | invalid (player text : String)
  | incorrect (player text : String) (value : Float)
  | restart (players : Nat)

def News.topic : News → Topic
  | deal _ => .deal
  | remaining _ => .remaining
  | exhaustion => .exhaustion
  | point .. => .point
  | invalid .. => .invalid
  | incorrect .. => .incorrect
  | restart _ => .restart

/-- What a record reports. The log is told of a player who is known already and the observers are
not; of a skip they are told different rounds, and the observers only if there is a next one. -/
def LogRecord.news : LogRecord → List News
  | roundDealt round remaining => [.deal round, .remaining remaining]
  | deckExhausted .. => [.exhaustion]
  | pointScored player score _ => [.point player score]
  | attemptInvalid player text _ => [.invalid player text]
  | attemptIncorrect player text value => [.incorrect player text value]
  | restarting players => [.restart players]
  | roundSkipped .. | alreadyRegistered _ => []

/-- What an event reports. -/
def Event.news : Event → List News
  | roundDealt round => [.deal round]
  | deckChanged deck => [.remaining deck.length]
  | gameFinished => [.exhaustion]
  | pointScored winner => [.point winner.id winner.score]
  | attemptInvalid player text => [.invalid player text]
  | attemptIncorrect player text value => [.incorrect player text value]
  | playersReset players => [.restart players.length]
  | discardsChanged _ | roundSkipped .. => []

/-- The reports of records on a topic, in order. -/
def logged (topic : Topic) (records : List LogRecord) : List News :=
  (records.flatMap LogRecord.news).filter (·.topic = topic)

/-- The reports of events on a topic, in order. -/
def told (topic : Topic) (events : List Event) : List News :=
  (events.flatMap Event.news).filter (·.topic = topic)

theorem logged_append (topic : Topic) (first second : List LogRecord) :
    logged topic (first ++ second) = logged topic first ++ logged topic second := by
  simp [logged]

theorem told_append (topic : Topic) (first second : List Event) :
    told topic (first ++ second) = told topic first ++ told topic second := by
  simp [told]

/-- The observers are told all that is logged on a topic, and nothing before it is logged. -/
structure Retold (topic : Topic) (signals : List Signal) : Prop where
  later : ∀ said, said <+: signals →
    told topic (said.filterMap Signal.event?) <+: logged topic (said.filterMap Signal.record?)
  same : told topic (signals.filterMap Signal.event?) =
    logged topic (signals.filterMap Signal.record?)

namespace Retold

variable {topic : Topic} {first second signals : List Signal}

theorem told_of_said (topic : Topic) {said : List Signal} (hSaid : said <+: signals) :
    told topic (said.filterMap Signal.event?) <+: told topic (signals.filterMap Signal.event?) := by
  obtain ⟨rest, rfl⟩ := hSaid
  rw [List.filterMap_append, told_append]
  exact List.prefix_append _ _

theorem silent (hLogged : logged topic (signals.filterMap Signal.record?) = [])
    (hTold : told topic (signals.filterMap Signal.event?) = []) : Retold topic signals where
  later said hSaid := by
    have hPrefix := told_of_said topic hSaid
    rw [hTold, List.prefix_nil] at hPrefix
    rw [hPrefix]
    exact List.nil_prefix
  same := hTold.trans hLogged.symm

theorem append (hFirst : Retold topic first) (hSecond : Retold topic second) :
    Retold topic (first ++ second) where
  later said hSaid := by
    rcases List.prefix_or_prefix_of_prefix hSaid (List.prefix_append first second) with
      hBefore | ⟨more, rfl⟩
    · exact hFirst.later said hBefore
    · rw [List.prefix_append_right_inj] at hSaid
      rw [List.filterMap_append, List.filterMap_append, told_append, logged_append, hFirst.same,
        List.prefix_append_right_inj]
      exact hSecond.later more hSaid
  same := by
    rw [List.filterMap_append, List.filterMap_append, told_append, logged_append, hFirst.same,
      hSecond.same]

/-- A record is retold by what is said after it if nothing else on the topic is logged there. -/
theorem of_record {entry : LogRecord}
    (hLogged : logged topic (signals.filterMap Signal.record?) = [])
    (hTold : told topic (signals.filterMap Signal.event?) = logged topic [entry]) :
    Retold topic (.record entry :: signals) := by
  have hEntry (said : List Signal) :
      logged topic ((Signal.record entry :: said).filterMap Signal.record?) =
        logged topic [entry] ++ logged topic (said.filterMap Signal.record?) :=
    logged_append topic [entry] (said.filterMap Signal.record?)
  constructor
  · intro said hSaid
    rcases List.prefix_cons_iff.mp hSaid with rfl | ⟨more, rfl, hMore⟩
    · exact List.nil_prefix
    · rw [hEntry, ← hTold]
      exact (told_of_said topic hMore).trans (List.prefix_append _ _)
  · rw [hEntry, hLogged, List.append_nil]
    exact hTold

end Retold

namespace Game

variable {game : Game} {command : Command} {step : Step Reply} {dealt : Step Bool}

theorem Dealing.retold (hDealt : Dealing game dealt) (topic : Topic) :
    Retold topic dealt.signals := by
  cases hDealt with
  | dealt => exact .of_record rfl (by cases topic <;> rfl)
  | exhausted => exact .of_record rfl (by cases topic <;> rfl)

/-- A player who is known already is reported to the log alone. -/
theorem retold_registrationRecords (game : Game) (player : String) (topic : Topic) :
    Retold topic (game.registrationRecords player) := by
  unfold registrationRecords
  cases game.roster.find? player with
  | none => exact .silent rfl rfl
  | some known => exact .silent rfl rfl

/-- The players are counted before a restart and told after the deal, and none is gained or lost on
the way. -/
theorem Dealing.retold_restart {players : Nat} (hDealt : Dealing game dealt)
    (hPlayers : players = dealt.game.roster.players.length) (topic : Topic) :
    Retold topic (.record (.restarting players)
      :: dealt.signals ++ [.event (.playersReset dealt.game.roster.players)]) := by
  by_cases hTopic : topic = .restart
  · subst hTopic hPlayers
    refine .of_record ?_ ?_
    · cases hDealt <;> rfl
    · cases hDealt <;> rfl
  · have hRecord : Retold topic [.record (.restarting players)] :=
      .silent (by cases topic <;> first | rfl | exact absurd rfl hTopic) rfl
    have hEvent : Retold topic [.event (.playersReset dealt.game.roster.players)] :=
      .silent rfl (by cases topic <;> first | rfl | exact absurd rfl hTopic)
    exact (hRecord.append (hDealt.retold topic)).append hEvent

theorem Move.retold (move : Move game command step) (topic : Topic) :
    Retold topic step.signals := by
  cases move with
  | started hPhase hDealt => exact hDealt.retold topic
  | restarted hDealt =>
      refine hDealt.retold_restart ?_ topic
      rw [hDealt.roster_eq]
      exact (List.length_map _).symm
  | invalid | incorrect => exact .of_record rfl (by cases topic <;> rfl)
  | @won player text round _ winner _ hRound hText hValue hAward dealt hDealt =>
      obtain rfl := congrArg Prod.fst hAward
      have hId : (game.roster.award player round).1.id = player := by
        rw [Roster.fst_award]
        exact game.roster.id_record player
      have hPoint : Retold topic
          [.record (.pointScored player (game.roster.award player round).1.score round),
            .event (.pointScored (game.roster.award player round).1)] := by
        refine .of_record rfl ?_
        change told topic [.pointScored (game.roster.award player round).1] = _
        unfold told logged
        simp only [List.flatMap_singleton, Event.news, LogRecord.news, hId]
      exact (game.retold_registrationRecords player topic).append
        (hPoint.append (hDealt.retold topic))
  | @skipped player round hRound dealt hDealt =>
      have hRecord : Retold topic [.record (.roundSkipped player round)] := .silent rfl rfl
      have hNext : Retold topic
          (dealt.game.round?.toList.map fun next => .event (.roundSkipped player next)) := by
        cases dealt.game.round? with
        | none => exact .silent rfl rfl
        | some next => exact .silent rfl rfl
      exact (hRecord.append (hDealt.retold topic)).append hNext
  | registered => exact game.retold_registrationRecords _ topic
  | _ => exact .silent rfl rfl

end Game

/-- What a record says of the game that a command was given to and of the step that it led to, and
what is said after it. -/
def LogRecord.Holds (game : Game) (command : Command) (step : Step Reply) (later : List Signal) :
    LogRecord → Prop
  | restarting players => command = .restart ∧ players = game.roster.players.length
  | roundDealt round remaining =>
      step.game.round? = some round ∧ remaining = step.game.deck.length ∧
        [.event (.roundDealt round), .event (.deckChanged step.game.deck)] <+: later
  | deckExhausted remaining discarded =>
      step.game.phase = .finished ∧ remaining = step.game.deck.length ∧
        discarded = step.game.discards.length ∧ [.event .gameFinished] <+: later
  | attemptInvalid player text rejection =>
      command = .attempt player text ∧ step.result = .attempted (.ok (.invalid rejection))
  | attemptIncorrect player text value =>
      command = .attempt player text ∧ step.result = .attempted (.ok (.incorrect value))
  | pointScored player score round =>
      (∃ text, command = .attempt player text) ∧ game.round? = some round ∧
        step.result = .attempted (.ok (.scored score))
  | roundSkipped player round =>
      command = .skip player ∧ game.round? = some round ∧
        ((∃ next, step.game.round? = some next ∧ .event (.roundSkipped player next) ∈ later) ∨
          step.game.round? = none ∧ .event .gameFinished ∈ later)
  | alreadyRegistered player =>
      player ∈ game.roster.ids ∧ player ∈ command.enrolled step.result

/-- Whom a record calls known already. -/
def LogRecord.registered? : LogRecord → Option String
  | alreadyRegistered player => some player
  | _ => none

/-- An event is no record and says nothing that would have to hold. -/
def Signal.Holds (game : Game) (command : Command) (step : Step Reply) (later : List Signal) :
    Signal → Prop
  | record entry => entry.Holds game command step later
  | event _ => True

namespace Game

variable {game : Game} {command : Command} {step : Step Reply} {dealt : Step Bool}

theorem registrationRecords_eq (game : Game) (player : String) :
    game.registrationRecords player =
      if player ∈ game.roster.ids then [.record (.alreadyRegistered player)] else [] := by
  have hIds : (∃ known, game.roster.find? player = some known) ↔ player ∈ game.roster.ids :=
    Roster.exists_find?_iff
  unfold registrationRecords
  cases hFound : game.roster.find? player with
  | none => exact (if_neg (by simp [← hIds, hFound])).symm
  | some known => exact (if_pos (hIds.mp ⟨known, hFound⟩)).symm

open Trace in
/-- Every record says what is so. -/
theorem Move.holds (move : Move game command step) (before : List Signal) (signal : Signal)
    (later : List Signal) (hSaid : step.signals = before ++ signal :: later) :
    signal.Holds game command step later := by
  revert before signal later
  cases move with
  | started hPhase hDealt | restarted hDealt =>
      cases hDealt <;> simp [forall_split_cons, Signal.Holds, LogRecord.Holds]
  | invalid | incorrect => simp [forall_split_cons, Signal.Holds, LogRecord.Holds]
  | @won player _ _ _ _ _ hRound hText hValue hAward dealt hDealt =>
      have hInPlay := (roundInPlay_eq_ok_iff.mp hRound).2
      rw [registrationRecords_eq]
      by_cases hKnown : player ∈ game.roster.ids <;> cases hDealt <;>
        simp [forall_split_cons, Signal.Holds, LogRecord.Holds, Command.enrolled, hInPlay, hKnown]
  | skipped hRound hDealt =>
      have hInPlay := (roundInPlay_eq_ok_iff.mp hRound).2
      cases hDealt <;> simp [forall_split_cons, Signal.Holds, LogRecord.Holds, hInPlay]
  | @registered player =>
      rw [registrationRecords_eq]
      by_cases hKnown : player ∈ game.roster.ids <;>
        simp [forall_split_cons, Signal.Holds, LogRecord.Holds, Command.enrolled, hKnown]
  | _ => simp

/-- The skips that are not refused are logged. -/
theorem Move.skip_logged_iff (move : Move game command step) (player : String) :
    (∃ round, .record (.roundSkipped player round) ∈ step.signals) ↔
      command = .skip player ∧ ∃ next, step.result = .skipped (.ok next) := by
  cases move with
  | started hPhase hDealt | restarted hDealt => cases hDealt <;> simp
  | won hRound hText hValue hAward hDealt =>
      rw [registrationRecords_eq]
      cases hDealt <;> split <;> simp
  | skipped hRound hDealt => cases hDealt <;> simp [eq_comm]
  | registered =>
      rw [registrationRecords_eq]
      split <;> simp
  | _ => simp

/-- Who is made known but is known already is logged, once. -/
theorem Move.filterMap_registered? (move : Move game command step) :
    step.records.filterMap LogRecord.registered? =
      (command.enrolled step.result).filter (· ∈ game.roster.ids) := by
  unfold Step.records
  cases move with
  | started hPhase hDealt | restarted hDealt =>
      cases hDealt <;> rfl
  | @won player _ _ _ _ _ hRound hText hValue hAward dealt hDealt =>
      rw [registrationRecords_eq]
      by_cases hKnown : player ∈ game.roster.ids <;> cases hDealt <;>
        simp [Signal.record?, LogRecord.registered?, Command.enrolled, hKnown]
  | skipped hRound hDealt => cases hDealt <;> rfl
  | @registered player =>
      rw [registrationRecords_eq]
      by_cases hKnown : player ∈ game.roster.ids <;>
        simp [Signal.record?, LogRecord.registered?, Command.enrolled, hKnown]
  | _ => rfl

/-- The records of a run, in order. -/
def records (game : Game) (commands : List Command) : List LogRecord :=
  (game.steps commands).flatMap Step.records

theorem told_events (game : Game) (commands : List Command) (topic : Topic) :
    told topic (game.events commands) = logged topic (game.records commands) := by
  induction commands generalizing game with
  | nil => rfl
  | cons command rest ih =>
      have hRecords : game.records (command :: rest) =
          (game.perform command).records ++ (game.perform command).game.records rest := by
        simp [records, steps]
      rw [events_cons, hRecords, told_append, logged_append, ih]
      exact congrArg (· ++ _) ((move_perform game command).retold topic).same

theorem serves_after {own : List Registration} {commands : List Command}
    (serves : game.observers.Serves own)
    (hKept : ∀ entry ∈ own, .off entry.1 entry.2 ∉ commands) :
    (game.after commands).observers.Serves own := by
  induction commands generalizing game with
  | nil => exact serves
  | cons command rest ih =>
      refine ih ((move_perform game command).serves serves fun entry hEntry hEq => ?_) ?_
      · exact hKept entry hEntry (hEq ▸ List.mem_cons_self)
      · exact fun entry hEntry hMem => hKept entry hEntry (List.mem_cons_of_mem _ hMem)

/-- For an observer who registers for each kind of event right after the game was made, and for any
commands then, on each of the seven topics what the observer hears is what is logged, one report for
one, as long as none of the registrations is removed. For every command after any others:

* what the observer is called with are the events among all that the command says;
* on each topic the events report what the records report, in the same order and with the same
  details, and at no point more than was logged before;
* every record says what is so: which round was dealt and how many cards the deck, told right after
  it, has left; how many are left and how many were dealt when the deck is exhausted; whose attempt
  it was, what came of it and which round it won; which round was given up, before the next one or
  the end of the game is told; and how many players there are at a restart;
* a skip that is not refused is logged, and no other command is logged as one;
* a player is called known already exactly if registered or awarded a point when known before, and
  once. -/
theorem log_retold_after (options : Options) (seed : UInt64) {kinds : List Event.Kind}
    (hNodup : kinds.Nodup) (hAll : ∀ kind, kind ∈ kinds) :
    let own := ((new options seed).watch kinds).1
    let game := ((new options seed).watch kinds).2
    (∀ commands, (∀ entry ∈ own, .off entry.1 entry.2 ∉ commands) →
      ∀ topic, told topic (game.heard own commands) = logged topic (game.records commands)) ∧
    ∀ earlier command,
      let now := game.after earlier
      let step := now.perform command
      ((∀ entry ∈ own, .off entry.1 entry.2 ∉ earlier ++ [command]) →
        (step.calls.filter fun call => call.1 ∈ own.map Prod.snd).map Prod.snd =
          step.signals.filterMap Signal.event?) ∧
      (∀ topic, Retold topic step.signals) ∧
      (∀ before entry later, step.signals = before ++ .record entry :: later →
        entry.Holds now command step later) ∧
      (∀ player, (∃ round, .record (.roundSkipped player round) ∈ step.signals) ↔
        command = .skip player ∧ ∃ next, step.result = .skipped (.ok next)) ∧
      step.records.filterMap LogRecord.registered? =
        (command.enrolled step.result).filter (· ∈ now.roster.ids) := by
  intro own game
  refine ⟨fun commands hKept topic => ?_, fun earlier command => ?_⟩
  · have hHeard : game.heard own commands = game.events commands :=
      heard_watch options seed hNodup hAll hKept
    rw [hHeard, told_events]
  · intro now step
    have move : Move now command step := move_perform now command
    refine ⟨fun hKept => ?_, move.retold, fun before entry later => move.holds before _ later,
      move.skip_logged_iff, move.filterMap_registered?⟩
    have hNone : ∀ kind, (new options seed).observers.listeners kind = [] := fun kind =>
      Std.HashMap.getD_empty
    have hServes : step.game.observers.Serves own := by
      have hAfter := serves_after (serves_watch hNone hNodup hAll) hKept
      rwa [after_append] at hAfter
    exact hServes.calls step.events

/-- A player who is known scores in the first round; the restart counts one player. -/
theorem log_retold_after_score :
    let kinds : List Event.Kind :=
      [.gameFinished, .playersReset, .roundDealt, .deckChanged, .discardsChanged, .roundSkipped,
        .pointScored, .attemptIncorrect, .attemptInvalid]
    let own := ((new {} 7).watch kinds).1
    let game := ((new {} 7).watch kinds).2
    let earlier : List Command := [.addPlayer "ann", .start]
    let attempt : Command := .attempt "ann" "10 * 2 + 2 + 2"
    let commands : List Command := earlier ++ [attempt, .restart]
    (kinds.Nodup ∧ (∀ kind, kind ∈ kinds) ∧ ∀ entry ∈ own, .off entry.1 entry.2 ∉ commands) ∧
      (∀ topic, told topic (game.heard own commands) = logged topic (game.records commands)) ∧
      (logged .point (game.records commands)).length = 1 ∧
      (logged .deal (game.records commands)).length = 3 ∧
      ((game.after earlier).perform attempt).records.filterMap LogRecord.registered? =
        ["ann"] := by
  intro kinds own game earlier attempt commands
  have hNodup : kinds.Nodup := by decide
  have hAll : ∀ kind, kind ∈ kinds := by intro kind; cases kind <;> decide
  have hKept : ∀ entry ∈ own, .off entry.1 entry.2 ∉ commands := by
    simp [commands, earlier, attempt]
  have hRetold := log_retold_after {} 7 hNodup hAll
  exact ⟨⟨hNodup, hAll, hKept⟩, hRetold.1 commands hKept, by decide +kernel, by decide +kernel,
    by decide +kernel⟩

end Game

end Make24
