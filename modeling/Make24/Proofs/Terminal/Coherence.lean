import Mathlib
import Make24.Proofs.Game.Duration
import Make24.Proofs.Terminal.Answers

/-! What holds of the game at every question of a session. The terminal alone has the game, so the
deck is the one that was built, nobody but the one player is known, and a game that is neither
finished nor has a round in play is never asked about. -/

namespace Make24

theorem Chronicle.deckReplaced_note {chronicle : Chronicle} {inPlay : Option Round}
    {command : Command} {step : Step Reply} (hBuilt : chronicle.deckReplaced = false)
    (hCommand : ∀ cards, command ≠ .replaceDeck cards) :
    (chronicle.note inPlay command step).deckReplaced = false := by
  change (chronicle.enter inPlay command step.result).deckReplaced = false
  unfold enter
  split <;> simp_all

namespace Terminal

/-- Nobody but the player at the terminal is known. -/
def Alone (roster : Roster) : Prop :=
  roster.players.map Player.id = [] ∨ roster.players.map Player.id = [player]

theorem Alone.award {roster : Roster} (h : Alone roster) (round : Round) :
    Alone (roster.award player round).2 := by
  have hIds : (roster.award player round).2.players.map Player.id = _ :=
    roster.map_id_update player fun _ => rfl
  refine .inr ?_
  rw [hIds]
  rcases h with hNobody | hPlayer
  · simp [hNobody]
  · simp [hPlayer]

theorem Alone.reset {roster : Roster} (h : Alone roster) : Alone roster.reset := by
  unfold Alone
  rwa [roster.map_id_reset]

/-- Nobody else becomes known by what the player does. -/
theorem Alone.move {game : Game} {command : Command} {step : Step Reply}
    (h : Alone game.roster) (move : game.Move command step)
    (hAttempt : ∀ id text, command = .attempt id text → id = player)
    (hAdd : ∀ id, command ≠ .addPlayer id) : Alone step.game.roster := by
  cases move with
  | started hPhase hDealt => exact hDealt.roster_eq.symm ▸ h
  | restarted hDealt => exact hDealt.roster_eq.symm ▸ h.reset
  | skipped hRound hDealt => exact hDealt.roster_eq.symm ▸ h
  | @won id text round _ _ _ hRound hText hValue hAward dealt hDealt =>
      obtain rfl := hAttempt id text rfl
      obtain rfl := congrArg Prod.snd hAward
      exact hDealt.roster_eq.symm ▸ h.award round
  | @registered id => exact absurd rfl (hAdd id)
  | _ => exact h

/-- A game as the terminal has it when it asks. -/
structure Seated (options : Options) (game : Game) (chronicle : Chronicle) : Prop
    extends Game.Conserved options game chronicle where
  built : chronicle.deckReplaced = false
  runsOut : game.RunsOut chronicle
  begun : game.phase ≠ .notStarted
  attended : Attended game.observers
  alone : Alone game.roster

/-- A session that has just begun: one round was dealt off the whole deck, and nobody has points. -/
structure Fresh (options : Options) (game : Game) (round : Round) : Prop where
  phase : game.phase = .active
  round? : game.round? = some round
  discards : game.discards = round.cards.toList
  deck : (game.deck ++ round.cards.toList).Perm options.deck
  nobody : ∀ known ∈ game.roster.players, known.score = 0 ∧ known.cards = []

/-- The rounds dealt and the points scored since the start or the last restart. -/
structure Progress where
  deals : Nat
  scored : Nat

def Progress.of (chronicle : Chronicle) : Progress := ⟨chronicle.dealt.length, chronicle.won.length⟩

/-- What a line is about. -/
inductive Line.Topic where
  | deal
  | board
  | score
  /-- Something was asked of the game that it refused or did not have. -/
  | trouble
  | other
deriving DecidableEq, Repr

def Line.topic : Line → Topic
  | dealt _ | cardsLeft _ => .deal
  | noPlayers | standing .. | leftToPlay _ => .board
  | score _ => .score
  | startRefused _ | skipRefused _ | attemptRefused _ | noRound => .trouble
  | _ => .other

/-- Whether a line announces a deal. -/
def Line.isDeal : Line → Bool
  | dealt _ => true
  | _ => false

/-- Counts what an exchange shows and scores; a restart counts from anew. -/
def Progress.note (progress : Progress) (exchange : Exchange) : Progress :=
  let since := if exchange.restarts then ⟨0, 0⟩ else progress
  ⟨since.deals + exchange.turn.lines.countP Line.isDeal,
    since.scored + if exchange.isScored then 1 else 0⟩

section Lines

variable {game : Game} {line : Line}

theorem topic_of_mem_scoreboard (hLine : line ∈ scoreboard game) : line.topic = .board := by
  simp only [scoreboard, List.mem_append, List.mem_map, List.mem_singleton] at hLine
  rcases hLine with (hNone | ⟨player, -, rfl⟩) | rfl
  · split at hNone
    · rw [List.mem_singleton.mp hNone]
      rfl
    · cases hNone
  · rfl
  · rfl

theorem topic_of_mem_prompt (hLine : line ∈ prompt game) :
    line.topic = .board ∨ line.topic = .other := by
  unfold prompt at hLine
  split at hLine
  · simp only [List.cons_append, List.mem_cons, List.mem_append, List.not_mem_nil, or_false]
      at hLine
    rcases hLine with rfl | hBoard | rfl
    · exact .inr rfl
    · exact .inl (topic_of_mem_scoreboard hBoard)
    · exact .inr rfl
  · rw [List.mem_singleton.mp hLine]
    exact .inr rfl

theorem prompt_of_active (hPhase : game.phase = .active) : prompt game = [.askCommand] := by
  unfold prompt
  rw [hPhase]

/-- A hint is given while a round is in play. -/
theorem topic_hintLine (hRound : game.round?.isSome) : (hintLine game).topic = .other := by
  obtain ⟨round, hRound⟩ := Option.isSome_iff_exists.mp hRound
  unfold hintLine
  rw [hRound]
  cases hSolutions : round.solutions <;> simp [hSolutions, Line.topic]

theorem topic_of_met {lines : List Line} (hRound : game.round?.isSome)
    (hLines : lines = [] ∨ lines = [hintLine game] ∨ lines = scoreboard game)
    (hLine : line ∈ lines) : line.topic = .board ∨ line.topic = .other := by
  rcases hLines with rfl | rfl | rfl
  · cases hLine
  · rw [List.mem_singleton.mp hLine]
    exact .inr (topic_hintLine hRound)
  · exact .inl (topic_of_mem_scoreboard hLine)

theorem Report.topic_ne_trouble {next : Game} {command : Command} {reply : Reply}
    {lines : List Line} (report : Report next command reply lines) :
    ∀ line ∈ lines, line.topic ≠ .trouble := by
  cases report <;> simp [Line.topic]

theorem Report.of_restart {next : Game} {reply : Reply} {lines : List Line}
    (report : Report next .restart reply lines) : ∃ round, next.round? = some round ∧
      lines = [.dealt round, .cardsLeft next.deck.length, .scoresReset] := by
  cases report with
  | restarted hRound => exact ⟨_, hRound, rfl⟩

theorem topic_of_isDeal (hDeal : line.isDeal = true) : line.topic = .deal := by
  cases line <;> simp [Line.isDeal, Line.topic] at hDeal ⊢

end Lines

section Counting

variable {step : Step Reply}

theorem countP_remarks (reply : Reply) : (remarks reply).countP Line.isDeal = 0 := by
  unfold remarks
  split
  case h_1 result => cases result with
    | error => rfl
    | ok outcome => cases outcome <;> rfl
  case h_2 result => cases result <;> rfl
  case h_3 => rfl

/-- Each deal of a step is announced once. -/
theorem countP_shown (hAttended : Attended step.game.observers) :
    (shown step).countP Line.isDeal = step.dealt.length := by
  rw [hAttended.shown_eq]
  unfold Step.events Step.dealt
  induction step.signals with
  | nil => rfl
  | cons signal rest ih =>
      rcases signal with entry | notice
      · exact ih
      · cases notice <;> simpa [List.filterMap_cons, List.countP_cons, Signal.event?,
          Signal.dealt?, Line.ofEvent?, Line.isDeal] using ih

end Counting

namespace Progress

variable {chronicle : Chronicle} {inPlay : Option Round} {step : Step Reply} {id text : String}

theorem of_restarted : of (chronicle.note inPlay .restart step) = ⟨step.dealt.length, 0⟩ := by
  simp [of, Chronicle.note, Chronicle.enter, Chronicle.deal]

theorem of_skipped : of (chronicle.note inPlay (.skip id) step) =
    ⟨chronicle.dealt.length + step.dealt.length, chronicle.won.length⟩ := by
  simp [of, Chronicle.note, Chronicle.enter, Chronicle.deal]

theorem of_attempted (hInPlay : inPlay.isSome) :
    of (chronicle.note inPlay (.attempt id text) step) =
      ⟨chronicle.dealt.length + step.dealt.length,
        chronicle.won.length + if step.result.isScored then 1 else 0⟩ := by
  obtain ⟨round, rfl⟩ := Option.isSome_iff_exists.mp hInPlay
  unfold Chronicle.note
  rcases step.result with _ | _ | (_ | outcome) | _ | _ | _ | _ | _
  case attempted.ok => cases outcome <;> simp [of, Chronicle.enter, Chronicle.deal, Reply.isScored,
    Outcome.isScored]
  all_goals simp [of, Chronicle.enter, Chronicle.deal, Reply.isScored]

variable {exchange : Exchange} {command : Command}

/-- The chronicle counts what the exchange shows and scores. -/
theorem of_note (hCommand : exchange.command? = some command)
    (hAttended : Attended (exchange.game.perform command).game.observers)
    (hInPlay : exchange.game.phase ≠ .finished → exchange.game.round?.isSome) :
    of (chronicle.note exchange.game.round? command (exchange.game.perform command)) =
      (of chronicle).note exchange := by
  unfold note
  rw [exchange.turn_eq hCommand]
  simp only [Turn.goOn, List.countP_append, countP_remarks, countP_shown hAttended,
    Exchange.isScored, hCommand, Nat.add_zero]
  have hRestarts := exchange.command?_eq_restart_iff
  rw [hCommand, Option.some.injEq] at hRestarts
  rcases exchange.eq_of_command? hCommand with rfl | ⟨hPhase, rfl | ⟨text, rfl⟩⟩
  · rw [of_restarted, if_pos (hRestarts.mp rfl)]
    simp [Game.perform, Reply.isScored]
  · have hStays : ¬exchange.restarts = true := by simp [← hRestarts]
    rw [of_skipped, if_neg hStays]
    simp [Game.perform, Reply.isScored, of]
  · have hStays : ¬exchange.restarts = true := by simp [← hRestarts]
    rw [of_attempted (hInPlay hPhase), if_neg hStays]
    simp [of]

end Progress

/-- What is told in reply to an answer: nothing, what was asked for while a round is in play, or how
a command that was passed on turned out. -/
inductive Told (exchange : Exchange) : List Line → Prop where
  | nothing (hCommand : exchange.command? = none) : Told exchange []
  | hint (hCommand : exchange.command? = none) (hPhase : exchange.game.phase = .active) :
      Told exchange [hintLine exchange.game]
  | board (hCommand : exchange.command? = none) (hPhase : exchange.game.phase = .active) :
      Told exchange (scoreboard exchange.game)
  | reported {command : Command} {lines : List Line} (hCommand : exchange.command? = some command)
      (hReport : Report (exchange.game.perform command).game command
        (exchange.game.perform command).result lines) : Told exchange lines

namespace Seated

variable {options : Options} {game : Game} {chronicle : Chronicle} {exchange : Exchange}
  {command : Command}

theorem phase_eq_active (h : Seated options game chronicle) (hPhase : game.phase ≠ .finished) :
    game.phase = .active := by
  have hBegun := h.begun
  cases hNow : game.phase with
  | notStarted => exact absurd hNow hBegun
  | active => rfl
  | finished => exact absurd hNow hPhase

theorem isSome_round? (h : Seated options game chronicle) (hPhase : game.phase ≠ .finished) :
    game.round?.isSome :=
  h.active_iff.mp (h.phase_eq_active hPhase)

theorem exists_roundInPlay (h : Seated options game chronicle) (hPhase : game.phase ≠ .finished) :
    ∃ round, game.roundInPlay = .ok round := by
  obtain ⟨round, hRound⟩ := Option.isSome_iff_exists.mp (h.isSome_round? hPhase)
  exact ⟨round, Game.roundInPlay_eq_ok_iff.mpr ⟨h.phase_eq_active hPhase, hRound⟩⟩

/-- What the terminal passes on leaves the game as the terminal has it. -/
theorem perform (h : Seated options exchange.game chronicle)
    (hCommand : exchange.command? = some command) :
    Seated options (exchange.game.perform command).game
      (chronicle.note exchange.game.round? command (exchange.game.perform command)) := by
  have move := Game.move_perform exchange.game command
  have advance := move.advance chronicle
  have hPassed := exchange.eq_of_command? hCommand
  have hObservers : (exchange.game.perform command).game.observers =
      exchange.game.observers :=
    move.observers_eq (by rintro kind rfl; simp at hPassed) (by rintro kind id rfl; simp at hPassed)
  refine {
    toConserved := h.toConserved.advance advance
    built := Chronicle.deckReplaced_note h.built (by rintro cards rfl; simp at hPassed)
    runsOut := h.runsOut.advance advance
    begun := ?_
    attended := hObservers ▸ h.attended
    alone := h.alone.move move ?_ (by rintro id rfl; simp at hPassed) }
  · rw [Ne, move.phase_eq_notStarted_iff]
    exact fun hPhase => h.begun hPhase.1
  · rintro id text rfl
    have hPlayer : ¬exchange.game.phase = .finished ∧ id = player := by simpa using hPassed
    exact hPlayer.2

theorem progress_perform (h : Seated options exchange.game chronicle)
    (hCommand : exchange.command? = some command) :
    Progress.of (chronicle.note exchange.game.round? command (exchange.game.perform command)) =
      (Progress.of chronicle).note exchange :=
  Progress.of_note hCommand (h.perform hCommand).attended h.isSome_round?

/-- The terminal has the game like this at the next question as well, and has counted on. -/
theorem exists_next (h : Seated options exchange.game chronicle) {next : Game}
    (hNext : exchange.turn.next = some next) :
    ∃ chronicle', Seated options next chronicle' ∧
      Progress.of chronicle' = (Progress.of chronicle).note exchange := by
  have hTaken := exchange.taken_turn
  generalize hTurn : exchange.turn = turn at hTaken hNext
  cases hTaken with
  | left => cases hNext
  | @met lines hPhase hCommand hLines =>
      obtain rfl := Option.some.inj hNext
      refine ⟨chronicle, h, ?_⟩
      have hNone : lines.countP Line.isDeal = 0 := by
        rw [List.countP_eq_zero]
        intro line hLine hDeal
        have hTopic := topic_of_met (h.isSome_round? hPhase) hLines hLine
        simp [topic_of_isDeal hDeal] at hTopic
      have hStays : ¬exchange.restarts = true := by
        simp [← exchange.command?_eq_restart_iff, hCommand]
      unfold Progress.note
      rw [if_neg hStays, hTurn]
      simp [Turn.goOn, hNone, Exchange.isScored, hCommand]
  | passed hCommand =>
      obtain rfl := Option.some.inj hNext
      exact ⟨_, h.perform hCommand, h.progress_perform hCommand⟩

/-- What is shown in reply to an answer that passes a command on. -/
theorem report (h : Seated options exchange.game chronicle)
    (hCommand : exchange.command? = some command) :
    Report (exchange.game.perform command).game command (exchange.game.perform command).result
      exchange.turn.lines := by
  have move := Game.move_perform exchange.game command
  have hAttended := (h.perform hCommand).attended
  rw [exchange.turn_eq hCommand]
  rcases exchange.eq_of_command? hCommand with rfl | ⟨hPhase, rfl | ⟨text, rfl⟩⟩
  · exact .of_restarted move hAttended
  · exact .of_skip move hAttended (h.exists_roundInPlay hPhase)
  · exact .of_attempt move hAttended (h.exists_roundInPlay hPhase)

theorem told (h : Seated options exchange.game chronicle) :
    Told exchange exchange.turn.lines := by
  have hTaken := exchange.taken_turn
  generalize hTurn : exchange.turn = turn at hTaken ⊢
  cases hTaken with
  | left hCommand => exact .nothing hCommand
  | met hPhase hCommand hLines =>
      have hActive := h.phase_eq_active hPhase
      rcases hLines with rfl | rfl | rfl
      · exact .nothing hCommand
      · exact .hint hCommand hActive
      · exact .board hCommand hActive
  | @passed command hCommand =>
      have hReport := h.report hCommand
      rw [hTurn] at hReport
      exact .reported hCommand hReport

/-- Nothing that is asked of the game is refused. -/
theorem topic_ne_trouble (h : Seated options exchange.game chronicle) {line : Line}
    (hLine : line ∈ exchange.lines) : line.topic ≠ .trouble := by
  rcases List.mem_append.mp hLine with hPrompt | hReply
  · rcases topic_of_mem_prompt hPrompt with hTopic | hTopic <;> simp [hTopic]
  · have hTold := h.told
    generalize exchange.turn.lines = lines at hTold hReply
    cases hTold with
    | nothing => cases hReply
    | hint _ hPhase =>
        rw [List.mem_singleton.mp hReply, topic_hintLine (h.active_iff.mp hPhase)]
        simp
    | board => simp [topic_of_mem_scoreboard hReply]
    | reported _ hReport => exact hReport.topic_ne_trouble line hReply

theorem fresh (h : Seated options game chronicle) (hProgress : Progress.of chronicle = ⟨1, 0⟩)
    {round : Round} (hRound : game.round? = some round) : Fresh options game round := by
  obtain ⟨earlier, hDealt, -⟩ := h.pending round hRound
  have hCounts : chronicle.dealt.length = 1 ∧ chronicle.won.length = 0 := by
    simpa [Progress.of] using hProgress
  have hFirst : earlier = [] := by
    simpa [hDealt] using hCounts.1
  have hWon : chronicle.won = [] := List.length_eq_zero_iff.mp hCounts.2
  have hDiscards : game.discards = round.cards.toList := by
    rw [h.discards, hDealt, hFirst, List.nil_append, Round.cardsOf_singleton]
  have hPerm := (h.whole h.built).perm
  rw [hDiscards, h.options_eq] at hPerm
  refine ⟨h.active_iff.mpr (by simp [hRound]), hRound, hDiscards, hPerm, ?_⟩
  obtain ⟨ids, hTallies⟩ := h.tallies
  simp [hTallies.players, hWon, roundsWon, Player.standing, Round.cardsOf]

/-- A restart shows the first deal of a new session and goes on with it. -/
theorem restart (h : Seated options exchange.game chronicle)
    (hRestarts : exchange.restarts = true) :
    ∃ next round, exchange.turn.next = some next ∧ Fresh options next round ∧
      exchange.turn.lines = [.dealt round, .cardsLeft next.deck.length, .scoresReset] := by
  have hCommand := exchange.command?_eq_restart_iff.mpr hRestarts
  have hNext : exchange.turn.next = some (exchange.game.perform .restart).game := by
    rw [exchange.turn_eq hCommand]
    rfl
  obtain ⟨chronicle', hSeated, hProgress⟩ := h.exists_next hNext
  obtain ⟨round, hRound, hLines⟩ := (h.report hCommand).of_restart
  refine ⟨_, round, hNext, hSeated.fresh ?_ hRound, hLines⟩
  rw [hProgress, Progress.note, if_pos hRestarts, hLines]
  simp [List.countP_cons, Line.isDeal, Exchange.isScored, hCommand, Game.perform, Reply.isScored]

end Seated

section Sessions

/-- The first deal of a game that was never started. -/
theorem exists_first_round {game : Game} {step : Step Reply} (move : game.Move .start step)
    (hPhase : game.phase = .notStarted) (hAttended : Attended step.game.observers) :
    ∃ round, step.dealt = [round] ∧ step.game.phase = .active ∧ step.game.round? = some round ∧
      shown step = [.dealt round, .cardsLeft step.game.deck.length] := by
  rw [hAttended.shown_eq]
  cases move with
  | startRefused hRefused => exact absurd hPhase hRefused
  | started _ hDealt =>
      cases hDealt with
      | exhausted short => exact absurd short (Game.not_short_deck game.options)
      | dealt => exact ⟨_, rfl, rfl, rfl, rfl⟩

/-- The start makes an attended new game one that the terminal has, after one deal off the whole
deck. -/
theorem exists_started {options : Options} {seed : UInt64} {observers : Observers}
    {step : Step Reply} (move : Game.Move { Game.new options seed with observers } .start step)
    (hAttended : Attended observers) :
    ∃ chronicle round, Seated options step.game chronicle ∧ Progress.of chronicle = ⟨1, 0⟩ ∧
      step.game.round? = some round ∧
      shown step = [.dealt round, .cardsLeft step.game.deck.length] := by
  have advance := move.advance {}
  have hConserved : Game.Conserved options { Game.new options seed with observers } {} :=
    (Game.conserved_after options seed []).advance (.quiet observers)
  have hRunsOut : Game.RunsOut { Game.new options seed with observers } {} :=
    fun _ hPhase => by cases hPhase
  have hAlone : Alone ({ Game.new options seed with observers } : Game).roster := .inl rfl
  have hObservers : Attended step.game.observers :=
    move.observers_eq (by simp) (by simp) ▸ hAttended
  obtain ⟨round, hDealt, hActive, hRound, hShown⟩ := exists_first_round move rfl hObservers
  refine ⟨_, round, {
    toConserved := hConserved.advance advance
    built := Chronicle.deckReplaced_note rfl (by simp)
    runsOut := hRunsOut.advance advance
    begun := by simp [hActive]
    attended := hObservers
    alone := hAlone.move move (by simp) (by simp) }, ?_, hRound, hShown⟩
  unfold Progress.of Chronicle.note Chronicle.enter
  split <;> simp_all [Chronicle.deal]

/-- So it is with the game that the first question sets up. -/
theorem exists_opened (clock : Int) (text : String) :
    ∃ chronicle round, Seated { faceCards := isYes text } (setUp clock text).start.game chronicle ∧
      Progress.of chronicle = ⟨1, 0⟩ ∧ (setUp clock text).start.game.round? = some round ∧
      (begin clock text).lines =
        [.dealt round, .cardsLeft (setUp clock text).start.game.deck.length] := by
  have hAttended := attended_setUp clock text
  obtain ⟨observers, hWatch⟩ :=
    Game.exists_watch_eq (.new { faceCards := isYes text } (seedAt clock)) shownKinds
  rw [Game.watch_eq_after, ← setUp_eq_after] at hWatch
  rw [hWatch] at hAttended
  rw [begin_eq, hWatch]
  exact exists_started (Game.move_perform _ .start) hAttended

/-- The terminal has the game like this at every question, and the count is that of the exchanges
before it. -/
theorem exists_seated {clock : Int} {input : List UInt8} {earlier later : List Exchange}
    {exchange : Exchange} (hSplit : course clock input = earlier ++ exchange :: later) :
    ∃ chronicle, Seated { faceCards := isYes (firstText input) } exchange.game chronicle ∧
      Progress.of chronicle = earlier.foldl Progress.note ⟨1, 0⟩ := by
  obtain ⟨chronicle, round, hSeated, hProgress, -, -⟩ := exists_opened clock (firstText input)
  have hSits := sits_course clock input
  rw [hSplit] at hSits
  refine Sits.along (P := fun game progress => ∃ chronicle,
    Seated { faceCards := isYes (firstText input) } game chronicle ∧
      Progress.of chronicle = progress) ?_ hSits ⟨chronicle, hSeated, hProgress⟩
  rintro exchange progress next ⟨chronicle, hSeated, rfl⟩ hNext
  exact hSeated.exists_next hNext

/-- No line of a session tells of a refusal. -/
theorem not_trouble_of_mem_transcript {clock : Int} {input : List UInt8} {line : Line}
    (hLine : line ∈ transcript clock input) : line.topic ≠ .trouble := by
  rw [transcript_eq, List.mem_append, List.mem_append, List.mem_flatMap] at hLine
  rcases hLine with (hOpening | hBegin) | ⟨exchange, hMem, hShown⟩
  · have hTopics : ∀ line ∈ opening, line.topic ≠ .trouble := by simp [opening, Line.topic]
    exact hTopics line hOpening
  · obtain ⟨-, round, -, -, -, hLines⟩ := exists_opened clock (firstText input)
    have hTopics : ∀ line ∈ (begin clock (firstText input)).lines, line.topic ≠ .trouble := by
      simp [hLines, Line.topic]
    exact hTopics line hBegin
  · obtain ⟨earlier, later, hSplit⟩ := List.append_of_mem hMem
    obtain ⟨chronicle, hSeated, -⟩ := exists_seated hSplit
    exact hSeated.topic_ne_trouble hShown

/-- For every clock and every input:

* whenever an answer was read to the command prompt, a round is in play, and whenever it is asked
  whether to play again, the game is finished;
* nothing that is asked of the game is refused: no start, no skip and no attempt is, and there is a
  round whenever a hint is asked for;
* a restart, by command or by a yes on the line that is read for the answer, always leads to a
  command prompt, with a round that was dealt off the whole deck and shown, and without points. -/
theorem session_never_refused (clock : Int) (input : List UInt8) :
    (∀ exchange ∈ course clock input,
      ((prompt exchange.game).getLast? = some .askCommand →
        exchange.game.phase = .active ∧ exchange.game.round?.isSome) ∧
      ((prompt exchange.game).getLast? = some .askAgain → exchange.game.phase = .finished)) ∧
    (∀ line ∈ transcript clock input, line.topic ≠ .trouble) ∧
    (∀ earlier exchange later, course clock input = earlier ++ exchange :: later →
      exchange.Answers (said? input (earlier.length + 1))) ∧
    ∀ earlier exchange later, course clock input = earlier ++ exchange :: later →
      exchange.restarts = true → ∃ next rest round, later = next :: rest ∧
        prompt next.game = [.askCommand] ∧
        Fresh { faceCards := isYes (firstText input) } next.game round ∧
        exchange.turn.lines =
          [.dealt round, .cardsLeft next.game.deck.length, .scoresReset] := by
  refine ⟨?_, fun line hLine => not_trouble_of_mem_transcript hLine,
    fun earlier exchange later hSplit => Exchange.answers (text_eq hSplit), ?_⟩
  · intro exchange hMem
    obtain ⟨earlier, later, hSplit⟩ := List.append_of_mem hMem
    obtain ⟨chronicle, hSeated, -⟩ := exists_seated hSplit
    rw [getLast?_prompt]
    by_cases hPhase : exchange.game.phase = .finished
    · simp [hPhase]
    · simpa [hPhase] using ⟨hSeated.phase_eq_active hPhase, hSeated.isSome_round? hPhase⟩
  · intro earlier exchange later hSplit hRestarts
    obtain ⟨chronicle, hSeated, -⟩ := exists_seated hSplit
    obtain ⟨game, round, hNext, hFresh, hLines⟩ := hSeated.restart hRestarts
    have hSits := sits_course clock input
    rw [hSplit] at hSits
    obtain ⟨text, rest, rfl⟩ := hSits.exists_next hNext
    exact ⟨⟨game, text⟩, rest, round, rfl, prompt_of_active hFresh.phase, hFresh, hLines⟩

/-- The whole deck is given up round by round, a new session is begun by a yes and, in the middle of
it, another one by its command. -/
theorem session_never_refused_again :
    let input :=
      ("n\n" ++ String.join (List.replicate 10 "skip\n") ++ "y\nrestart\n").toUTF8.data.toList
    ∃ earlier ended again last first second, course 7 input = earlier ++ [ended, again, last] ∧
      (ended.game.phase = .finished ∧ ended.text = "y" ∧
        Fresh { faceCards := false } again.game first ∧
        ended.turn.lines = [.dealt first, .cardsLeft again.game.deck.length, .scoresReset]) ∧
      again.text = "restart" ∧ Fresh { faceCards := false } last.game second ∧
        again.turn.lines = [.dealt second, .cardsLeft last.game.deck.length, .scoresReset] := by
  intro input
  obtain ⟨-, -, hAnswers, hRestart⟩ := session_never_refused 7 input
  have hFirst : isYes (firstText input) = false := by decide +kernel
  rw [hFirst] at hRestart
  have hCourse : (course 7 input).map (fun exchange => (exchange.text, exchange.restarts)) =
      List.replicate 10 ("skip", false) ++ [("y", true), ("restart", true), ("q", false)] := by
    decide +kernel
  obtain ⟨earlier, final, hSplit, hEarlier, hFinal⟩ := List.map_eq_append_iff.mp hCourse
  obtain ⟨ended, rest, rfl, hEnded, hRest⟩ := List.map_eq_cons_iff.mp hFinal
  obtain ⟨again, rest, rfl, hAgain, hRest⟩ := List.map_eq_cons_iff.mp hRest
  obtain ⟨last, rest, rfl, -, hRest⟩ := List.map_eq_cons_iff.mp hRest
  obtain rfl := List.map_eq_nil_iff.mp hRest
  obtain ⟨hEndedText, hEndedRestarts⟩ := Prod.mk.inj hEnded
  obtain ⟨hAgainText, hAgainRestarts⟩ := Prod.mk.inj hAgain
  obtain ⟨next, later, first, hNext, -, hFirstFresh, hFirstLines⟩ :=
    hRestart _ _ _ hSplit hEndedRestarts
  obtain ⟨rfl, -⟩ := List.cons.inj hNext
  have hSplitAgain : course 7 input = (earlier ++ [ended]) ++ again :: [last] := by simp [hSplit]
  obtain ⟨next, later, second, hNext, -, hSecondFresh, hSecondLines⟩ :=
    hRestart _ _ _ hSplitAgain hAgainRestarts
  obtain ⟨rfl, -⟩ := List.cons.inj hNext
  refine ⟨earlier, ended, again, last, first, second, hSplit,
    ⟨?_, hEndedText, hFirstFresh, hFirstLines⟩, hAgainText, hSecondFresh, hSecondLines⟩
  have hLength : earlier.length = 10 := by simpa using congrArg List.length hEarlier
  have hSaid : said? input 11 = some "y" := by decide +kernel
  have hYes := (hAnswers _ _ _ hSplit).restarts.mp hEndedRestarts
  rw [hLength, hSaid] at hYes
  by_contra hPhase
  simp [hPhase] at hYes

end Sessions

end Terminal

end Make24
