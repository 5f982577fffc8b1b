import Mathlib
import Make24.Proofs.Game.Audience
import Make24.Proofs.Game.Scores
import Make24.Proofs.Terminal.Reading

/-! What the terminal shows of a game. Every kind of event that is shown has one observer, so what
is shown of a command are its events, in order and once each. An answer passes at most one command
to the game, and a report lists the ways in which that turns out, each with all its lines. -/

namespace Make24.Terminal

/-- The kinds of events that are shown have one observer each, and the others none. -/
def Attended (observers : Observers) : Prop :=
  ∀ kind, (observers.listeners kind).length = shownKinds.count kind

theorem attended_setUp (clock : Int) (text : String) : Attended (setUp clock text).observers := by
  intro kind
  rw [setUp_eq_after, ← Game.watch_eq_after, Game.listeners_watch]
  generalize hGame : Game.new { faceCards := isYes text } (seedAt clock) = game
  have hNone : game.observers.listeners kind = [] := by
    subst hGame
    exact Std.HashMap.getD_empty
  conv_rhs => rw [← Game.kinds_watch game shownKinds]
  rw [hNone, List.nil_append, List.length_map, List.count, List.countP_map,
    List.countP_eq_length_filter]
  rfl

/-- What is shown of a step are its events, but for the kinds that are not shown. -/
theorem Attended.shown_eq {α : Type} {step : Step α} (h : Attended step.game.observers) :
    shown step = step.events.filterMap Line.ofEvent? := by
  unfold shown Step.calls Observers.calls
  induction step.events with
  | nil => rfl
  | cons event rest ih =>
      have hCount := h event.kind
      rw [List.flatMap_cons, List.filterMap_append, ih, List.filterMap_map]
      cases event
      case discardsChanged | gameFinished =>
        rw [List.length_eq_zero_iff.mp hCount]
        rfl
      all_goals
        obtain ⟨id, hOne⟩ := List.length_eq_one_iff.mp hCount
        rw [hOne]
        rfl

section Map

variable {α β : Type} (f : α → β) (step : Step α)

@[simp] theorem result_map : (step.map f).result = f step.result := rfl

@[simp] theorem game_map : (step.map f).game = step.game := rfl

@[simp] theorem shown_map : shown (step.map f) = shown step := rfl

end Map

/-- What is added to what the observers show of a command. -/
def remarks : Reply → List Line
  | .attempted result => attemptLines result
  | .skipped result => skipLines result
  | _ => []

/-- The command that a request passes to the game. -/
def Request.command? : Request → Option Command
  | skip => some (.skip player)
  | restart => some .restart
  | attempt text => some (.attempt player text)
  | quit | hint | score | nothing => none

namespace Exchange

/-- The command that the answer passes to the game. -/
def command? (exchange : Exchange) : Option Command :=
  match exchange.game.phase with
  | .finished => if isYes exchange.text then some .restart else none
  | _ => (Request.ofText exchange.text).command?

/-- The ways in which an answer is taken: it leaves the terminal, it is met without touching the
game, or it passes a command on. -/
inductive Taken (exchange : Exchange) : Turn → Prop where
  | left (hCommand : exchange.command? = none) : Taken exchange .leave
  | met {lines : List Line} (hPhase : exchange.game.phase ≠ .finished)
      (hCommand : exchange.command? = none)
      (hLines : lines = [] ∨ lines = [hintLine exchange.game] ∨ lines = scoreboard exchange.game) :
      Taken exchange (.goOn lines exchange.game)
  | passed {command : Command} (hCommand : exchange.command? = some command) :
      Taken exchange (.goOn
        (shown (exchange.game.perform command) ++ remarks (exchange.game.perform command).result)
        (exchange.game.perform command).game)

variable {exchange : Exchange}

theorem Taken.restarted (hCommand : exchange.command? = some .restart) :
    Taken exchange (.goOn (shown exchange.game.restart) exchange.game.restart.game) := by
  simpa only [Game.perform, shown_map, result_map, game_map, remarks, List.append_nil]
    using Taken.passed hCommand

/-- A request is taken as it stands unless the game is over. -/
theorem taken_respond (hPhase : exchange.game.phase ≠ .finished)
    (hTurn : exchange.turn = respond exchange.game (.ofText exchange.text))
    (hCommand : exchange.command? = (Request.ofText exchange.text).command?) :
    Taken exchange exchange.turn := by
  rw [hTurn]
  cases hRequest : Request.ofText exchange.text with
  | quit => exact .left (by rw [hCommand, hRequest]; rfl)
  | nothing => exact .met hPhase (by rw [hCommand, hRequest]; rfl) (.inl rfl)
  | hint => exact .met hPhase (by rw [hCommand, hRequest]; rfl) (.inr (.inl rfl))
  | score => exact .met hPhase (by rw [hCommand, hRequest]; rfl) (.inr (.inr rfl))
  | restart => exact .restarted (by rw [hCommand, hRequest]; rfl)
  | skip | attempt =>
      rw [hRequest] at hCommand
      simpa only [respond, Game.perform, shown_map, result_map, game_map, remarks]
        using Taken.passed hCommand

theorem taken_turn (exchange : Exchange) : Taken exchange exchange.turn := by
  cases hPhase : exchange.game.phase with
  | finished =>
      unfold turn answer
      rw [hPhase]
      cases hYes : isYes exchange.text with
      | false => exact .left (by simp [command?, hPhase, hYes])
      | true => exact .restarted (by simp [command?, hPhase, hYes])
  | notStarted | active =>
      refine taken_respond (by simp [hPhase]) ?_ ?_
      · simp only [turn, answer, hPhase]
      · simp only [command?, hPhase]

/-- What comes of an answer that passes a command on. -/
theorem turn_eq {command : Command} (hCommand : exchange.command? = some command) :
    exchange.turn = .goOn
      (shown (exchange.game.perform command) ++ remarks (exchange.game.perform command).result)
      (exchange.game.perform command).game := by
  generalize hTurn : exchange.turn = turn
  have hTaken := taken_turn exchange
  rw [hTurn] at hTaken
  cases hTaken with
  | left hNone => simp [hNone] at hCommand
  | met _ hNone => simp [hNone] at hCommand
  | passed hPassed =>
      obtain rfl := Option.some.inj (hPassed.symm.trans hCommand)
      rfl

/-- Only a restart is passed on when the game is over, and nothing that concerns the observers or
the deck is ever passed on. -/
theorem eq_of_command? {command : Command} (hCommand : exchange.command? = some command) :
    command = .restart ∨ exchange.game.phase ≠ .finished ∧
      (command = .skip player ∨ ∃ text, command = .attempt player text) := by
  unfold command? at hCommand
  split at hCommand
  case h_1 =>
    split at hCommand
    · exact .inl (Option.some.inj hCommand).symm
    · cases hCommand
  case h_2 hPhase =>
    cases hRequest : Request.ofText exchange.text <;>
      simp only [hRequest, Request.command?, Option.some.injEq, reduceCtorEq] at hCommand
    case restart => exact .inl hCommand.symm
    case skip => exact .inr ⟨hPhase, .inl hCommand.symm⟩
    case attempt text => exact .inr ⟨hPhase, .inr ⟨text, hCommand.symm⟩⟩

end Exchange

/-- What is shown of a command that the terminal passes on, by the ways in which it turns out;
`next` is the game that it leads to. A deal is shown with the cards that it left. -/
inductive Report (next : Game) : Command → Reply → List Line → Prop where
  | restarted {round : Round} (hRound : next.round? = some round) :
      Report next .restart .restarted
        [.dealt round, .cardsLeft next.deck.length, .scoresReset]
  | skipped {round : Round} (hRound : next.round? = some round) :
      Report next (.skip player) (.skipped (.ok (some round)))
        [.dealt round, .cardsLeft next.deck.length, .skipped player]
  | skippedLast : Report next (.skip player) (.skipped (.ok none)) []
  | invalid {text : String} {rejection : Rejection} :
      Report next (.attempt player text) (.attempted (.ok (.invalid rejection)))
        [.invalid text, .rejected rejection]
  | incorrect {text : String} {value : Float} :
      Report next (.attempt player text) (.attempted (.ok (.incorrect value)))
        [.incorrect text value]
  | won {text : String} {score : Nat} {round : Round} (hRound : next.round? = some round)
      (hScore : (next.roster.find? player).map Player.score = some score) :
      Report next (.attempt player text) (.attempted (.ok (.scored score)))
        [.pointScored player, .dealt round, .cardsLeft next.deck.length, .score score]
  | wonLast {text : String} {score : Nat}
      (hScore : (next.roster.find? player).map Player.score = some score) :
      Report next (.attempt player text) (.attempted (.ok (.scored score)))
        [.pointScored player, .score score]

section Reports

variable {game : Game} {command : Command} {step : Step Reply} {dealt : Step Bool}

/-- A deal is shown with the cards that it left, and the end of the game is not shown. -/
theorem filterMap_dealing (hDealt : game.Dealing dealt) :
    (∃ round, dealt.game.round? = some round ∧
      dealt.events.filterMap Line.ofEvent? =
        [.dealt round, .cardsLeft dealt.game.deck.length]) ∨
    (dealt.game.round? = none ∧ dealt.events.filterMap Line.ofEvent? = []) := by
  cases hDealt with
  | dealt => exact .inl ⟨_, rfl, rfl⟩
  | exhausted => exact .inr ⟨rfl, rfl⟩

theorem Report.of_restarted (move : game.Move .restart step)
    (hAttended : Attended step.game.observers) :
    Report step.game .restart step.result (shown step ++ remarks step.result) := by
  rw [hAttended.shown_eq]
  cases move with
  | @restarted dealt hDealt =>
      rw [Step.events_restarted, List.filterMap_append]
      cases hDealt with
      | exhausted short => exact absurd short (Game.not_short_deck game.options)
      | dealt => exact .restarted rfl

theorem Report.of_skip (move : game.Move (.skip player) step)
    (hAttended : Attended step.game.observers) (hRound : ∃ round, game.roundInPlay = .ok round) :
    Report step.game (.skip player) step.result (shown step ++ remarks step.result) := by
  rw [hAttended.shown_eq]
  obtain ⟨round, hRound⟩ := hRound
  cases move with
  | skipRefused hRefused => simp [hRound] at hRefused
  | @skipped _ _ hInPlay dealt hDealt =>
      rw [Step.events_skipped, List.filterMap_append]
      rcases filterMap_dealing hDealt with ⟨next, hNext, hShown⟩ | ⟨hNone, hShown⟩
      · rw [hShown, hNext]
        exact .skipped hNext
      · rw [hShown, hNone]
        exact .skippedLast

theorem Report.of_attempt {text : String} (move : game.Move (.attempt player text) step)
    (hAttended : Attended step.game.observers) (hRound : ∃ round, game.roundInPlay = .ok round) :
    Report step.game (.attempt player text) step.result (shown step ++ remarks step.result) := by
  rw [hAttended.shown_eq]
  obtain ⟨round, hRound⟩ := hRound
  have hScore {score : Nat} (hScored : step.result = .attempted (.ok (.scored score))) :=
    move.find?_of_scored hScored
  cases move with
  | attemptRefused hRefused => simp [hRound] at hRefused
  | invalid => exact .invalid
  | incorrect => exact .incorrect
  | @won _ _ round _ winner roster hInPlay hText hValue hAward dealt hDealt =>
      obtain ⟨rfl, rfl⟩ := Prod.ext_iff.mp hAward
      have hWinner : (game.roster.award player round).1.id = player := by
        rw [Roster.fst_award]
        exact game.roster.id_record player
      rw [Step.events_won, List.filterMap_cons]
      rcases filterMap_dealing hDealt with ⟨next, hNext, hShown⟩ | ⟨-, hShown⟩
      · rw [hShown, Line.ofEvent?, hWinner]
        exact .won hNext (hScore rfl)
      · rw [hShown, Line.ofEvent?, hWinner]
        exact .wonLast (hScore rfl)

end Reports

end Make24.Terminal
