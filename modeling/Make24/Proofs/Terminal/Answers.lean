import Mathlib
import Make24.Proofs.Double.Tame
import Make24.Proofs.Terminal.Display

/-! What an answer asks for, told by the line that it was read from. New sessions and points are
told by what the input says there and by the round in play, without the game that makes them. -/

namespace Make24

/-- Whether a reply tells of a point. -/
def Reply.isScored : Reply → Bool
  | .attempted (.ok outcome) => outcome.isScored
  | _ => false

/-- An attempt scores if the text makes 24 with the cards of the round in play. -/
theorem Game.isScored_attempt_iff {game : Game} {player text : String} :
    (game.perform (.attempt player text)).result.isScored = true ↔
      ∃ round, game.phase = .active ∧ game.round? = some round ∧
        evaluate text round = .ok 24.0 := by
  simp only [← and_assoc, ← roundInPlay_eq_ok_iff]
  unfold perform attempt
  cases game.roundInPlay with
  | error refusal => simp [Step.map, refuse, Reply.isScored]
  | ok round =>
      simp only [Except.ok.injEq, exists_eq_left']
      cases evaluate text round with
      | error rejection => simp [Step.map, Reply.isScored, Outcome.isScored]
      | ok value =>
          have hTarget : isTarget value = true ↔ value = 24.0 := Double.isTarget_iff
          simp only [Except.ok.injEq, ← hTarget]
          cases isTarget value <;> simp [Step.map, win, Reply.isScored, Outcome.isScored]

namespace Terminal

namespace Request

variable {text said : String}

theorem ofText_eq_restart_iff : ofText text = .restart ↔ text = "restart" := by
  constructor
  · unfold ofText
    repeat' split
    all_goals simp [*]
  · rintro rfl
    decide

/-- An attempt is made with every text that asks for nothing else. -/
theorem ofText_eq_attempt_iff : ofText text = .attempt said ↔
    said = text ∧ text ∉ ["", "q", "quit", "skip", "hint", "score", "restart"] := by
  simp only [List.mem_cons, List.not_mem_nil, not_or]
  constructor
  · unfold ofText
    repeat' split
    all_goals simp only [reduceCtorEq, false_implies, attempt.injEq]
    rintro rfl
    simp_all
  · rintro ⟨rfl, hText⟩
    simp [ofText, hText]

end Request

namespace Exchange

/-- Whether the answer asks for a new session. -/
def restarts (exchange : Exchange) : Bool :=
  match exchange.game.phase with
  | .finished => isYes exchange.text
  | _ => exchange.text = "restart"

/-- Whether the answer is an attempt that scores. -/
def isScored (exchange : Exchange) : Bool :=
  match exchange.command? with
  | some command => (exchange.game.perform command).result.isScored
  | none => false

variable {exchange : Exchange}

/-- A new session is begun by a command of the game. -/
theorem command?_eq_restart_iff :
    exchange.command? = some .restart ↔ exchange.restarts = true := by
  unfold restarts command?
  cases exchange.game.phase with
  | finished => cases isYes exchange.text <;> simp
  | notStarted | active =>
      simp only [decide_eq_true_eq, ← Request.ofText_eq_restart_iff]
      cases Request.ofText exchange.text <;> simp [Request.command?]

/-- What the answer asks for, told by what the input says where it was read. -/
structure Answers (exchange : Exchange) (said : Option String) : Prop where
  /-- Where the input says nothing the answer quits. -/
  text : exchange.text = said.getD "q"
  /-- A new session is begun by a yes when the game is over, and by its command before that. -/
  restarts : exchange.restarts = true ↔
    said ∈ if exchange.game.phase = .finished then [some "y", some "yes"] else [some "restart"]
  /-- A point is scored by a text that is no command and makes 24 with the cards in play. -/
  isScored : exchange.isScored = true ↔ ∃ text round, said = some text ∧
    text ∉ ["", "q", "quit", "skip", "hint", "score", "restart"] ∧
    exchange.game.phase = .active ∧ exchange.game.round? = some round ∧
    evaluate text round = .ok 24.0

theorem restarts_iff {said : Option String} (hText : exchange.text = said.getD quitText) :
    exchange.restarts = true ↔
      said ∈ if exchange.game.phase = .finished then [some "y", some "yes"]
        else [some "restart"] := by
  unfold restarts
  rw [hText]
  cases exchange.game.phase with
  | finished => exact isYes_getD_iff
  | notStarted | active => cases said <;> simp [quitText]

/-- An answer scores as the attempt that is made with it. -/
theorem isScored_iff : exchange.isScored = true ↔
    exchange.text ∉ ["", "q", "quit", "skip", "hint", "score", "restart"] ∧
      ∃ round, exchange.game.phase = .active ∧ exchange.game.round? = some round ∧
        evaluate exchange.text round = .ok 24.0 := by
  have hRestart : (exchange.game.perform .restart).result.isScored = false := rfl
  have hSkip : (exchange.game.perform (.skip player)).result.isScored = false := rfl
  unfold isScored command?
  cases hPhase : exchange.game.phase with
  | finished => cases isYes exchange.text <;> simp [hRestart]
  | notStarted | active =>
      cases hRequest : Request.ofText exchange.text with
      | attempt text =>
          obtain ⟨rfl, hText⟩ := Request.ofText_eq_attempt_iff.mp hRequest
          simp [Request.command?, Game.isScored_attempt_iff, hPhase, hText]
      | _ =>
          refine iff_of_false (by simp [Request.command?, hRestart, hSkip]) ?_
          rintro ⟨hText, -⟩
          have hAttempt := Request.ofText_eq_attempt_iff.mpr ⟨rfl, hText⟩
          simp [hRequest] at hAttempt

/-- What the answer asks for is told by the line that was read. -/
theorem answers {said : Option String} (hText : exchange.text = said.getD quitText) :
    exchange.Answers said where
  text := hText
  restarts := restarts_iff hText
  isScored := by
    rw [isScored_iff, hText]
    cases said with
    | none => simp [quitText]
    | some text => simp

end Exchange

end Terminal

end Make24
