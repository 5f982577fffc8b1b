import Make24.Game.Session
import Make24.Submission.Judgement

/-! Attempts at the round in play, and the players who make them. -/

namespace Make24

/-- What comes of an attempt. -/
inductive Outcome where
  /-- The target was made; the score is the player's new one. -/
  | scored (score : Nat)
  | incorrect (value : Float)
  | invalid (rejection : Rejection)

def Outcome.isScored : Outcome → Bool
  | scored _ => true
  | _ => false

namespace Game

/-- The record that a known player is asked to register again. -/
def registrationRecords (game : Game) (player : String) : List Signal :=
  match game.roster.find? player with
  | some _ => [.record (.alreadyRegistered player)]
  | none => []

/-- Makes a player known. A known one is left as it is. -/
def addPlayer (game : Game) (player : String) : Step Player :=
  let (registered, roster) := game.roster.register player
  ⟨registered, { game with roster }, game.registrationRecords player⟩

/-- Gives the round in play to a player, who becomes known if needed, and deals the next. -/
def win (game : Game) (player : String) (round : Round) : Step Outcome :=
  let (winner, roster) := game.roster.award player round
  let dealt := deal { game with roster }
  ⟨.scored winner.score, dealt.game,
    game.registrationRecords player
      ++ .record (.pointScored player winner.score round)
      :: .event (.pointScored winner) :: dealt.signals⟩

/-- Judges a submission for the round in play. The target wins the round; anything else leaves the
game as it is. -/
def attempt (game : Game) (player text : String) : Step (Except Refusal Outcome) :=
  match game.roundInPlay with
  | .error refusal => game.refuse refusal
  | .ok round =>
      match evaluate text round with
      | .error rejection =>
          ⟨.ok (.invalid rejection), game,
            [.record (.attemptInvalid player text rejection),
              .event (.attemptInvalid player text)]⟩
      | .ok value =>
          if isTarget value then
            let won := game.win player round
            ⟨.ok won.result, won.game, won.signals⟩
          else
            ⟨.ok (.incorrect value), game,
              [.record (.attemptIncorrect player text value),
                .event (.attemptIncorrect player text value)]⟩

end Game

end Make24
