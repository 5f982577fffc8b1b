import Make24.Decimal.Text
import Make24.Game.Command

/-! What the terminal shows, piece by piece. -/

namespace Make24.Terminal

inductive Line where
  | title
  | purpose
  | commands
  | askFaceCards
  | askCommand
  | askAgain
  | dealt (round : Round)
  | cardsLeft (count : Nat)
  | pointScored (player : String)
  | incorrect (text : String) (value : Float)
  | invalid (text : String)
  | skipped (player : String)
  | scoresReset
  | score (points : Nat)
  | rejected (rejection : Rejection)
  | hint (count : Nat) (first : String)
  | noSolution
  | noPlayers
  | standing (player : String) (points cards : Nat)
  | leftToPlay (count : Nat)
  | gameOver
  | startRefused (refusal : Refusal)
  | skipRefused (refusal : Refusal)
  | attemptRefused (refusal : Refusal)
  | noRound

/-- A piece that is a line of its own ends the line; a question leaves the cursor behind it. A deal
is set off by an empty line. -/
def Line.text : Line → String
  | title => "24 CLI example\n"
  | purpose => "Make 24 from the four cards using + - * / and parentheses.\n"
  | commands => "Commands: skip, hint, score, restart, q\n"
  | askFaceCards => "Include face cards? (y/n): "
  | askCommand => "> "
  | askAgain => "Play again? (y/n): "
  | dealt round => "\nHere are your cards: " ++ round.text ++ "\n"
  | cardsLeft count => s!"{count} cards left in the deck.\n"
  | pointScored player => player ++ " got it!\n"
  | incorrect text value => text ++ " evaluates to " ++ valueText value ++ "\n"
  | invalid text => text ++ " is not valid\n"
  | skipped player => player ++ " skipped the round.\n"
  | scoresReset => "Scores reset.\n"
  | score points => s!"Score: {points}\n"
  | rejected rejection => "(" ++ rejection.message ++ ")\n"
  | hint count first => s!"{count} solution(s), for example {first}\n"
  | noSolution => "No solution. Try skip.\n"
  | noPlayers => "Nobody has scored yet.\n"
  | standing player points cards => s!"{player} has {points} points, {cards} cards\n"
  | leftToPlay count => s!"There are {count} cards left to play.\n"
  | gameOver => "Game over!\n"
  | startRefused refusal => "Start error: " ++ refusal.message ++ "\n"
  | skipRefused refusal => "Skip error: " ++ refusal.message ++ "\n"
  | attemptRefused refusal => "Attempt error: " ++ refusal.message ++ "\n"
  | noRound => "No round in play.\n"

/-- The kinds of events that the terminal shows. -/
def shownKinds : List Event.Kind :=
  [.roundDealt, .deckChanged, .pointScored, .attemptIncorrect, .attemptInvalid, .roundSkipped,
    .playersReset]

/-- What an observer of the terminal shows when it is called. -/
def Line.ofEvent? : Event → Option Line
  | .roundDealt round => some (dealt round)
  | .deckChanged deck => some (cardsLeft deck.length)
  | .pointScored player => some (pointScored player.id)
  | .attemptIncorrect _ text value => some (incorrect text value)
  | .attemptInvalid _ text => some (invalid text)
  | .roundSkipped player _ => some (skipped player)
  | .playersReset _ => some scoresReset
  | .discardsChanged _ | .gameFinished => none

end Make24.Terminal
