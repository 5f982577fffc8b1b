import Make24.Search.Solutions
import Make24.Terminal.Line
import Make24.Text.Lines

/-! A session at the terminal. It asks, takes one line for an answer, shows what comes of it, and
asks again until it is left. -/

namespace Make24.Terminal

/-- The one player at the terminal. -/
def player : String := "you"

/-- What an answer to the command prompt asks for. -/
inductive Request where
  | quit
  | skip
  | hint
  | score
  | restart
  | nothing
  | attempt (text : String)
deriving DecidableEq, Repr

def Request.ofText (text : String) : Request :=
  if text = "q" ∨ text = "quit" then quit
  else if text = "skip" then skip
  else if text = "hint" then hint
  else if text = "score" then score
  else if text = "restart" then restart
  else if text = "" then nothing
  else attempt text

def isYes (text : String) : Bool := text = "y" ∨ text = "yes"

/-- What counts as typed when the input ends or holds a line that is no text. -/
def quitText : String := "q"

/-- What counts as typed for a line of the input. A line without a byte is the end of the input. -/
def typed (line : List UInt8) : String :=
  if line.isEmpty then quitText
  else
    match Text.decode? line with
    | some text => Text.plain text
    | none => quitText

/-- What the terminal's observers show of a step. -/
def shown {α : Type} (step : Step α) : List Line :=
  step.calls.filterMap fun call => Line.ofEvent? call.2

/-- The players' points and the number of cards that can still be dealt. -/
def scoreboard (game : Game) : List Line :=
  (if game.roster.players.isEmpty then [.noPlayers] else [])
    ++ (game.roster.players.map fun player =>
      .standing player.id player.score player.cards.length)
    ++ [.leftToPlay game.deck.length]

/-- What is shown before a line is read. -/
def prompt (game : Game) : List Line :=
  match game.phase with
  | .finished => .gameOver :: scoreboard game ++ [.askAgain]
  | _ => [.askCommand]

/-- What comes of an answer: what is shown, and the game that goes on unless the terminal is left.
-/
structure Turn where
  lines : List Line
  next : Option Game

/-- A turn after which the game goes on. -/
def Turn.goOn (lines : List Line) (game : Game) : Turn := ⟨lines, some game⟩

/-- A turn that leaves the terminal. -/
def Turn.leave : Turn := ⟨[], none⟩

/-- How many solutions the round in play has, and the first of them. -/
def hintLine (game : Game) : Line :=
  match game.round? with
  | none => .noRound
  | some round =>
      match round.solutions with
      | [] => .noSolution
      | first :: others => .hint (others.length + 1) first

/-- What is added to what the observers show of an attempt. -/
def attemptLines : Except Refusal Outcome → List Line
  | .ok (.scored score) => [.score score]
  | .ok (.invalid rejection) => [.rejected rejection]
  | .ok (.incorrect _) => []
  | .error refusal => [.attemptRefused refusal]

/-- What is added to what the observers show of a skipped round. -/
def skipLines : Except Refusal (Option Round) → List Line
  | .ok _ => []
  | .error refusal => [.skipRefused refusal]

/-- What comes of a request while the game is not over. -/
def respond (game : Game) : Request → Turn
  | .quit => .leave
  | .skip =>
      let step := game.skip player
      .goOn (shown step ++ skipLines step.result) step.game
  | .hint => .goOn [hintLine game] game
  | .score => .goOn (scoreboard game) game
  | .restart => .goOn (shown game.restart) game.restart.game
  | .nothing => .goOn [] game
  | .attempt text =>
      let step := game.attempt player text
      .goOn (shown step ++ attemptLines step.result) step.game

/-- What comes of a typed text. When the game is over, all but a yes leaves the terminal. -/
def answer (game : Game) (text : String) : Turn :=
  match game.phase with
  | .finished =>
      if isYes text then .goOn (shown game.restart) game.restart.game else .leave
  | _ => respond game (.ofText text)

/-- What is shown before the first question and with it. -/
def opening : List Line := [.title, .purpose, .commands, .askFaceCards]

/-- The seed of a game that starts at a time: the whole seconds since 1970, and zero for a time
before. -/
def seedAt (clock : Int) : UInt64 := clock.toNat.toUInt64

/-- The game that the answer to the first question sets up, with the terminal's observers. -/
def setUp (clock : Int) (text : String) : Game :=
  shownKinds.foldl (fun game kind => (game.on kind).game)
    (.new { faceCards := isYes text } (seedAt clock))

/-- What comes of the answer to the first question. -/
def begin (clock : Int) (text : String) : Turn :=
  let step := (setUp clock text).start
  match step.result with
  | .ok _ => .goOn (shown step) step.game
  | .error refusal => ⟨[.startRefused refusal], none⟩

/-- What is shown from the point where a game goes on, given the texts that will be typed. At the
end of the input the terminal is left. -/
def play (game : Game) : List String → List Line
  | [] => prompt game
  | text :: rest =>
      let turn := answer game text
      prompt game ++ turn.lines ++
        match turn.next with
        | none => []
        | some next => play next rest

/-- What is shown after the opening, given the texts that will be typed. -/
def afterOpening (clock : Int) (texts : List String) : List Line :=
  let turn := begin clock (texts.head?.getD quitText)
  turn.lines ++
    match turn.next with
    | none => []
    | some game => play game texts.tail

/-- All that a session shows for an input. -/
def transcript (clock : Int) (input : List UInt8) : List Line :=
  opening ++ afterOpening clock ((Text.lines input).map typed)

/-- The output of a session. -/
def output (clock : Int) (input : List UInt8) : String :=
  String.join ((transcript clock input).map Line.text)

/-- Every session ends well. -/
def exitCode : UInt32 := 0

end Make24.Terminal
