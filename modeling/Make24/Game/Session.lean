import Make24.Game.Basic

/-! The course of a session: dealing, starting, restarting and giving up on a round. -/

namespace Make24.Game

/-- Deals a round, or finishes the game if the deck cannot fill one; the result tells which. -/
def deal (game : Game) : Step Bool :=
  if enough : Round.size ≤ game.deck.length then
    let (round, generator) := game.generator.pickRound game.deck enough
    let deck := round.removeFrom game.deck
    let discards := game.discards ++ round.cards.toList
    ⟨true, { game with phase := .active, deck, discards, round? := some round, generator },
      [.record (.roundDealt round deck.length), .event (.roundDealt round),
        .event (.deckChanged deck), .event (.discardsChanged discards)]⟩
  else
    ⟨false, { game with phase := .finished, round? := none },
      [.record (.deckExhausted game.deck.length game.discards.length), .event .gameFinished]⟩

/-- Builds the deck and deals the first round. Only a game that was never started can be started. -/
def start (game : Game) : Step (Except Refusal Unit) :=
  match game.phase with
  | .notStarted =>
      let dealt := deal { game with deck := game.options.deck }
      ⟨.ok (), dealt.game, dealt.signals⟩
  | _ => game.refuse .alreadyStarted

/-- Begins a session anew in any phase: players lose points and cards, the deck is built again,
and a round is dealt. The generator goes on from where it is. -/
def restart (game : Game) : Step Unit :=
  let dealt := deal { game with
    deck := game.options.deck
    discards := []
    round? := none
    roster := game.roster.reset }
  ⟨(), dealt.game,
    .record (.restarting game.roster.players.length)
      :: dealt.signals ++ [.event (.playersReset dealt.game.roster.players)]⟩

/-- Gives up on the round in play and deals another. The result is the new round, if the deck could
fill one. Whether the old round could be solved does not matter. -/
def skip (game : Game) (player : String) : Step (Except Refusal (Option Round)) :=
  match game.roundInPlay with
  | .error refusal => game.refuse refusal
  | .ok skipped =>
      let dealt := game.deal
      let announcement := dealt.game.round?.toList.map fun round =>
        Signal.event (.roundSkipped player round)
      ⟨.ok dealt.game.round?, dealt.game,
        .record (.roundSkipped player skipped) :: dealt.signals ++ announcement⟩

end Make24.Game
