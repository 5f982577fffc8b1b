import Mathlib
import Make24.Proofs.Game.Audience
import Make24.Proofs.Game.Tally

/-! Following a game by its events. A mirror knows how a game is made and hears its events, and
nothing else; it agrees with the game after every command, as long as nobody replaces the deck,
which no event tells of. Players that were registered and never scored are known to the game alone,
but their records are the ones of unknown players. -/

namespace Make24

/-- What can be kept of a game from its events. -/
structure Mirror where
  phase : Phase
  round? : Option Round
  deck : List Card
  discards : List Card
  roster : Roster

namespace Mirror

/-- The mirror of a game that was just made. -/
def new (options : Options) : Mirror where
  phase := .notStarted
  round? := none
  deck := options.deck
  discards := []
  roster := {}

/-- Takes in an event. The record told with a point takes the place of the player's. -/
def note (mirror : Mirror) : Event → Mirror
  | .roundDealt round => { mirror with phase := .active, round? := some round }
  | .deckChanged deck => { mirror with deck }
  | .discardsChanged discards => { mirror with discards }
  | .pointScored player =>
      { mirror with roster := (mirror.roster.update player.id fun _ => player).2 }
  | .playersReset players => { mirror with roster := ⟨players⟩ }
  | .gameFinished => { mirror with phase := .finished, round? := none }
  | .attemptIncorrect .. | .attemptInvalid .. | .roundSkipped .. => mirror

/-- Takes in events one after the other. -/
def follow (mirror : Mirror) (events : List Event) : Mirror :=
  events.foldl note mirror

theorem follow_append (mirror : Mirror) (earlier later : List Event) :
    mirror.follow (earlier ++ later) = (mirror.follow earlier).follow later :=
  List.foldl_append

/-- A mirror agrees with a game. -/
structure Shows (mirror : Mirror) (game : Game) : Prop where
  phase : mirror.phase = game.phase
  round? : mirror.round? = game.round?
  deck : mirror.deck = game.deck
  discards : mirror.discards = game.discards
  record : ∀ id, mirror.roster.record id = game.roster.record id

namespace Shows

variable {mirror : Mirror} {game : Game} {dealt : Step Bool}

theorem dealing (h : Shows mirror game) (hDealt : game.Dealing dealt) :
    Shows (mirror.follow dealt.events) dealt.game := by
  cases hDealt with
  | dealt => exact ⟨rfl, rfl, rfl, rfl, h.record⟩
  | exhausted => exact { h with phase := rfl, round? := rfl }

/-- The event of a point brings the record of the winner up to date. -/
theorem award (h : Shows mirror game) (player : String) (round : Round) :
    Shows (mirror.note (.pointScored (game.roster.award player round).1))
      { game with roster := (game.roster.award player round).2 } := by
  have hId : ((game.roster.record player).award round).id = player := game.roster.id_record player
  refine { h with record := fun id => ?_ }
  rw [Roster.fst_award, Roster.record_award, ← h.record id, note, hId]
  exact mirror.roster.record_update player _ (fun _ _ => hId) id

/-- A mirror that takes in what a command tells agrees with the game that the command leads to. -/
theorem move (h : Shows mirror game) {command : Command} {step : Step Reply}
    (move : game.Move command step) (hDeck : ∀ cards, command ≠ .replaceDeck cards) :
    Shows (mirror.follow step.events) step.game := by
  cases move with
  | startRefused | attemptRefused | skipRefused | invalid | incorrect => exact h
  | listening | removed => exact { h with }
  | started hPhase hDealt =>
      cases hDealt with
      | dealt => exact ⟨rfl, rfl, rfl, rfl, h.record⟩
      | exhausted short => exact absurd short (Game.not_short_deck game.options)
  | restarted hDealt =>
      rw [Step.events_restarted, follow_append]
      cases hDealt with
      | dealt => exact ⟨rfl, rfl, rfl, rfl, fun _ => rfl⟩
      | exhausted short => exact absurd short (Game.not_short_deck game.options)
  | @won player text round _ _ _ hRound hText hValue hAward dealt hDealt =>
      obtain ⟨rfl, rfl⟩ := Prod.ext_iff.mp hAward
      rw [Step.events_won]
      exact (h.award player round).dealing hDealt
  | @skipped player round hRound dealt hDealt =>
      rw [Step.events_skipped, follow_append]
      have hShows := h.dealing hDealt
      cases hNext : dealt.game.round? with
      | none => exact hShows
      | some next => exact hShows
  | @registered player _ _ hRegister =>
      obtain ⟨rfl, rfl⟩ := Prod.ext_iff.mp hRegister
      rw [Step.events_registered]
      exact { h with record := fun id => (h.record id).trans (Roster.record_register ..).symm }
  | @replaced cards => exact absurd rfl (hDeck cards)

theorem after (h : Shows mirror game) {commands : List Command}
    (hDeck : ∀ cards, .replaceDeck cards ∉ commands) :
    Shows (mirror.follow (game.events commands)) (game.after commands) := by
  induction commands generalizing mirror game with
  | nil => exact h
  | cons command rest ih =>
      rw [Game.events_cons, follow_append]
      refine ih (h.move (Game.move_perform game command) ?_) ?_
      · exact fun cards hCommand => hDeck cards (hCommand ▸ List.mem_cons_self)
      · exact fun cards hMem => hDeck cards (List.mem_cons_of_mem _ hMem)

end Shows

theorem shows_new (options : Options) (seed : UInt64) :
    Shows (new options) (.new options seed) :=
  ⟨rfl, rfl, rfl, rfl, fun _ => rfl⟩

end Mirror

namespace Game

/-- For an observer who registers for each kind of event right after the game was made, and for any
commands that leave the deck alone: the mirror of the events agrees with the game that the
commands lead to on the phase, the round in play, the deck, the discards, and the points and won
cards of every player, an unknown one having none. These events are what the observer hears, as
long as none of the registrations is removed. -/
theorem mirror_shows_game_after (options : Options) (seed : UInt64) {kinds : List Event.Kind}
    (hNodup : kinds.Nodup) (hAll : ∀ kind, kind ∈ kinds) {commands : List Command}
    (hDeck : ∀ cards, .replaceDeck cards ∉ commands) :
    let own := ((new options seed).watch kinds).1
    let game := ((new options seed).watch kinds).2
    let mirror := (Mirror.new options).follow (game.events commands)
    let now := game.after commands
    ((∀ entry ∈ own, .off entry.1 entry.2 ∉ commands) →
      (Mirror.new options).follow (game.heard own commands) = mirror) ∧
    mirror.phase = now.phase ∧ mirror.round? = now.round? ∧ mirror.deck = now.deck ∧
      mirror.discards = now.discards ∧
      ∀ id, mirror.roster.record id = now.roster.record id := by
  intro own game mirror now
  have hGame : (Mirror.new options).Shows game := by
    obtain ⟨observers, hWatch⟩ := exists_watch_eq (new options seed) kinds
    unfold game
    rw [hWatch]
    exact { Mirror.shows_new options seed with }
  have hShows := hGame.after hDeck
  refine ⟨fun hKept => ?_, hShows.phase, hShows.round?, hShows.deck, hShows.discards,
    hShows.record⟩
  rw [heard_watch options seed hNodup hAll hKept]

/-- A player registers, another tries, scores and gives up on a round, and a third starts a game
that is under way already. -/
theorem mirror_shows_game_after_score :
    let kinds : List Event.Kind :=
      [.gameFinished, .playersReset, .roundDealt, .deckChanged, .discardsChanged, .roundSkipped,
        .pointScored, .attemptIncorrect, .attemptInvalid]
    let own := ((new {} 7).watch kinds).1
    let game := ((new {} 7).watch kinds).2
    let commands : List Command :=
      [.addPlayer "cat", .start, .attempt "ann" "10 * 2 + 2 - 2",
        .attempt "ann" "10 * 2 + 2 + 2", .start, .skip "ann"]
    let mirror := (Mirror.new {}).follow (game.heard own commands)
    (kinds.Nodup ∧ (∀ kind, kind ∈ kinds) ∧ (∀ cards, .replaceDeck cards ∉ commands) ∧
      ∀ entry ∈ own, .off entry.1 entry.2 ∉ commands) ∧
      mirror.deck = (game.after commands).deck ∧
      mirror.roster.record "ann" = (game.after commands).roster.record "ann" ∧
      ((game.after commands).roster.record "ann").score = 1 := by
  intro kinds own game commands mirror
  have hNodup : kinds.Nodup := by decide
  have hAll : ∀ kind, kind ∈ kinds := by intro kind; cases kind <;> decide
  have hDeck : ∀ cards, .replaceDeck cards ∉ commands := by simp [commands]
  have hKept : ∀ entry ∈ own, .off entry.1 entry.2 ∉ commands := by simp [commands]
  obtain ⟨hHeard, -, -, hCards, -, hRecord⟩ := mirror_shows_game_after {} 7 hNodup hAll hDeck
  have hMirror : mirror = (Mirror.new {}).follow (game.events commands) := hHeard hKept
  refine ⟨⟨hNodup, hAll, hDeck, hKept⟩, ?_, ?_, by decide +kernel⟩
  · rw [hMirror]
    exact hCards
  · rw [hMirror]
    exact hRecord "ann"

end Game

end Make24
