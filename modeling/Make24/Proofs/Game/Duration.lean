import Mathlib
import Make24.Proofs.Game.Conservation
import Make24.Proofs.Game.Schedule

/-! How long a session lasts. A round ends only together with the deal of the next or with the game,
and a deal takes four cards or more, so the cards in the deck bound the rounds that can still be
dealt. Without doubles a deal takes just four, and a finished game has dealt as many rounds as the
deck could fill. -/

namespace Make24

/-- Whether a reply tells that the round in play was won or given up. -/
def Reply.endsRound : Reply → Bool
  | .attempted (.ok outcome) => outcome.isScored
  | .skipped (.ok _) => true
  | _ => false

namespace Game

open scoped List

/-- How many rounds a run brings to an end. -/
def ended (game : Game) (commands : List Command) : Nat :=
  (game.steps commands).countP fun step => step.result.endsRound

/-- What becomes of the deck and the phase of a session under way when a command neither builds nor
replaces the deck. -/
inductive Spends (game : Game) (step : Step Reply) : Prop where
  | kept (hEnds : step.result.endsRound = false) (hDealt : step.dealt = [])
      (hDeck : step.game.deck = game.deck) (hPhase : step.game.phase = game.phase)
  | dealt {round : Round} (hEnds : step.result.endsRound = true) (hDealt : step.dealt = [round])
      (hCards : round.cards.toList <+~ game.deck)
      (hDeck : step.game.deck = round.removeFrom game.deck) (hBefore : game.phase = .active)
      (hPhase : step.game.phase = .active)
  | finished (hEnds : step.result.endsRound = true) (hDealt : step.dealt = [])
      (hDeck : step.game.deck = game.deck) (hShort : game.deck.length < 4)
      (hBefore : game.phase = .active) (hPhase : step.game.phase = .finished)

/-- The account of a run that began with a round in play. Each round that was dealt took its cards
out of the deck, and replaced a round that ended; the last one is in play, or ended with the
game. -/
structure Account (game : Game) (commands : List Command) : Prop where
  sublist : (game.after commands).deck.Sublist game.deck
  bound : 4 * (game.deals commands).length + (game.after commands).deck.length ≤ game.deck.length
  exact : game.deck.Nodup →
    4 * (game.deals commands).length + (game.after commands).deck.length = game.deck.length
  balance :
    (game.ended commands = (game.deals commands).length ∧
      (game.after commands).phase = .active) ∨
    (game.ended commands = (game.deals commands).length + 1 ∧
      (game.after commands).phase = .finished ∧ (game.after commands).deck.length < 4)

section Steps

variable {game : Game} {command : Command} {step : Step Reply} {dealt : Step Bool}

/-- A deal in the place of a round that ended; only the records may have changed before it. -/
theorem Dealing.spends {roster : Roster} {result : Reply} {signals : List Signal}
    (hDealt : Dealing { game with roster } dealt) (hBefore : game.phase = .active)
    (hEnds : result.endsRound = true)
    (hRounds : Step.dealt ⟨result, dealt.game, signals⟩ = dealt.dealt) :
    Spends game ⟨result, dealt.game, signals⟩ := by
  cases hDealt with
  | dealt enough hPick hCards => exact .dealt hEnds hRounds hCards rfl hBefore rfl
  | exhausted short => exact .finished hEnds hRounds rfl short hBefore rfl

theorem Move.spends (move : Move game command step) (hPhase : game.phase ≠ .notStarted)
    (hRestart : command ≠ .restart) (hReplace : ∀ cards, command ≠ .replaceDeck cards) :
    Spends game step := by
  cases move with
  | startRefused | attemptRefused | skipRefused | invalid | incorrect | listening | removed =>
      exact .kept rfl rfl rfl rfl
  | registered hRegister => exact .kept rfl Step.dealt_registered rfl rfl
  | started hNotStarted => exact absurd hNotStarted hPhase
  | restarted => exact absurd rfl hRestart
  | @replaced cards => exact absurd rfl (hReplace cards)
  | won hRound hText hValue hAward hDealt =>
      exact hDealt.spends (roundInPlay_eq_ok_iff.mp hRound).1 rfl Step.dealt_won
  | skipped hRound hDealt =>
      exact hDealt.spends (roundInPlay_eq_ok_iff.mp hRound).1 rfl Step.dealt_skipped

/-- Where the deck is short, the end of a round is the end of the game. -/
theorem Spends.phase_eq_finished (h : Spends game step) (hEnds : step.result.endsRound = true)
    (hShort : game.deck.length < 4) : step.game.phase = .finished := by
  cases h with
  | kept hKept => simp [hKept] at hEnds
  | dealt _ _ hCards =>
      have hTaken := Round.length_removeFrom_add_four_le hCards
      omega
  | finished _ _ _ _ _ hPhase => exact hPhase

/-- No round ends in a game that is finished, and so it remains. -/
theorem Spends.of_finished (h : Spends game step) (hPhase : game.phase = .finished) :
    step.result.endsRound = false ∧ step.game.phase = .finished := by
  cases h with
  | kept hEnds _ _ hKept => exact ⟨hEnds, hKept.trans hPhase⟩
  | dealt _ _ _ _ hBefore => simp [hPhase] at hBefore
  | finished _ _ _ _ hBefore => simp [hPhase] at hBefore

end Steps

section Runs

variable {game : Game} {chronicle : Chronicle} {commands : List Command} {command : Command}

theorem ended_concat (game : Game) (commands : List Command) (command : Command) :
    game.ended (commands ++ [command]) = game.ended commands +
      if ((game.after commands).perform command).result.endsRound = true then 1 else 0 := by
  unfold ended
  rw [steps_append, List.countP_append]
  exact congrArg _ List.countP_singleton

theorem length_deals_concat (game : Game) (commands : List Command) (command : Command) :
    (game.deals (commands ++ [command])).length = (game.deals commands).length +
      ((game.after commands).perform command).dealt.length := by
  rw [deals_append, List.length_append, deals_cons, List.length_append, List.length_map]
  rfl

theorem after_concat (game : Game) (commands : List Command) (command : Command) :
    game.after (commands ++ [command]) = ((game.after commands).perform command).game :=
  game.after_append commands [command]

theorem Account.nil (hPhase : game.phase = .active) : Account game [] where
  sublist := .refl _
  bound := by simp [deals, after]
  exact _ := by simp [deals, after]
  balance := .inl ⟨rfl, hPhase⟩

/-- One more command keeps the account: a deal takes at least its four cards, and a round ends just
when another is dealt or the game is over. -/
theorem Account.concat (h : Account game commands)
    (hSpends : Spends (game.after commands) ((game.after commands).perform command)) :
    Account game (commands ++ [command]) := by
  obtain ⟨hSublist, hBound, hExact, hBalance⟩ := h
  cases hSpends with
  | kept hEnds hDealt hDeck hPhase =>
      constructor <;>
        simpa [ended_concat, length_deals_concat, after_concat, hEnds, hDealt, hDeck, hPhase]
  | @dealt round hEnds hDealt hCards hDeck hBefore hPhase =>
      constructor
      · rw [after_concat, hDeck]
        exact List.filter_sublist.trans hSublist
      · have hTaken := Round.length_removeFrom_add_four_le hCards
        rw [length_deals_concat, after_concat, hDealt, hDeck, List.length_singleton]
        omega
      · intro hNodup
        have hTaken := Round.length_removeFrom_add_four (hNodup.sublist hSublist) hCards
        have hBefore := hExact hNodup
        rw [length_deals_concat, after_concat, hDealt, hDeck, List.length_singleton]
        omega
      · simpa [ended_concat, length_deals_concat, after_concat, hEnds, hDealt, hBefore, hPhase]
          using hBalance
  | finished hEnds hDealt hDeck hShort hBefore hPhase =>
      constructor
      · rwa [after_concat, hDeck]
      · rwa [length_deals_concat, after_concat, hDealt, hDeck]
      · rwa [length_deals_concat, after_concat, hDealt, hDeck]
      · simpa [ended_concat, length_deals_concat, after_concat, hEnds, hDealt, hDeck, hBefore,
          hPhase, hShort] using hBalance

theorem Account.phase_ne_notStarted (h : Account game commands) :
    (game.after commands).phase ≠ .notStarted := by
  rcases h.balance with ⟨-, hPhase⟩ | ⟨-, hPhase, -⟩ <;> simp [hPhase]

/-- Every run from a round in play has its account. -/
theorem account_of_active (hPhase : game.phase = .active) (hRestart : .restart ∉ commands)
    (hReplace : ∀ cards, .replaceDeck cards ∉ commands) : Account game commands := by
  induction commands using List.reverseRecOn with
  | nil => exact .nil hPhase
  | append_singleton commands command ih =>
      simp only [List.mem_append, List.mem_singleton, not_or] at hRestart hReplace
      have hAccount := ih hRestart.1 fun cards => (hReplace cards).1
      exact hAccount.concat ((move_perform _ command).spends hAccount.phase_ne_notStarted
        (Ne.symm hRestart.2) fun cards => Ne.symm (hReplace cards).2)

/-- Without doubles the account comes out even: the deck deals as many rounds as it can fill, one
for each that ended, and the game is over when one more ended. -/
theorem Account.of_nodup (h : Account game commands) (hNodup : game.deck.Nodup) :
    (game.deals commands).length = min (game.ended commands) (game.deck.length / 4) ∧
      ((game.after commands).phase = .finished ↔ game.deck.length / 4 < game.ended commands) ∧
      ((game.after commands).phase = .finished →
        (game.deals commands).length = game.deck.length / 4 ∧
          (game.after commands).deck.length = game.deck.length % 4) := by
  have hExact := h.exact hNodup
  rcases h.balance with ⟨hEnded, hPhase⟩ | ⟨hEnded, hPhase, hShort⟩
  · have hActive : Phase.active ≠ .finished := by decide
    simp only [hPhase, hActive, false_iff, false_implies, and_true]
    omega
  · simp only [hPhase, true_iff, true_implies]
    omega

/-- A round in play can always be given up. -/
theorem Coherent.endsRound_skip (h : Coherent game chronicle) (hPhase : game.phase = .active)
    (player : String) : (game.perform (.skip player)).result.endsRound = true := by
  obtain ⟨round, hRound⟩ := Option.isSome_iff_exists.mp (h.active_iff.mp hPhase)
  have hInPlay := roundInPlay_eq_ok_iff.mpr ⟨hPhase, hRound⟩
  simp [perform, skip, hInPlay, Step.map, Reply.endsRound]

theorem Account.spends_skip (h : Account game commands) (player : String) :
    Spends (game.after commands) ((game.after commands).perform (.skip player)) :=
  (move_perform _ _).spends h.phase_ne_notStarted (by simp) (by simp)

/-- Players who do nothing but give up see every round that the deck can fill. -/
theorem Coherent.ended_skips (h : Coherent game chronicle) (hPhase : game.phase = .active)
    (hNodup : game.deck.Nodup) (player : String) (count : Nat) :
    game.ended (List.replicate count (.skip player)) = min count (game.deck.length / 4 + 1) := by
  induction count with
  | zero => simp [ended, steps]
  | succ count ih =>
      set skips := List.replicate count (Command.skip player) with hSkips
      have hAccount : Account game skips :=
        account_of_active hPhase (by simp [hSkips]) (by simp [hSkips])
      obtain ⟨-, hFinished, -⟩ := hAccount.of_nodup hNodup
      rw [List.replicate_succ', ← hSkips, ended_concat]
      rcases hAccount.balance with ⟨-, hActive⟩ | ⟨-, hOver, -⟩
      · have hCoherent := after_along Coherent.advance skips h
        have hMore : ¬ game.deck.length / 4 < game.ended skips := by
          rw [← hFinished, hActive]
          decide
        rw [if_pos (hCoherent.endsRound_skip hActive player)]
        omega
      · have hDone := hFinished.mp hOver
        have hEnds := ((hAccount.spends_skip player).of_finished hOver).1
        rw [hEnds, if_neg Bool.false_ne_true]
        omega

/-- More rounds cannot end than the deck fills, and the one in play, before the game is over. -/
theorem Account.finished_of_lt (h : Account game commands)
    (hEnded : game.deck.length / 4 < game.ended commands) :
    (game.after commands).phase = .finished := by
  have hBound := h.bound
  rcases h.balance with ⟨hBalance, -⟩ | ⟨-, hPhase, -⟩
  · omega
  · exact hPhase

theorem Coherent.finished_skip (hGame : Coherent game chronicle) (h : Account game commands)
    (hShort : (game.after commands).deck.length < 4) (player : String) :
    ((game.after commands).skip player).game.phase = .finished := by
  have hSpends := h.spends_skip player
  rcases h.balance with ⟨-, hActive⟩ | ⟨-, hOver, -⟩
  · have hCoherent := after_along Coherent.advance commands hGame
    exact hSpends.phase_eq_finished (hCoherent.endsRound_skip hActive player) hShort
  · exact (hSpends.of_finished hOver).2

theorem Account.finished_attempt (h : Account game commands)
    (hShort : (game.after commands).deck.length < 4) {player text : String} {score : Nat}
    (hScored : ((game.after commands).attempt player text).result = .ok (.scored score)) :
    ((game.after commands).attempt player text).game.phase = .finished := by
  have hSpends := (move_perform (game.after commands) (.attempt player text)).spends
    h.phase_ne_notStarted (by simp) (by simp)
  have hEnds : (Reply.attempted ((game.after commands).attempt player text).result).endsRound =
      true := by
    rw [hScored]
    rfl
  exact hSpends.phase_eq_finished hEnds hShort

end Runs

section Sessions

variable {game game' : Game} {chronicle chronicle' : Chronicle} {dealt : Step Bool}

/-- A finished game has run out of cards, unless other cards were put in their place. -/
def RunsOut (game : Game) (chronicle : Chronicle) : Prop :=
  chronicle.deckReplaced = false → game.phase = .finished → game.deck.length < 4

theorem Dealing.length_lt_of_finished (hDealt : Dealing game dealt)
    (hPhase : dealt.game.phase = .finished) : dealt.game.deck.length < 4 := by
  cases hDealt with
  | dealt => cases hPhase
  | exhausted short => exact short

theorem RunsOut.advance (h : RunsOut game chronicle)
    (advance : Advance game chronicle game' chronicle') : RunsOut game' chronicle' := by
  intro hBuilt hPhase
  cases advance with
  | quiet | registered => exact h hBuilt hPhase
  | replaced => cases hBuilt
  | started _ hDealt => exact hDealt.length_lt_of_finished hPhase
  | restarted hDealt => exact hDealt.length_lt_of_finished hPhase
  | won _ _ hDealt => exact hDealt.length_lt_of_finished hPhase
  | skipped _ hDealt => exact hDealt.length_lt_of_finished hPhase

theorem runsOut_after (options : Options) (seed : UInt64) (commands : List Command) :
    RunsOut ((new options seed).after commands) ((new options seed).chronicle commands) :=
  after_along RunsOut.advance commands fun _ hPhase => by cases hPhase

/-- The cards of a session on the deck that was built are those left and four for each round dealt,
and no card is left at the end. -/
theorem Conserved.length_deck {options : Options} (h : Conserved options game chronicle)
    (hBuilt : chronicle.deckReplaced = false) :
    game.deck.length + 4 * chronicle.dealt.length = options.deckSize := by
  have hPerm := (h.whole hBuilt).perm.length_eq
  rwa [List.length_append, h.discards, Round.length_cardsOf, h.options_eq,
    options.length_deck] at hPerm

end Sessions

/-- A game with a round in play and some cards in the deck, whatever cards these are and however the
game was brought there, and a run that neither restarts it nor replaces the deck:

* every deal takes at least four cards, so at most a quarter as many rounds are dealt as there are
  cards; when that many are, the next skip or scored attempt finishes the game, and no run in which
  more rounds end leaves it unfinished;
* if no card is in the deck twice, every deal takes just four, each round that ends is followed by
  another for as long as the deck fills one, and the game is finished, with the rest of the cards
  left, exactly if one round more has ended. Skips alone lead there.

So a session that nobody replaces the deck of has at each time four cards less in the deck for each
round dealt, and once it is finished the whole deck was dealt. -/
theorem deck_bounds_deals (options : Options) (seed : UInt64) {commands later : List Command}
    (hRound : ((new options seed).after commands).round?.isSome)
    (hRestart : .restart ∉ later) (hReplace : ∀ cards, .replaceDeck cards ∉ later) :
    let game := (new options seed).after commands
    let cards := game.deck.length
    let rounds := (game.deals later).length
    let next := game.after later
    (4 * rounds + next.deck.length ≤ cards ∧ rounds ≤ cards / 4 ∧
      (rounds = cards / 4 → ∀ player, (next.skip player).game.phase = .finished ∧
        ∀ text score, (next.attempt player text).result = .ok (.scored score) →
          (next.attempt player text).game.phase = .finished) ∧
      (cards / 4 < game.ended later → next.phase = .finished)) ∧
    (game.deck.Nodup →
      4 * rounds + next.deck.length = cards ∧ rounds = min (game.ended later) (cards / 4) ∧
      (next.phase = .finished ↔ cards / 4 < game.ended later) ∧
      (next.phase = .finished → rounds = cards / 4 ∧ next.deck.length = cards % 4) ∧
      ∀ player count, let skips := List.replicate count (.skip player)
        (game.deals skips).length = min count (cards / 4) ∧
          ((game.after skips).phase = .finished ↔ cards / 4 < count)) ∧
    ∀ run, let session := (new options seed).after run
      let chronicle := (new options seed).chronicle run
      chronicle.deckReplaced = false →
        session.deck.length + 4 * chronicle.dealt.length = options.deckSize ∧
        (session.phase = .finished →
          chronicle.dealt.length = options.deckSize / 4 ∧ session.deck = []) := by
  intro game cards rounds next
  have hCoherent := coherent_after options seed commands
  have hPhase := hCoherent.active_iff.mpr hRound
  have hAccount : Account game later := account_of_active hPhase hRestart hReplace
  refine ⟨?_, ?_, ?_⟩
  · have hBound : 4 * rounds + next.deck.length ≤ cards := hAccount.bound
    refine ⟨hBound, by omega, ?_, hAccount.finished_of_lt⟩
    intro hRounds player
    have hShort : next.deck.length < 4 := by omega
    exact ⟨hCoherent.finished_skip hAccount hShort player,
      fun text score hScored => hAccount.finished_attempt hShort hScored⟩
  · intro hNodup
    obtain ⟨hRounds, hFinished, hRest⟩ := hAccount.of_nodup hNodup
    refine ⟨hAccount.exact hNodup, hRounds, hFinished, hRest, ?_⟩
    intro player count skips
    have hSkips : Account game skips :=
      account_of_active hPhase (by simp [skips]) (by simp [skips])
    obtain ⟨hDeals, hOver, -⟩ := hSkips.of_nodup hNodup
    have hEnded : game.ended skips = min count (game.deck.length / 4 + 1) :=
      hCoherent.ended_skips hPhase hNodup player count
    rw [hDeals, hOver, hEnded]
    change _ = min count (game.deck.length / 4) ∧ (_ ↔ game.deck.length / 4 < count)
    omega
  · intro run session chronicle hBuilt
    have hLength : session.deck.length + 4 * chronicle.dealt.length = options.deckSize :=
      (conserved_after options seed run).length_deck hBuilt
    refine ⟨hLength, fun hFinished => ?_⟩
    have hShort : session.deck.length < 4 := runsOut_after options seed run hBuilt hFinished
    have hFour : 4 ∣ options.deckSize := by
      unfold Options.deckSize
      split <;> decide
    rw [← List.length_eq_zero_iff]
    omega

/-- A deck of seven cards gives one more round, and three cards are left. On the built deck, ten
rounds are given up until nothing is left. -/
theorem deck_bounds_deals_seven :
    let seven : List Card := (List.range 7).map fun number => ⟨.hearts, number.toUInt8⟩
    let commands : List Command := [.start, .replaceDeck seven]
    let later : List Command := [.start, .skip "ben", .attempt "ann" "24", .skip "ann"]
    let run : List Command := [.start] ++ List.replicate 10 (.skip "ann")
    let game := (new {} 7).after commands
    (game.round?.isSome ∧ .restart ∉ later ∧ (∀ cards, .replaceDeck cards ∉ later) ∧
      game.deck.Nodup ∧ (game.after later).phase = .finished ∧
      (game.deals later).length = 1 ∧ (game.after later).deck.length = 3) ∧
    ((new {} 7).chronicle run).deckReplaced = false ∧ ((new {} 7).after run).phase = .finished ∧
      ((new {} 7).chronicle run).dealt.length = 10 ∧ ((new {} 7).after run).deck = [] := by
  intro seven commands later run game
  have hRound : game.round?.isSome := by decide +kernel
  have hRestart : .restart ∉ later := by simp [later]
  have hReplace : ∀ cards, .replaceDeck cards ∉ later := by simp [later]
  have hNodup : game.deck.Nodup := by decide +kernel
  have hFinished : (game.after later).phase = .finished := by decide +kernel
  obtain ⟨-, hDistinct, hSession⟩ := deck_bounds_deals {} 7 hRound hRestart hReplace
  obtain ⟨-, -, -, hRest, -⟩ := hDistinct hNodup
  have hSeven : game.deck.length = 7 := by decide +kernel
  have hLeft : (game.deals later).length = 1 ∧ (game.after later).deck.length = 3 := by
    obtain ⟨hRounds, hCards⟩ := hRest hFinished
    rw [hSeven] at hRounds hCards
    exact ⟨hRounds, hCards⟩
  -- The end of the longer session is not computed: skips alone lead there.
  have hOpened : ((new {} 7).after [.start]).round?.isSome ∧
      ((new {} 7).after [.start]).deck.length = 36 ∧
      ((new {} 7).after [.start]).deck.Nodup := by
    decide +kernel
  obtain ⟨-, hOpenedDistinct, -⟩ :=
    deck_bounds_deals {} 7 hOpened.1 List.not_mem_nil fun cards => List.not_mem_nil
  obtain ⟨-, -, -, -, hSkips⟩ := hOpenedDistinct hOpened.2.2
  have hOver : ((new {} 7).after run).phase = .finished := by
    rw [after_append, (hSkips "ann" 10).2, hOpened.2.1]
    decide
  have hBuilt : ((new {} 7).chronicle run).deckReplaced = false := by decide +kernel
  obtain ⟨-, hAll⟩ := hSession run hBuilt
  obtain ⟨hRounds, hEmpty⟩ := hAll hOver
  have hTen : Options.deckSize {} / 4 = 10 := by decide
  exact ⟨⟨hRound, hRestart, hReplace, hNodup, hFinished, hLeft⟩, hBuilt, hOver,
    hRounds.trans hTen, hEmpty⟩

end Game

end Make24
