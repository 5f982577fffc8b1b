import Mathlib
import Make24.Proofs.Terminal.Coherence

/-! The figures that a session shows. A deal announces what it left of the deck, the scoreboard
reads off the game, and a point is told by the reply, after the next deal was announced. All of them
are the figures of one count, that of the rounds dealt and the points scored since the start or the
last restart. -/

namespace Make24.Terminal

/-- The lines on a topic. -/
def about (topic : Line.Topic) (lines : List Line) : List Line :=
  lines.filter fun line => line.topic = topic

/-- A scoreboard with some points and some cards left to play. It lists the one player at most, with
four cards for each point. -/
inductive Board (points left : Nat) : List Line → Prop where
  | nobody (hPoints : points = 0) : Board points left [.noPlayers, .leftToPlay left]
  | known : Board points left [.standing player points (4 * points), .leftToPlay left]

/-- What an exchange shows fits what was dealt and scored before it, for a deck of some size. -/
structure Figures (size : Nat) (before : Progress) (exchange : Exchange) : Prop where
  /-- A deal announces the whole deck less four cards for each deal so far. -/
  deal : about .deal exchange.lines = [] ∨ ∃ round left,
    about .deal exchange.lines = [.dealt round, .cardsLeft left] ∧
      left + 4 * (before.note exchange).deals = size
  /-- The points on a scoreboard are those scored. With the cards left, and those of the round in
  play, they are no more than the deck. -/
  board : about .board exchange.lines = [] ∨ ∃ left,
    Board before.scored left (about .board exchange.lines) ∧ left + 4 * before.deals = size ∧
      (exchange.game.phase = .active ∧ 4 * before.scored + left ≤ size - 4 ∨
        exchange.game.phase = .finished ∧ 4 * before.scored ≤ size)
  /-- The game is over when the deck is dealt out, and that is what the scoreboard shows. -/
  ended : .gameOver ∈ exchange.lines →
    4 * before.deals = size ∧ Board before.scored 0 (about .board exchange.lines)
  /-- A point is told at the end, with the points scored so far, and nothing else is. -/
  score : if exchange.isScored then
      ∃ front, about .score front = [] ∧
        exchange.lines = front ++ [.score (before.note exchange).scored]
    else about .score exchange.lines = []

section Lines

variable {topic : Line.Topic} {game : Game} {lines : List Line}

@[simp] theorem about_nil : about topic [] = [] := rfl

@[simp] theorem about_append (first second : List Line) :
    about topic (first ++ second) = about topic first ++ about topic second :=
  List.filter_append ..

theorem about_eq_nil_iff : about topic lines = [] ↔ ∀ line ∈ lines, line.topic ≠ topic := by
  simp [about, List.filter_eq_nil_iff]

theorem about_scoreboard (game : Game) : about .board (scoreboard game) = scoreboard game :=
  List.filter_eq_self.mpr fun line hLine => by simp [topic_of_mem_scoreboard hLine]

theorem about_board_prompt (game : Game) : about .board (prompt game) =
    if game.phase = .finished then scoreboard game else [] := by
  unfold prompt
  cases game.phase with
  | finished =>
      simp only [if_true, List.cons_append, about, List.filter_cons, List.filter_append]
      rw [← about, about_scoreboard]
      simp [Line.topic]
  | notStarted | active => rfl

theorem about_prompt (hTopic : topic ≠ .board) (hOther : topic ≠ .other) (game : Game) :
    about topic (prompt game) = [] := by
  rw [about_eq_nil_iff]
  intro line hLine hSame
  rcases topic_of_mem_prompt hLine with hBoard | hElse
  · exact hTopic (hSame.symm.trans hBoard)
  · exact hOther (hSame.symm.trans hElse)

theorem hintLine_ne_gameOver (game : Game) : hintLine game ≠ .gameOver := by
  unfold hintLine
  repeat' split
  all_goals simp

end Lines

section Reports

variable {next : Game} {command : Command} {reply : Reply} {lines : List Line}

theorem Report.deal (report : Report next command reply lines) : about .deal lines = [] ∨
    ∃ round, about .deal lines = [.dealt round, .cardsLeft next.deck.length] := by
  cases report with
  | restarted => exact .inr ⟨_, rfl⟩
  | skipped => exact .inr ⟨_, rfl⟩
  | won => exact .inr ⟨_, rfl⟩
  | skippedLast | invalid | incorrect | wonLast => exact .inl rfl

theorem Report.board (report : Report next command reply lines) : about .board lines = [] := by
  cases report <;> rfl

theorem Report.gameOver_notMem (report : Report next command reply lines) :
    .gameOver ∉ lines := by
  cases report <;> simp

/-- A reply that tells of a point is shown at the end, with the score that the record holds. -/
theorem Report.score (report : Report next command reply lines) :
    if reply.isScored then
      ∃ front points, about .score front = [] ∧ lines = front ++ [.score points] ∧
        (next.roster.find? player).map Player.score = some points
    else about .score lines = [] := by
  cases report with
  | won hRound hScore => exact ⟨[_, _, _], _, rfl, rfl, hScore⟩
  | wonLast hScore => exact ⟨[_], _, rfl, rfl, hScore⟩
  | restarted | skipped | skippedLast | invalid | incorrect => rfl

end Reports

namespace Seated

variable {options : Options} {game : Game} {chronicle : Chronicle} {exchange : Exchange}

theorem length_deck (h : Seated options game chronicle) :
    game.deck.length + 4 * chronicle.dealt.length = options.deckSize :=
  h.toConserved.length_deck h.built

/-- The records are those of the player alone, if there is any. -/
theorem players (h : Seated options game chronicle) :
    (chronicle.won = [] ∧ game.roster.players = []) ∨
      game.roster.players = [Player.standing player (chronicle.won.map Prod.snd)] := by
  obtain ⟨ids, hTallies⟩ := h.tallies
  have hIds : game.roster.players.map Player.id = ids := by
    rw [hTallies.players, List.map_map]
    exact List.map_id ids
  have hAlone := h.alone
  unfold Alone at hAlone
  rw [hIds] at hAlone
  rcases hAlone with rfl | rfl
  · refine .inl ⟨?_, hTallies.players⟩
    exact List.eq_nil_iff_forall_not_mem.mpr fun win hWin => by simpa using hTallies.known win hWin
  · have hWon : roundsWon chronicle.won player = chronicle.won.map Prod.snd := by
      rw [roundsWon, List.filter_eq_self.mpr]
      intro win hWin
      simpa using hTallies.known win hWin
    exact .inr (by rw [hTallies.players, List.map_singleton, hWon])

theorem won_le (h : Seated options game chronicle) :
    chronicle.won.length + game.round?.toList.length ≤ chronicle.dealt.length := by
  simpa using h.sublist_dealt.length_le

/-- No session on a built deck is long enough for the points to reach their limit. -/
theorem score_standing (h : Seated options game chronicle) :
    (Player.standing player (chronicle.won.map Prod.snd)).score = chronicle.won.length := by
  have hDeck := h.length_deck
  have hWon := h.won_le
  have hSize : options.deckSize ≤ 52 := by
    unfold Options.deckSize
    split <;> decide
  change min (chronicle.won.map Prod.snd).length Player.scoreLimit = _
  rw [List.length_map, Player.scoreLimit]
  omega

theorem board (h : Seated options game chronicle) :
    Board chronicle.won.length game.deck.length (scoreboard game) := by
  unfold scoreboard
  rcases h.players with ⟨hWon, hPlayers⟩ | hPlayers
  · rw [hPlayers, hWon]
    exact .nobody rfl
  · have hCards : (Player.standing player (chronicle.won.map Prod.snd)).cards.length =
        4 * chronicle.won.length := by
      rw [Player.standing, Round.length_cardsOf, List.length_map]
    rw [hPlayers, List.map_singleton, h.score_standing, hCards]
    exact .known

/-- The record of the player holds the points scored. -/
theorem score_eq (h : Seated options game chronicle) {points : Nat}
    (hScore : (game.roster.find? player).map Player.score = some points) :
    points = chronicle.won.length := by
  rw [← h.score_standing]
  unfold Roster.find? at hScore
  rcases h.players with ⟨-, hPlayers⟩ | hPlayers
  · simp [hPlayers] at hScore
  · rw [hPlayers] at hScore
    simpa [Player.standing] using hScore.symm

theorem length_deck_of_finished (h : Seated options game chronicle)
    (hPhase : game.phase = .finished) : game.deck.length = 0 := by
  have hDeck := h.length_deck
  have hShort := h.runsOut h.built hPhase
  unfold Options.deckSize at hDeck
  split at hDeck <;> simp [Deck.sizeWithFaceCards, Deck.sizeWithoutFaceCards] at hDeck <;> omega

/-- Neither deals nor points are told of without a command. -/
theorem about_told (h : Seated options exchange.game chronicle)
    (hCommand : exchange.command? = none) {topic : Line.Topic} (hTopic : topic ≠ .board)
    (hOther : topic ≠ .other) : about topic exchange.turn.lines = [] := by
  have hTold := h.told
  generalize exchange.turn.lines = lines at hTold ⊢
  cases hTold with
  | nothing => rfl
  | hint _ hPhase =>
      rw [about_eq_nil_iff]
      intro line hLine
      rw [List.mem_singleton.mp hLine, topic_hintLine (h.active_iff.mp hPhase)]
      exact hOther.symm
  | board =>
      rw [about_eq_nil_iff]
      intro line hLine
      rw [topic_of_mem_scoreboard hLine]
      exact hTopic.symm
  | reported hSome => simp [hCommand] at hSome

/-- A scoreboard is shown when the game is over, and while a round is in play when asked for. -/
theorem about_board (h : Seated options exchange.game chronicle) :
    (exchange.game.phase = .active ∧ about .board exchange.lines = []) ∨
      about .board exchange.lines = scoreboard exchange.game := by
  rw [Exchange.lines, about_append, about_board_prompt]
  have hTold := h.told
  generalize exchange.turn.lines = lines at hTold ⊢
  by_cases hPhase : exchange.game.phase = .finished
  · rw [if_pos hPhase]
    cases hTold with
    | nothing => simp
    | hint _ hActive => simp [hPhase] at hActive
    | board _ hActive => simp [hPhase] at hActive
    | reported _ hReport => simp [hReport.board]
  · have hActive := h.phase_eq_active hPhase
    rw [if_neg hPhase, List.nil_append]
    cases hTold with
    | nothing => exact .inl ⟨hActive, rfl⟩
    | hint =>
        have hTopic := topic_hintLine (h.active_iff.mp hActive)
        exact .inl ⟨hActive, by simp [about, hTopic]⟩
    | board => exact .inr (about_scoreboard exchange.game)
    | reported _ hReport => exact .inl ⟨hActive, hReport.board⟩

theorem finished_of_gameOver (h : Seated options exchange.game chronicle)
    (hOver : .gameOver ∈ exchange.lines) : exchange.game.phase = .finished := by
  by_contra hPhase
  rw [Exchange.lines, prompt_of_active (h.phase_eq_active hPhase), List.mem_append,
    List.mem_singleton] at hOver
  have hReply := hOver.resolve_left (by simp)
  have hTold := h.told
  generalize exchange.turn.lines = lines at hTold hReply
  cases hTold with
  | nothing => cases hReply
  | hint => exact hintLine_ne_gameOver exchange.game (List.mem_singleton.mp hReply).symm
  | board =>
      have hTopic := topic_of_mem_scoreboard hReply
      simp [Line.topic] at hTopic
  | reported _ hReport => exact hReport.gameOver_notMem hReply

/-- What the terminal shows fits what the game went through. -/
theorem figures (h : Seated options exchange.game chronicle) :
    Figures options.deckSize (Progress.of chronicle) exchange where
  deal := by
    have hPrompt : about .deal (prompt exchange.game) = [] := about_prompt (by simp) (by simp) _
    rw [Exchange.lines, about_append, hPrompt, List.nil_append]
    cases hCommand : exchange.command? with
    | none => exact .inl (h.about_told hCommand (by simp) (by simp))
    | some command =>
        rcases (h.report hCommand).deal with hNone | ⟨round, hDeal⟩
        · exact .inl hNone
        · have hLeft := (h.perform hCommand).length_deck
          rw [← h.progress_perform hCommand]
          exact .inr ⟨round, _, hDeal, hLeft⟩
  board := by
    refine h.about_board.imp And.right fun hBoard => ⟨_, hBoard ▸ h.board, h.length_deck, ?_⟩
    have hDeck := h.length_deck
    have hWon := h.won_le
    by_cases hPhase : exchange.game.phase = .finished
    · exact .inr ⟨hPhase, by simp only [Progress.of]; omega⟩
    · have hOne : exchange.game.round?.toList.length = 1 := by
        obtain ⟨round, hRound⟩ := Option.isSome_iff_exists.mp (h.isSome_round? hPhase)
        rw [hRound]
        rfl
      exact .inl ⟨h.phase_eq_active hPhase, by simp only [Progress.of]; omega⟩
  ended := by
    intro hOver
    have hPhase := h.finished_of_gameOver hOver
    have hDeck := h.length_deck
    have hEmpty := h.length_deck_of_finished hPhase
    refine ⟨by simp only [Progress.of]; omega, ?_⟩
    rcases h.about_board with ⟨hActive, -⟩ | hBoard
    · simp [hPhase] at hActive
    · rw [hBoard, ← hEmpty]
      exact h.board
  score := by
    have hPrompt : about .score (prompt exchange.game) = [] := about_prompt (by simp) (by simp) _
    rw [Exchange.isScored]
    cases hCommand : exchange.command? with
    | none =>
        rw [if_neg (by simp), Exchange.lines, about_append, hPrompt,
          h.about_told hCommand (by simp) (by simp)]
        rfl
    | some command =>
        have hScore := (h.report hCommand).score
        dsimp only
        split at hScore
        case isTrue hPoint =>
          obtain ⟨front, points, hFront, hLines, hRecord⟩ := hScore
          rw [if_pos hPoint, ← h.progress_perform hCommand]
          refine ⟨prompt exchange.game ++ front, by simp [hPrompt, hFront], ?_⟩
          rw [Exchange.lines, hLines, (h.perform hCommand).score_eq hRecord, List.append_assoc]
          rfl
        case isFalse hNone =>
          rw [if_neg hNone, Exchange.lines, about_append, hPrompt, hScore]
          rfl

end Seated

/-- For every clock and every input, with the deck that the first answer chose:

* after the opening a session shows the first deal, which announces the deck without its four cards,
  and then what its exchanges show;
* each line that is read answers one question: with a yes or the command it begins a new session,
  and as a text that makes 24 with the cards in play it scores;
* whatever is shown with a question and in reply to the answer fits the rounds dealt and the points
  scored since the start or the last restart. -/
theorem figures_agree (clock : Int) (input : List UInt8) :
    let size := Options.deckSize { faceCards := isYes (firstText input) }
    size = (if said? input 0 ∈ [some "y", some "yes"] then 52 else 40) ∧
      (∃ round, transcript clock input = opening ++ [.dealt round, .cardsLeft (size - 4)]
        ++ (course clock input).flatMap Exchange.lines) ∧
      ∀ earlier exchange later, course clock input = earlier ++ exchange :: later →
        exchange.Answers (said? input (earlier.length + 1)) ∧
          Figures size (earlier.foldl Progress.note ⟨1, 0⟩) exchange := by
  intro size
  refine ⟨?_, ?_, ?_⟩
  · change (if isYes (firstText input) = true then 52 else 40) = _
    rw [firstText_eq]
    exact if_congr isYes_getD_iff rfl rfl
  · obtain ⟨chronicle, round, hSeated, hProgress, -, hLines⟩ :=
      exists_opened clock (firstText input)
    have hDeals : chronicle.dealt.length = 1 := congrArg Progress.deals hProgress
    have hDeck := hSeated.length_deck
    have hLeft : (setUp clock (firstText input)).start.game.deck.length = size - 4 := by omega
    exact ⟨round, by rw [transcript_eq, hLines, hLeft]⟩
  · intro earlier exchange later hSplit
    obtain ⟨chronicle, hSeated, hProgress⟩ := exists_seated hSplit
    rw [← hProgress]
    exact ⟨Exchange.answers (text_eq hSplit), hSeated.figures⟩

theorem Board.getLast?_eq {points left : Nat} {lines : List Line}
    (board : Board points left lines) : lines.getLast? = some (.leftToPlay left) := by
  cases board <;> rfl

/-- The scoreboard that is asked for counts the cards that are left. -/
theorem Figures.board_of_score {size : Nat} {before : Progress} {exchange : Exchange}
    (figures : Figures size before exchange) (hPhase : exchange.game.phase = .active)
    (hText : exchange.text = "score") :
    Board before.scored exchange.game.deck.length (about .board exchange.lines) := by
  have hTurn : exchange.turn = .goOn (scoreboard exchange.game) exchange.game := by
    unfold Exchange.turn answer
    rw [hPhase, hText]
    rfl
  have hLines : about .board exchange.lines = scoreboard exchange.game := by
    rw [Exchange.lines, hTurn, prompt_of_active hPhase, Turn.goOn, about_append, about_scoreboard]
    rfl
  rcases figures.board with hNone | ⟨left, hBoard, -⟩
  · rw [hLines] at hNone
    simp [scoreboard] at hNone
  · have hLast := hBoard.getLast?_eq
    rw [hLines, scoreboard, List.getLast?_concat, Option.some.injEq, Line.leftToPlay.injEq] at hLast
    exact hLast ▸ hBoard

/-- One attempt scores, the scoreboard shows it, and a restart counts from anew. -/
theorem figures_agree_restart :
    let input := "n\n10 * 2 + 2 + 2\nscore\nrestart\nscore\n".toUTF8.data.toList
    ∃ won asked again fresh last, course 7 input = [won, asked, again, fresh, last] ∧
      won.text = "10 * 2 + 2 + 2" ∧
      (∃ front, about .score front = [] ∧ won.lines = front ++ [.score 1]) ∧
      Board 1 32 (about .board asked.lines) ∧ again.text = "restart" ∧
      Board 0 36 (about .board fresh.lines) := by
  intro input
  obtain ⟨hSize, -, hFigures⟩ := figures_agree 7 input
  have hFirst : said? input 0 = some "n" := by decide +kernel
  rw [hFirst, if_neg (by decide)] at hSize
  rw [hSize] at hFigures
  have hCourse : (course 7 input).map (fun exchange => (exchange.text, exchange.isScored,
      exchange.restarts, exchange.game.phase, exchange.game.deck.length)) =
      [("10 * 2 + 2 + 2", true, false, .active, 36), ("score", false, false, .active, 32),
        ("restart", false, true, .active, 32), ("score", false, false, .active, 36),
        ("q", false, false, .active, 36)] := by
    decide +kernel
  obtain ⟨won, rest, hSplit, hWon, hRest⟩ := List.map_eq_cons_iff.mp hCourse
  obtain ⟨asked, rest, rfl, hAsked, hRest⟩ := List.map_eq_cons_iff.mp hRest
  obtain ⟨again, rest, rfl, hAgain, hRest⟩ := List.map_eq_cons_iff.mp hRest
  obtain ⟨fresh, rest, rfl, hFresh, hRest⟩ := List.map_eq_cons_iff.mp hRest
  obtain ⟨last, rest, rfl, -, hRest⟩ := List.map_eq_cons_iff.mp hRest
  obtain rfl := List.map_eq_nil_iff.mp hRest
  simp only [Prod.mk.injEq] at hWon hAsked hAgain hFresh
  have hScore := (hFigures [] won _ hSplit).2.score
  have hAskedBoard := (hFigures [won] asked _ hSplit).2.board_of_score hAsked.2.2.2.1 hAsked.1
  have hFreshBoard :=
    (hFigures [won, asked, again] fresh _ hSplit).2.board_of_score hFresh.2.2.2.1 hFresh.1
  simp only [List.foldl_cons, List.foldl_nil, Progress.note, hWon, hAsked, hAgain, hFresh, if_true,
    Bool.false_eq_true, if_false] at hScore hAskedBoard hFreshBoard
  exact ⟨won, asked, again, fresh, last, hSplit, hWon.1, hScore, hAskedBoard, hAgain.1, hFreshBoard⟩

end Make24.Terminal
