import Mathlib
import Make24.Proofs.Game.Coherence

/-! What deals depend on. A deal reads the cards on the table and the generator, and nothing reads
or moves these but deals and the building of a deck. So two games of the same seed and options deal
alike for as long as they deal on the same occasions, whoever plays them and however. -/

namespace Make24

/-- What a deal is for. -/
inductive Occasion where
  /-- The first deal of a session, off a deck that was just built. -/
  | fresh
  /-- A deal off the cards that the one before it left. -/
  | next
deriving DecidableEq, Repr

/-- The occasion of the deal that a command can bring about. -/
def Command.occasion : Command → Occasion
  | .start | .restart => .fresh
  | _ => .next

/-- A deal and the cards as they lie after it. -/
structure Deal where
  occasion : Occasion
  round : Round
  deck : List Card
  discards : List Card
deriving DecidableEq

/-- All that deals read and change. -/
structure Table where
  options : Options
  deck : List Card
  discards : List Card
  generator : Generator

namespace Table

variable {table : Table}

/-- The table as a deal finds it: for the first deal of a session it is cleared. -/
def prepare (table : Table) : Occasion → Table
  | .fresh => { table with deck := table.options.deck, discards := [] }
  | .next => table

/-- A deal of a round off a table leaves another table. -/
inductive Deals (table : Table) : Round → Table → Prop where
  | deal {round : Round} {generator : Generator} (enough : Round.size ≤ table.deck.length)
      (hPick : table.generator.pickRound table.deck enough = (round, generator)) :
      Deals table round { table with
        deck := round.removeFrom table.deck
        discards := table.discards ++ round.cards.toList
        generator }

/-- The deals are made one after the other from a table on. -/
inductive Course : Table → List Deal → Prop where
  | nil {table : Table} : Course table []
  | cons {table next : Table} {occasion : Occasion} {round : Round} {rest : List Deal}
      (hDeal : (table.prepare occasion).Deals round next) (hRest : Course next rest) :
      Course table (⟨occasion, round, next.deck, next.discards⟩ :: rest)

/-- A table can be dealt off in one way only. -/
theorem Deals.unique {round round' : Round} {next next' : Table} (h : table.Deals round next)
    (h' : table.Deals round' next') : round = round' ∧ next = next' := by
  cases h with
  | deal enough hPick =>
      cases h' with
      | deal enough' hPick' =>
          obtain ⟨rfl, rfl⟩ := Prod.mk.inj (hPick.symm.trans hPick')
          exact ⟨rfl, rfl⟩

/-- Deals from one table agree for as long as their occasions do. -/
theorem Course.take_eq {first second : List Deal} (hFirst : Course table first)
    (hSecond : Course table second) {count : Nat}
    (hOccasions : (first.map Deal.occasion).take count = (second.map Deal.occasion).take count) :
    first.take count = second.take count := by
  induction count generalizing table first second with
  | zero => rfl
  | succ count ih =>
      cases hFirst with
      | nil =>
          cases hSecond with
          | nil => rfl
          | cons => cases hOccasions
      | cons hDeal hRest =>
          cases hSecond with
          | nil => cases hOccasions
          | cons hDeal' hRest' =>
              obtain ⟨rfl, hLater⟩ := List.cons.inj hOccasions
              obtain ⟨rfl, rfl⟩ := hDeal.unique hDeal'
              exact congrArg (List.cons _) (ih hRest hRest' hLater)

end Table

namespace Game

/-- The cards of a game and its generator. -/
def table (game : Game) : Table where
  options := game.options
  deck := game.deck
  discards := game.discards
  generator := game.generator

/-- The deals of a run, in order. -/
def deals (game : Game) : List Command → List Deal
  | [] => []
  | command :: rest =>
      let step := game.perform command
      (step.dealt.map fun round =>
        ⟨command.occasion, round, step.game.deck, step.game.discards⟩) ++ step.game.deals rest

/-- The occasions of a run's deals, in order. -/
def schedule (game : Game) (commands : List Command) : List Occasion :=
  (game.deals commands).map Deal.occasion

theorem deals_cons (game : Game) (command : Command) (rest : List Command) :
    game.deals (command :: rest) =
      ((game.perform command).dealt.map fun round =>
        ⟨command.occasion, round, (game.perform command).game.deck,
          (game.perform command).game.discards⟩) ++ (game.perform command).game.deals rest :=
  rfl

theorem deals_append (game : Game) (first second : List Command) :
    game.deals (first ++ second) = game.deals first ++ (game.after first).deals second := by
  induction first generalizing game with
  | nil => rfl
  | cons command rest ih =>
      rw [List.cons_append, deals_cons, deals_cons, ih, List.append_assoc]
      rfl

/-- A deal off a deck that is too short deals nothing and leaves the table as it is. -/
theorem Dealing.table_cases {game : Game} {dealt : Step Bool} (hDealt : Dealing game dealt) :
    (dealt.dealt = [] ∧ dealt.game.table = game.table) ∨
      ∃ round, dealt.dealt = [round] ∧ game.table.Deals round dealt.game.table := by
  cases hDealt with
  | dealt enough hPick => exact .inr ⟨_, rfl, .deal enough hPick⟩
  | exhausted => exact .inl ⟨rfl, rfl⟩

theorem Dealing.exists_deals {game : Game} {dealt : Step Bool} (hDealt : Dealing game dealt)
    (hDeck : game.deck = game.options.deck) :
    ∃ round, dealt.dealt = [round] ∧ game.table.Deals round dealt.game.table := by
  cases hDealt with
  | dealt enough hPick => exact ⟨_, rfl, .deal enough hPick⟩
  | exhausted short => exact absurd (hDeck ▸ short) (not_short_deck game.options)

variable {game : Game} {chronicle : Chronicle}

theorem Coherent.discards_eq_nil (h : Coherent game chronicle)
    (hPhase : game.phase = .notStarted) : game.discards = [] := by
  rw [h.discards, h.notStarted hPhase]
  rfl

/-- A command either leaves the table as it is or makes one deal off it. -/
theorem Coherent.table_cases (h : Coherent game chronicle) {command : Command}
    {step : Step Reply} (move : Move game command step)
    (hCommand : ∀ cards, command ≠ .replaceDeck cards) :
    (step.dealt = [] ∧ step.game.table = game.table) ∨
      ∃ round, step.dealt = [round] ∧
        (game.table.prepare command.occasion).Deals round step.game.table := by
  cases move with
  | startRefused | attemptRefused | skipRefused | invalid | incorrect | listening | removed =>
      exact .inl ⟨rfl, rfl⟩
  | registered hRegister => exact .inl ⟨Step.dealt_registered, rfl⟩
  | @replaced cards => exact absurd rfl (hCommand cards)
  | @started hPhase dealt hDealt =>
      obtain ⟨round, hRound, hDeals⟩ := hDealt.exists_deals rfl
      -- Nothing was dealt before the start, so it finds the table that a restart clears.
      have hTable : table { game with deck := game.options.deck } =
          game.table.prepare .fresh := by
        simp [table, Table.prepare, h.discards_eq_nil hPhase]
      exact .inr ⟨round, hRound, hTable ▸ hDeals⟩
  | restarted hDealt =>
      rw [Step.dealt_restarted]
      exact .inr (hDealt.exists_deals rfl)
  | won hRound hText hValue hAward hDealt =>
      rw [Step.dealt_won]
      exact hDealt.table_cases
  | skipped hRound hDealt =>
      rw [Step.dealt_skipped]
      exact hDealt.table_cases

theorem Coherent.course_deals (h : Coherent game chronicle) {commands : List Command}
    (hCommands : ∀ cards, .replaceDeck cards ∉ commands) :
    game.table.Course (game.deals commands) := by
  induction commands generalizing game chronicle with
  | nil => exact .nil
  | cons command rest ih =>
      have move := move_perform game command
      have hFirst : ∀ cards, command ≠ .replaceDeck cards := fun cards hCommand =>
        hCommands cards (hCommand ▸ List.mem_cons_self)
      have hRest := ih (h.advance (move.advance chronicle)) fun cards hMem =>
        hCommands cards (List.mem_cons_of_mem _ hMem)
      rw [deals_cons]
      rcases h.table_cases move hFirst with ⟨hDealt, hTable⟩ | ⟨round, hDealt, hDeals⟩
      · rw [hDealt]
        exact hTable ▸ hRest
      · rw [hDealt]
        exact .cons hDeals hRest

/-- The first deal of a new game is the same whether it is started or restarted. -/
theorem exists_first_deal (options : Options) (seed : UInt64) :
    ∃ deal, (new options seed).deals [.start] = [deal] ∧
      (new options seed).deals [.restart] = [deal] := by
  obtain ⟨round, hRound, -⟩ := (dealing_deal (new options seed)).exists_deals rfl
  have hStart : ((new options seed).perform .start).dealt = [round] := hRound
  have hRestart : ((new options seed).perform .restart).dealt = [round] :=
    Step.dealt_restarted.trans hRound
  let left := ((new options seed).perform .start).game
  refine ⟨⟨.fresh, round, left.deck, left.discards⟩, ?_, ?_⟩
  · rw [deals_cons, hStart]
    rfl
  · rw [deals_cons, hRestart]
    rfl

/-- Two games of the same options and seed, with any commands that leave the deck alone, deal the
same rounds and leave the same decks and discards, for as long as the occasions of their deals
agree. In particular the first deal is the same whether the game is started or restarted. -/
theorem deals_eq_of_schedule (options : Options) (seed : UInt64) {first second : List Command}
    (hFirst : ∀ cards, .replaceDeck cards ∉ first)
    (hSecond : ∀ cards, .replaceDeck cards ∉ second) {count : Nat}
    (hSchedule : ((new options seed).schedule first).take count =
      ((new options seed).schedule second).take count) :
    ((new options seed).deals first).take count = ((new options seed).deals second).take count ∧
      ∃ deal, (new options seed).deals [.start] = [deal] ∧
        (new options seed).deals [.restart] = [deal] := by
  have hNew := coherent_new options seed
  have hDeals := (hNew.course_deals hFirst).take_eq (hNew.course_deals hSecond) hSchedule
  exact ⟨hDeals, exists_first_deal options seed⟩

/-- One game is started, won once and restarted. The other is restarted at once, and players fail
and give up. They share two deals and part at the third. -/
theorem deals_eq_of_schedule_two :
    let first : List Command := [.start, .attempt "ann" "10 * 2 + 2 + 2", .restart]
    let second : List Command :=
      [.addPlayer "ben", .restart, .start, .attempt "ben" "24", .on .roundDealt, .skip "ann",
        .attempt "ben" "8 * (7 - 3 - 1)"]
    let game := new {} 7
    ((∀ cards, .replaceDeck cards ∉ first) ∧ (∀ cards, .replaceDeck cards ∉ second) ∧
      game.schedule first = [.fresh, .next, .fresh] ∧
      game.schedule second = [.fresh, .next, .next]) ∧
      (game.deals first).take 2 = (game.deals second).take 2 := by
  intro first second game
  have hFirst : ∀ cards, .replaceDeck cards ∉ first := by simp [first]
  have hSecond : ∀ cards, .replaceDeck cards ∉ second := by simp [second]
  have hFresh : game.schedule first = [.fresh, .next, .fresh] := by decide +kernel
  have hNext : game.schedule second = [.fresh, .next, .next] := by decide +kernel
  have hSchedule : (game.schedule first).take 2 = (game.schedule second).take 2 := by
    rw [hFresh, hNext]
    rfl
  exact ⟨⟨hFirst, hSecond, hFresh, hNext⟩,
    (deals_eq_of_schedule {} 7 hFirst hSecond hSchedule).1⟩

end Game

end Make24
