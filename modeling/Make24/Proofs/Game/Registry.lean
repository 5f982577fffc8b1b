import Mathlib
import Make24.Proofs.Game.Scores

/-! The players that a game knows. They become known by being registered or by scoring, in this
order and once each; nothing forgets them or changes their order, and a record is changed by its own
player's points and by a restart alone. -/

namespace Make24

/-- Puts an id behind those that are known, unless it is one of them. -/
def enroll (ids : List String) (id : String) : List String :=
  if id ∈ ids then ids else ids ++ [id]

section Enroll

variable {ids : List String} {id : String}

theorem mem_enroll_iff {other : String} : other ∈ enroll ids id ↔ other ∈ ids ∨ other = id := by
  unfold enroll
  split
  case isTrue hKnown =>
    rw [iff_self_or]
    rintro rfl
    exact hKnown
  case isFalse => simp

theorem prefix_enroll (ids : List String) (id : String) : ids <+: enroll ids id := by
  unfold enroll
  split
  · exact List.prefix_refl _
  · exact List.prefix_append _ _

theorem nodup_enroll (hNodup : ids.Nodup) (id : String) : (enroll ids id).Nodup := by
  unfold enroll
  split
  case isTrue => exact hNodup
  case isFalse hNew => simpa using hNodup.concat hNew

theorem mem_foldl_enroll_iff {newcomers : List String} :
    id ∈ newcomers.foldl enroll ids ↔ id ∈ ids ∨ id ∈ newcomers := by
  induction newcomers generalizing ids with
  | nil => simp
  | cons newcomer rest ih => rw [List.foldl_cons, ih, mem_enroll_iff, List.mem_cons, or_assoc]

theorem prefix_foldl_enroll (ids newcomers : List String) :
    ids <+: newcomers.foldl enroll ids := by
  induction newcomers generalizing ids with
  | nil => exact List.prefix_refl _
  | cons newcomer rest ih => exact (prefix_enroll ids newcomer).trans (ih (enroll ids newcomer))

theorem nodup_foldl_enroll (hNodup : ids.Nodup) (newcomers : List String) :
    (newcomers.foldl enroll ids).Nodup := by
  induction newcomers generalizing ids with
  | nil => exact hNodup
  | cons newcomer rest ih => exact ih (nodup_enroll hNodup newcomer)

end Enroll

namespace Roster

variable {roster : Roster} {id : String} {change : Player → Player}

def ids (roster : Roster) : List String := roster.players.map Player.id

theorem ids_update (roster : Roster) (id : String)
    (hChange : ∀ player, (change player).id = player.id) :
    (roster.update id change).2.ids = enroll roster.ids id :=
  roster.map_id_update id hChange

theorem ids_reset (roster : Roster) : roster.reset.ids = roster.ids :=
  roster.map_id_reset

/-- Where ids are distinct, a search finds the record of the id. -/
theorem find?_eq_some_iff (hNodup : roster.ids.Nodup) {player : Player} :
    roster.find? id = some player ↔ player ∈ roster.players ∧ player.id = id := by
  constructor
  · intro hFound
    exact ⟨List.mem_of_find?_eq_some hFound, by simpa using List.find?_some hFound⟩
  · rintro ⟨hMem, rfl⟩
    cases hFound : roster.find? player.id with
    | none => simpa using List.find?_eq_none.mp hFound player hMem
    | some other =>
        have hId : other.id = player.id := by simpa using List.find?_some hFound
        rw [List.inj_on_of_nodup_map hNodup (List.mem_of_find?_eq_some hFound) hMem hId]

theorem exists_find?_iff : (∃ player, roster.find? id = some player) ↔ id ∈ roster.ids := by
  rw [← Option.isSome_iff_exists, find?, List.find?_isSome, ids, List.mem_map]
  simp only [decide_eq_true_eq]

/-- A change concerns the search for its own id alone. -/
theorem find?_update_of_ne (hChange : ∀ player, (change player).id = player.id) {other : String}
    (hOther : other ≠ id) : (roster.update id change).2.find? other = roster.find? other := by
  unfold find? update
  dsimp only
  induction roster.players with
  | nil => simp [updateIn, hChange, hOther.symm]
  | cons player rest ih =>
      by_cases hId : player.id = id
      · simp [updateIn, hId, hChange, hOther.symm]
      · by_cases hFirst : player.id = other
        · simp [updateIn, hFirst, hOther]
        · simpa [updateIn, hId, hFirst] using ih

/-- Registering finds the record of a known id and appends an empty one for an unknown id. -/
theorem register_eq (roster : Roster) (id : String) :
    roster.register id =
      match roster.find? id with
      | some player => (player, roster)
      | none => ({ id }, ⟨roster.players ++ [{ id }]⟩) := by
  have hRow (players : List Player) : updateIn id (fun player => player) players =
      match players.find? fun player => player.id = id with
      | some player => (player, players)
      | none => ({ id }, players ++ [{ id }]) := by
    induction players with
    | nil => rfl
    | cons player rest ih =>
        by_cases hId : player.id = id
        · simp [updateIn, hId]
        · rw [updateIn, if_neg hId, ih, List.find?_cons_of_neg (by simpa using hId)]
          cases rest.find? fun player => player.id = id <;> rfl
  unfold register update find?
  rw [hRow]
  cases roster.players.find? fun player => player.id = id <;> rfl

end Roster

/-- Whom a command makes known by what came of it, unless known before. -/
def Command.enrolled : Command → Reply → List String
  | .addPlayer id, _ => [id]
  | .attempt id _, .attempted (.ok (.scored _)) => [id]
  | _, _ => []

namespace Game

/-- Whom the commands of a run make known, unless known before. -/
def enrolled (game : Game) : List Command → List String
  | [] => []
  | command :: rest =>
      let step := game.perform command
      command.enrolled step.result ++ step.game.enrolled rest

/-- A player was registered in the course of a run, or made an attempt that scored. -/
def Introduces (game : Game) (commands : List Command) (id : String) : Prop :=
  .addPlayer id ∈ commands ∨ ∃ earlier text later score,
    commands = earlier ++ .attempt id text :: later ∧
      ((game.after earlier).attempt id text).result = .ok (.scored score)

theorem Move.ids {game : Game} {command : Command} {step : Step Reply}
    (move : Move game command step) :
    step.game.roster.ids = (command.enrolled step.result).foldl enroll game.roster.ids := by
  cases move with
  | started hPhase hDealt => exact congrArg Roster.ids hDealt.roster_eq
  | restarted hDealt => exact (congrArg Roster.ids hDealt.roster_eq).trans game.roster.ids_reset
  | won hRound hText hValue hAward hDealt =>
      obtain rfl := congrArg Prod.snd hAward
      exact (congrArg Roster.ids hDealt.roster_eq).trans (game.roster.ids_update _ fun _ => rfl)
  | skipped hRound hDealt => exact congrArg Roster.ids hDealt.roster_eq
  | registered hRegister =>
      obtain rfl := congrArg Prod.snd hRegister
      exact game.roster.ids_update _ fun _ => rfl
  | _ => rfl

theorem ids_after (game : Game) (commands : List Command) :
    (game.after commands).roster.ids = (game.enrolled commands).foldl enroll game.roster.ids := by
  induction commands generalizing game with
  | nil => rfl
  | cons command rest ih =>
      rw [enrolled, List.foldl_append, ← (move_perform game command).ids]
      exact ih (game.perform command).game

theorem mem_enrolled_perform_iff {game : Game} {command : Command} {id : String} :
    id ∈ command.enrolled (game.perform command).result ↔
      command = .addPlayer id ∨ ∃ text score, command = .attempt id text ∧
        (game.attempt id text).result = .ok (.scored score) := by
  cases command with
  | addPlayer other => simp [Command.enrolled, eq_comm]
  | attempt other text =>
      have hReply : (game.perform (.attempt other text)).result =
          .attempted (game.attempt other text).result := rfl
      rw [hReply]
      by_cases hId : other = id
      · subst hId
        rcases hResult : (game.attempt other text).result with
          refusal | ⟨score⟩ | value | rejection <;>
          simp [Command.enrolled, hResult]
      · rcases (game.attempt other text).result with refusal | ⟨score⟩ | value | rejection <;>
          simp [Command.enrolled, hId, Ne.symm hId]
  | _ => simp [Command.enrolled]

/-- Whom a run makes known are those whom it introduces. -/
theorem mem_enrolled_iff {game : Game} {commands : List Command} {id : String} :
    id ∈ game.enrolled commands ↔ game.Introduces commands id := by
  induction commands generalizing game with
  | nil => simp [enrolled, Introduces]
  | cons command rest ih =>
      rw [enrolled, List.mem_append, mem_enrolled_perform_iff, ih]
      constructor
      · rintro ((rfl | ⟨text, score, rfl, hScored⟩) | (hAdded | ⟨earlier, text, later, score, rfl,
          hScored⟩))
        · exact .inl List.mem_cons_self
        · exact .inr ⟨[], text, rest, score, rfl, hScored⟩
        · exact .inl (List.mem_cons_of_mem _ hAdded)
        · exact .inr ⟨command :: earlier, text, later, score, rfl, hScored⟩
      · rintro (hAdded | ⟨earlier, text, later, score, hSplit, hScored⟩)
        · rcases List.mem_cons.mp hAdded with rfl | hRest
          · exact .inl (.inl rfl)
          · exact .inr (.inl hRest)
        · cases earlier with
          | nil =>
              obtain ⟨rfl, rfl⟩ := List.cons.inj hSplit
              exact .inl (.inr ⟨text, score, rfl, hScored⟩)
          | cons first others =>
              obtain ⟨rfl, rfl⟩ := List.cons.inj hSplit
              exact .inr (.inr ⟨others, text, later, score, rfl, hScored⟩)

/-- Adding a player appends an empty record for an unknown id and does nothing else. -/
theorem addPlayer_eq (game : Game) (id : String) :
    (game.addPlayer id).result = game.roster.record id ∧
      (game.addPlayer id).game =
        match game.roster.find? id with
        | some _ => game
        | none => { game with roster := ⟨game.roster.players ++ [{ id }]⟩ } := by
  unfold addPlayer Roster.record
  rw [Roster.register_eq]
  cases game.roster.find? id <;> exact ⟨rfl, rfl⟩

/-- An attempt leaves all other records alone. -/
theorem find?_attempt_of_ne (game : Game) {id text other : String} (hOther : other ≠ id) :
    (game.attempt id text).game.roster.find? other = game.roster.find? other := by
  have move := move_attempt game id text
  change ((game.attempt id text).map Reply.attempted).game.roster.find? other = _
  generalize (game.attempt id text).map Reply.attempted = step at move ⊢
  cases move with
  | attemptRefused | invalid | incorrect => rfl
  | won hRound hText hValue hAward hDealt =>
      obtain rfl := congrArg Prod.snd hAward
      rw [hDealt.roster_eq]
      refine Roster.find?_update_of_ne ?_ hOther
      exact fun _ => rfl

/-- After any commands:

* no two players have the same id, so that a search finds the player with an id, and it finds one
  exactly for the ids that were registered or whose attempt scored at some time;
* the ids that are known are, in the same order, the first of those known after any further
  commands; a restart keeps the records in their places and takes points and cards away;
* registering gives the record with the id, an empty one if there was none, which is then appended,
  and it changes nothing else in the game;
* an attempt changes no record but that of the player who makes it. -/
theorem registry_grows_after (options : Options) (seed : UInt64) (commands : List Command) :
    let game := (new options seed).after commands
    (game.roster.ids.Nodup ∧
      (∀ id player, game.roster.find? id = some player ↔
        player ∈ game.roster.players ∧ player.id = id) ∧
      ∀ id, (∃ player, game.roster.find? id = some player) ↔
        .addPlayer id ∈ commands ∨ ∃ earlier text later score,
          commands = earlier ++ .attempt id text :: later ∧
            (((new options seed).after earlier).attempt id text).result =
              .ok (.scored score)) ∧
    ((∀ later, game.roster.ids <+: (game.after later).roster.ids) ∧
      game.restart.game.roster.players =
        game.roster.players.map fun player => { player with score := 0, cards := [] }) ∧
    (∀ id, (game.addPlayer id).result.id = id ∧
      (game.addPlayer id).game.roster.find? id = some (game.addPlayer id).result ∧
      ((∃ player, game.roster.find? id = some player ∧ (game.addPlayer id).result = player ∧
          (game.addPlayer id).game = game) ∨
        game.roster.find? id = none ∧ (game.addPlayer id).result = { id, score := 0, cards := [] } ∧
          (game.addPlayer id).game = { game with
            roster := ⟨game.roster.players ++ [{ id, score := 0, cards := [] }]⟩ })) ∧
    ∀ id text other, other ≠ id →
      (game.attempt id text).game.roster.find? other = game.roster.find? other := by
  intro game
  have hIds : game.roster.ids = ((new options seed).enrolled commands).foldl enroll [] :=
    (new options seed).ids_after commands
  have hNodup : game.roster.ids.Nodup := by
    rw [hIds]
    exact nodup_foldl_enroll List.nodup_nil _
  refine ⟨⟨hNodup, fun id player => Roster.find?_eq_some_iff hNodup, fun id => ?_⟩,
    ⟨fun later => ?_, congrArg Roster.players (dealing_deal _).roster_eq⟩, fun id => ?_,
    fun id text other hOther => game.find?_attempt_of_ne hOther⟩
  · rw [Roster.exists_find?_iff, hIds, mem_foldl_enroll_iff, mem_enrolled_iff]
    simp [Introduces]
  · rw [game.ids_after later]
    exact prefix_foldl_enroll _ _
  · obtain ⟨hResult, hGame⟩ := game.addPlayer_eq id
    refine ⟨?_, Roster.find?_update fun _ => rfl, ?_⟩
    · rw [hResult]
      exact game.roster.id_record id
    · rw [hResult, hGame, Roster.record]
      cases hFound : game.roster.find? id with
      | some player => exact .inl ⟨player, rfl, rfl, rfl⟩
      | none => exact .inr ⟨rfl, rfl, rfl⟩

/-- A registered player stays without points when another scores for the first time. -/
theorem registry_grows_after_score :
    "cat" ≠ "ann" ∧
      (((new {} 7).after [.addPlayer "cat", .start]).attempt "ann"
          "10 * 2 + 2 + 2").game.roster.find? "cat" =
        ((new {} 7).after [.addPlayer "cat", .start]).roster.find? "cat" ∧
      ((((new {} 7).after [.addPlayer "cat", .start]).attempt "ann"
          "10 * 2 + 2 + 2").game.roster.find? "ann").map Player.score = some 1 := by
  have hRegistry := registry_grows_after {} 7 [.addPlayer "cat", .start]
  have hNe : "cat" ≠ "ann" := by decide
  exact ⟨hNe, hRegistry.2.2.2 "ann" "10 * 2 + 2 + 2" "cat" hNe, by decide +kernel⟩

end Game

end Make24
