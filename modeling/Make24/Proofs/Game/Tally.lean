import Mathlib
import Make24.Player
import Make24.Proofs.Game.Dealing

/-! The records of the players as a tally of the rounds won. The roster lists each known player
once, with the record that the rounds won by that player make up. Registering, awarding and
resetting keep it so, and the cards of all records together are the cards of the rounds won. -/

namespace Make24

open scoped List

/-- The rounds that a player won, out of all rounds won with their winners. -/
def roundsWon (won : List (String × Round)) (id : String) : List Round :=
  (won.filter fun win => win.1 = id).map Prod.snd

theorem roundsWon_append (earlier later : List (String × Round)) (id : String) :
    roundsWon (earlier ++ later) id = roundsWon earlier id ++ roundsWon later id := by
  simp [roundsWon]

/-- Among players that are listed once and include all winners, the rounds won are parted. -/
theorem perm_flatMap_roundsWon {ids : List String} {won : List (String × Round)}
    (hNodup : ids.Nodup) (hKnown : ∀ win ∈ won, win.1 ∈ ids) :
    (ids.flatMap (roundsWon won)).Perm (won.map Prod.snd) := by
  induction ids generalizing won with
  | nil =>
      have hNone : won = [] := List.eq_nil_iff_forall_not_mem.mpr fun win hMem => by
        simpa using hKnown win hMem
      simp [hNone]
  | cons id rest ih =>
      obtain ⟨hFresh, hRest⟩ := List.nodup_cons.mp hNodup
      -- The other players share out what is left when the first one's rounds are taken away.
      let others := won.filter fun win => !decide (win.1 = id)
      have hSame : rest.flatMap (roundsWon won) = rest.flatMap (roundsWon others) := by
        refine List.flatMap_congr fun other hOther => ?_
        have hNe : other ≠ id := fun hEq => hFresh (hEq ▸ hOther)
        simp only [roundsWon, others, List.filter_filter]
        congr 2
        funext win
        by_cases hWin : win.1 = other <;> simp [hWin, hNe]
      have hOthers : ∀ win ∈ others, win.1 ∈ rest := by
        intro win hMem
        obtain ⟨hWon, hNe⟩ := List.mem_filter.mp hMem
        simpa [show win.1 ≠ id by simpa using hNe] using hKnown win hWon
      rw [List.flatMap_cons, hSame]
      calc roundsWon won id ++ rest.flatMap (roundsWon others)
          _ ~ roundsWon won id ++ others.map Prod.snd := (ih hRest hOthers).append_left _
          _ = ((won.filter fun win => win.1 = id) ++ others).map Prod.snd := List.map_append.symm
          _ ~ won.map Prod.snd := (List.filter_append_perm _ won).map Prod.snd

/-- The record that rounds make up. -/
def Player.standing (id : String) (rounds : List Round) : Player where
  id := id
  score := min rounds.length Player.scoreLimit
  cards := Round.cardsOf rounds

theorem Player.standing_nil (id : String) : Player.standing id [] = { id } := rfl

theorem Player.award_standing (id : String) (rounds : List Round) (round : Round) :
    (Player.standing id rounds).award round = Player.standing id (rounds ++ [round]) := by
  simp [Player.standing, Player.award, Player.scoreLimit]
  omega

namespace Roster

/-- The record changed is the one found, or an empty one if the id is unknown. -/
theorem find?_update {roster : Roster} {id : String} {change : Player → Player}
    (hChange : ∀ player, (change player).id = player.id) :
    (roster.update id change).2.find? id = some (roster.update id change).1 := by
  unfold find? update
  dsimp only
  induction roster.players with
  | nil => simp [updateIn, hChange]
  | cons player rest ih =>
      by_cases hId : player.id = id
      · simp [updateIn, hId, hChange]
      · simpa [updateIn, hId] using ih

/-- The record with an id; an unknown id has no points and no cards. -/
def record (roster : Roster) (id : String) : Player :=
  (roster.find? id).getD { id }

/-- A change concerns the record of its id alone. -/
theorem record_update (roster : Roster) (id : String) (change : Player → Player)
    (hChange : ∀ player, player.id = id → (change player).id = id) (other : String) :
    (roster.update id change).2.record other =
      if other = id then change (roster.record id) else roster.record other := by
  unfold record find? update
  dsimp only
  induction roster.players with
  | nil =>
      by_cases hOther : other = id
      · simp [updateIn, hOther, hChange]
      · simp [updateIn, hOther, hChange, Ne.symm hOther]
  | cons player rest ih =>
      by_cases hId : player.id = id
      · by_cases hOther : other = id
        · simp [updateIn, hId, hOther, hChange]
        · simp [updateIn, hId, hOther, hChange, Ne.symm hOther]
      · by_cases hOther : player.id = other
        · have hNe : other ≠ id := hOther ▸ hId
          simp [updateIn, hOther, hNe]
        · simpa [updateIn, hId, hOther] using ih

theorem fst_update (roster : Roster) (id : String) (change : Player → Player) :
    (roster.update id change).1 = change (roster.record id) := by
  unfold record find? update
  dsimp only
  induction roster.players with
  | nil => simp [updateIn]
  | cons player rest ih =>
      by_cases hId : player.id = id
      · simp [updateIn, hId]
      · simpa [updateIn, hId] using ih

theorem id_record (roster : Roster) (id : String) : (roster.record id).id = id := by
  unfold record
  cases hFound : roster.find? id with
  | none => rfl
  | some player => simpa using List.find?_some hFound

theorem map_id_update (roster : Roster) (id : String) {change : Player → Player}
    (hChange : ∀ player, (change player).id = player.id) :
    (roster.update id change).2.players.map Player.id =
      if id ∈ roster.players.map Player.id then roster.players.map Player.id
      else roster.players.map Player.id ++ [id] := by
  unfold update
  dsimp only
  induction roster.players with
  | nil => simp [updateIn, hChange]
  | cons player rest ih =>
      by_cases hId : player.id = id
      · simp [updateIn, hId, hChange]
      · have hNe : id ≠ player.id := Ne.symm hId
        simp only [updateIn, hId, if_false, List.map_cons, ih, List.mem_cons, hNe, false_or]
        split <;> simp

theorem map_id_reset (roster : Roster) :
    roster.reset.players.map Player.id = roster.players.map Player.id := by
  rw [reset, List.map_map]
  rfl

/-- Registering changes no record: that of a new player is the one of an unknown id. -/
theorem record_register (roster : Roster) (id other : String) :
    (roster.register id).2.record other = roster.record other := by
  have hUpdate := roster.record_update id (fun player => player) (fun _ hId => hId) other
  rw [register, hUpdate]
  split
  case isTrue hOther => rw [hOther]
  case isFalse => rfl

theorem record_award (roster : Roster) (id other : String) (round : Round) :
    (roster.award id round).2.record other =
      if other = id then (roster.record id).award round else roster.record other :=
  roster.record_update id (fun player => player.award round) (fun _ hId => hId) other

theorem fst_award (roster : Roster) (id : String) (round : Round) :
    (roster.award id round).1 = (roster.record id).award round :=
  roster.fst_update id _

/-- A change in a table of records changes the record of the id, or adds it at the end. -/
theorem updateIn_map {ids : List String} {id : String} {change : Player → Player}
    {record record' : String → Player} (hNodup : ids.Nodup)
    (hId : ∀ other, (record other).id = other) (hNew : id ∉ ids → record id = { id })
    (hChange : change (record id) = record' id)
    (hOthers : ∀ other, other ≠ id → record' other = record other) :
    updateIn id change (ids.map record) =
      (record' id, (if id ∈ ids then ids else ids ++ [id]).map record') := by
  induction ids with
  | nil => simp [updateIn, ← hNew, hChange]
  | cons other rest ih =>
      obtain ⟨hFresh, hRest⟩ := List.nodup_cons.mp hNodup
      by_cases hSame : other = id
      · subst hSame
        have hKept : rest.map record = rest.map record' :=
          List.map_congr_left fun later hLater =>
            (hOthers later fun hEq => hFresh (hEq ▸ hLater)).symm
        simp [updateIn, hId, hChange, hKept]
      · have hIn : id ∈ other :: rest ↔ id ∈ rest := by simp [Ne.symm hSame]
        rw [hIn] at hNew
        simp only [List.map_cons, updateIn, hId, hSame, if_false, ih hRest hNew, hIn]
        split <;> simp [hOthers other hSame]

/-- Each known player is listed once with the record that the rounds won make up, and all winners
are known. -/
structure Tallies (roster : Roster) (won : List (String × Round)) (ids : List String) : Prop where
  players : roster.players = ids.map fun id => Player.standing id (roundsWon won id)
  nodup : ids.Nodup
  known : ∀ win ∈ won, win.1 ∈ ids

namespace Tallies

variable {roster : Roster} {won : List (String × Round)} {ids : List String}

theorem empty : Tallies {} [] [] := ⟨rfl, List.nodup_nil, by simp⟩

theorem roundsWon_eq_nil (tallies : Tallies roster won ids) {id : String} (hNew : id ∉ ids) :
    roundsWon won id = [] := by
  simp only [roundsWon, List.map_eq_nil_iff, List.filter_eq_nil_iff, decide_eq_true_eq]
  intro win hWin hId
  exact hNew (hId ▸ tallies.known win hWin)

/-- A change of one record that stands for winning some more rounds. -/
theorem update (tallies : Tallies roster won ids) (id : String) (change : Player → Player)
    (gained : List Round) (hChange : ∀ rounds,
      change (Player.standing id rounds) = Player.standing id (rounds ++ gained)) :
    ∃ ids', Tallies (roster.update id change).2 (won ++ gained.map fun round => (id, round))
      ids' := by
  have hOf : ∀ other, roundsWon (gained.map fun round => (id, round)) other =
      if id = other then gained else [] := by
    intro other
    by_cases hId : id = other <;> simp [roundsWon, List.filter_map, Function.comp_def, hId]
  let ids' := if id ∈ ids then ids else ids ++ [id]
  have hMem : ∀ other, other ∈ ids' ↔ other ∈ ids ∨ other = id := by
    intro other
    by_cases hIn : id ∈ ids
    · simp only [ids', hIn, if_true, iff_self_or]
      rintro rfl
      exact hIn
    · simp [ids', hIn]
  refine ⟨ids', ?_, ?_, ?_⟩
  · unfold Roster.update
    rw [tallies.players, updateIn_map tallies.nodup (fun _ => rfl)]
    · intro hNew
      rw [tallies.roundsWon_eq_nil hNew, Player.standing_nil]
    · rw [hChange, roundsWon_append, hOf, if_pos rfl]
    · intro other hOther
      rw [roundsWon_append, hOf, if_neg (Ne.symm hOther), List.append_nil]
  · by_cases hIn : id ∈ ids
    · simpa [ids', hIn] using tallies.nodup
    · simpa [ids', hIn] using tallies.nodup.concat hIn
  · intro win hWin
    rw [hMem]
    rcases List.mem_append.mp hWin with hEarlier | hGained
    · exact .inl (tallies.known win hEarlier)
    · obtain ⟨round, -, rfl⟩ := List.mem_map.mp hGained
      exact .inr rfl

theorem register (tallies : Tallies roster won ids) (id : String) :
    ∃ ids', Tallies (roster.register id).2 won ids' := by
  have hUpdate := tallies.update id (fun player => player) [] (by simp)
  rwa [List.map_nil, List.append_nil] at hUpdate

theorem award (tallies : Tallies roster won ids) (id : String) (round : Round) :
    ∃ ids', Tallies (roster.award id round).2 (won ++ [(id, round)]) ids' :=
  tallies.update id (fun player => player.award round) [round] fun rounds =>
    Player.award_standing id rounds round

theorem reset (tallies : Tallies roster won ids) : Tallies roster.reset [] ids := by
  refine ⟨?_, tallies.nodup, by simp⟩
  simp only [Roster.reset, tallies.players, List.map_map]
  rfl

/-- The cards of all records are those of the rounds won. -/
theorem perm_cards (tallies : Tallies roster won ids) :
    (roster.players.flatMap Player.cards).Perm (Round.cardsOf (won.map Prod.snd)) := by
  have hCards : roster.players.flatMap Player.cards =
      Round.cardsOf (ids.flatMap (roundsWon won)) := by
    rw [tallies.players, List.flatMap_map, Round.cardsOf, List.flatMap_assoc]
    rfl
  rw [hCards]
  exact (perm_flatMap_roundsWon tallies.nodup tallies.known).flatMap_right _

end Tallies

end Roster

end Make24
