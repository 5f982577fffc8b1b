import Mathlib
import Make24.Proofs.Game.Coherence

/-! No card is lost or doubled. As long as the deck is the one that was built, a deal moves four of
its cards to the discards, since a deck without doubles loses just the cards dealt. -/

namespace Make24.Game

open scoped List

/-- Deck and discards share out the full deck, and those left to deal are still in its order. -/
structure Whole (game : Game) : Prop where
  perm : (game.deck ++ game.discards).Perm game.options.deck
  sublist : game.deck.Sublist game.options.deck

variable {game game' : Game} {chronicle chronicle' : Chronicle} {dealt : Step Bool}

/-- A game is whole as soon as its deck is built and nothing is dealt. -/
theorem Whole.of_built (hDeck : game.deck = game.options.deck) (hDiscards : game.discards = []) :
    Whole game where
  perm := by rw [hDeck, hDiscards, List.append_nil]
  sublist := hDeck ▸ List.Sublist.refl _

theorem Whole.nodup (h : Whole game) : (game.deck ++ game.discards).Nodup :=
  h.perm.nodup_iff.mpr game.options.nodup_deck

/-- The four cards dealt are in the deck once each, so they are all that leaves it. -/
theorem Whole.dealing (h : Whole game) (hDealt : Dealing game dealt) : Whole dealt.game := by
  cases hDealt with
  | exhausted short => exact ⟨h.perm, h.sublist⟩
  | @dealt round generator enough hPick hCards =>
      refine ⟨?_, List.filter_sublist.trans h.sublist⟩
      have hDeck := Round.removeFrom_append_perm h.nodup.of_append_left hCards
      calc round.removeFrom game.deck ++ (game.discards ++ round.cards.toList)
          _ ~ round.removeFrom game.deck ++ (round.cards.toList ++ game.discards) :=
              List.perm_append_comm.append_left _
          _ = round.removeFrom game.deck ++ round.cards.toList ++ game.discards :=
              (List.append_assoc ..).symm
          _ ~ game.deck ++ game.discards := hDeck.append_right _
          _ ~ game.options.deck := h.perm

theorem Dealing.options_eq (hDealt : Dealing game dealt) : dealt.game.options = game.options := by
  cases hDealt <;> rfl

theorem Advance.options_eq (advance : Advance game chronicle game' chronicle') :
    game'.options = game.options := by
  cases advance with
  | quiet | registered | replaced => rfl
  | started hPhase hDealt => exact hDealt.options_eq
  | restarted hDealt => exact hDealt.options_eq
  | won hPhase hRound hDealt => exact hDealt.options_eq
  | skipped hPhase hDealt => exact hDealt.options_eq

/-- A coherent game of some options, whole unless the deck was replaced. -/
structure Conserved (options : Options) (game : Game) (chronicle : Chronicle) : Prop
    extends Coherent game chronicle where
  options_eq : game.options = options
  whole : chronicle.deckReplaced = false → Whole game

/-- Every command keeps a game whole, or makes it whole by building the deck, unless it replaces
the deck. -/
theorem Conserved.advance {options : Options} (h : Conserved options game chronicle)
    (advance : Advance game chronicle game' chronicle') :
    Conserved options game' chronicle' := by
  refine ⟨h.toCoherent.advance advance, advance.options_eq.trans h.options_eq, ?_⟩
  intro hBuilt
  cases advance with
  | quiet observers => exact { h.whole hBuilt with }
  | registered player => exact { h.whole hBuilt with }
  | replaced cards => cases hBuilt
  | started hPhase hDealt =>
      -- Nothing was dealt before the start, so the new deck repeats no discard.
      have hDiscards : game.discards = [] := by
        rw [h.discards, h.notStarted hPhase]
        rfl
      refine Whole.dealing ?_ hDealt
      exact Whole.of_built rfl hDiscards
  | restarted hDealt =>
      refine Whole.dealing ?_ hDealt
      exact Whole.of_built rfl rfl
  | won hPhase hRound hDealt =>
      refine Whole.dealing ?_ hDealt
      exact { h.whole hBuilt with }
  | skipped hPhase hDealt => exact (h.whole hBuilt).dealing hDealt

theorem conserved_after (options : Options) (seed : UInt64) (commands : List Command) :
    Conserved options ((new options seed).after commands)
      ((new options seed).chronicle commands) :=
  after_along Conserved.advance commands
    ⟨coherent_new options seed, rfl, fun _ => Whole.of_built rfl rfl⟩

/-- Unless the deck was replaced after it was last built, the cards left to deal and the discards
are together the full deck, each card once, and the cards left are in its order. -/
theorem cards_conserved_after (options : Options) (seed : UInt64) (commands : List Command)
    (hBuilt : ((new options seed).chronicle commands).deckReplaced = false) :
    let game := (new options seed).after commands
    (game.deck ++ game.discards).Perm options.deck ∧ (game.deck ++ game.discards).Nodup ∧
      game.deck.Sublist options.deck := by
  intro game
  have hConserved := conserved_after options seed commands
  have hWhole := hConserved.whole hBuilt
  have hPerm := hWhole.perm
  have hSublist := hWhole.sublist
  rw [hConserved.options_eq] at hPerm hSublist
  exact ⟨hPerm, hWhole.nodup, hSublist⟩

/-- A deck of one card that is in no full deck ends the session; after the restart every card is
back. -/
theorem cards_conserved_after_restart :
    let commands : List Command :=
      [.addPlayer "ann", .start, .skip "ann", .replaceDeck [⟨.clubs, 200⟩], .skip "ben", .restart,
        .skip "ann", .attempt "ben" "1 + 1"]
    let game := (new { faceCards := true } 7).after commands
    ((new { faceCards := true } 7).chronicle commands).deckReplaced = false ∧
      (game.deck ++ game.discards).Perm (Options.deck { faceCards := true }) ∧
      (game.deck ++ game.discards).Nodup ∧
      game.deck.Sublist (Options.deck { faceCards := true }) :=
  ⟨by decide +kernel, cards_conserved_after { faceCards := true } 7 _ (by decide +kernel)⟩

end Make24.Game
