import Make24.Game.Command

/-! Runs of a game: the steps that a list of commands makes one after the other. -/

namespace Make24.Game

/-- The steps of the commands, each from where the one before it led. -/
def steps (game : Game) : List Command → List (Step Reply)
  | [] => []
  | command :: rest =>
      let step := game.perform command
      step :: step.game.steps rest

/-- The game that the commands lead to. -/
def after (game : Game) (commands : List Command) : Game :=
  commands.foldl (fun game command => (game.perform command).game) game

theorem after_append (game : Game) (first second : List Command) :
    game.after (first ++ second) = (game.after first).after second := by
  simp [after]

theorem steps_append (game : Game) (first second : List Command) :
    game.steps (first ++ second) = game.steps first ++ (game.after first).steps second := by
  induction first generalizing game with
  | nil => rfl
  | cons command rest ih => simp [steps, after, ih]

end Make24.Game
