import Make24.Game.Run
import Make24.Main
import Make24.Proofs.Puzzle.Rendering
import Make24.Proofs.Puzzle.Taming
import Make24.Proofs.Game.Conservation
import Make24.Proofs.Game.Scores
import Make24.Proofs.Game.Refusal
import Make24.Proofs.Game.Trace
import Make24.Proofs.Game.Mirror
import Make24.Proofs.Game.Schedule
import Make24.Proofs.Game.Staging
import Make24.Proofs.Game.Ledger
import Make24.Proofs.Game.Registry
import Make24.Proofs.Game.Renewal
import Make24.Proofs.Terminal.Figures
import Make24.Proofs.Terminal.Typing
import Make24.Proofs.Random.Fairness
import Make24.Proofs.Random.Sampling
import Make24.Proofs.Submission.Viability
import Make24.Proofs.Submission.Gates
import Make24.Proofs.Search.Order
import Make24.Proofs.Game.Journal
import Make24.Proofs.Submission.Totality
