import Make24.Random.ChaCha
import Make24.Random.Words

/-! A source of random words. It is a key, which the seed decides, and the number of words taken so
far; nothing else is remembered. -/

namespace Make24

structure Generator where
  key : ChaCha.Key
  position : Nat
deriving DecidableEq

namespace Generator

/-- One step of the linear congruential sequence that stretches a seed into a key. -/
def advance (state : UInt64) : UInt64 :=
  state * 6364136223846793005 + 11634580027462260723

/-- A word of the key from a state of the sequence: its high bits folded down and turned to the
right by its five highest bits. -/
def keyWord (state : UInt64) : UInt32 :=
  let folded := (((state >>> 18) ^^^ state) >>> 27).toUInt32
  let turn := (state >>> 59).toUInt32
  folded >>> turn ||| folded <<< ((32 - turn) % 32)

/-- The state after some steps from a seed. -/
def stateAfter (seed : UInt64) : Nat → UInt64
  | 0 => seed
  | steps + 1 => advance (stateAfter seed steps)

/-- The generator of a seed, with no word taken. -/
def ofSeed (seed : UInt64) : Generator :=
  ⟨Vector.ofFn fun place => keyWord (stateAfter seed (place.val + 1)), 0⟩

/-- The stream that the words are taken from. -/
def words (generator : Generator) : Words := ChaCha.word generator.key

end Generator

end Make24
