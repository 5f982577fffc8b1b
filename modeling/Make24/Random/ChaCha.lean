/-! The ChaCha stream with eight rounds: words that a key of eight words decides, produced in
blocks of sixteen. A block is the state scrambled by four double rounds and added to itself. -/

namespace Make24.ChaCha

/-- Four rows of four words: constants, two rows of key, and a row of counter and stream number. -/
abbrev Block := Vector UInt32 16

abbrev Key := Vector UInt32 8

def rotateLeft (word : UInt32) (bits : UInt32) : UInt32 :=
  word <<< bits ||| word >>> (32 - bits)

/-- Scrambles four words of a block. -/
def quarterRound (block : Block) (a b c d : Fin 16) : Block :=
  let a₁ := block[a] + block[b]
  let d₁ := rotateLeft (block[d] ^^^ a₁) 16
  let c₁ := block[c] + d₁
  let b₁ := rotateLeft (block[b] ^^^ c₁) 12
  let a₂ := a₁ + b₁
  let d₂ := rotateLeft (d₁ ^^^ a₂) 8
  let c₂ := c₁ + d₂
  let b₂ := rotateLeft (b₁ ^^^ c₂) 7
  (((block.set a a₂).set b b₂).set c c₂).set d d₂

/-- One round down the columns and one along the diagonals. -/
def doubleRound (block : Block) : Block :=
  let columns :=
    quarterRound (quarterRound (quarterRound (quarterRound block
      0 4 8 12) 1 5 9 13) 2 6 10 14) 3 7 11 15
  quarterRound (quarterRound (quarterRound (quarterRound columns
    0 5 10 15) 1 6 11 12) 2 7 8 13) 3 4 9 14

/-- The state before scrambling: the text "expand 32-byte k", the key, a 64-bit counter with its low
word first, and stream number zero. -/
def initial (key : Key) (counter : UInt64) : Block :=
  let constants : Vector UInt32 4 := #v[0x61707865, 0x3320646e, 0x79622d32, 0x6b206574]
  let place : Vector UInt32 4 := #v[counter.toUInt32, (counter >>> 32).toUInt32, 0, 0]
  constants ++ key ++ place

/-- The sixteen words with a block number. -/
def block (key : Key) (counter : UInt64) : Block :=
  let start := initial key counter
  let scrambled := doubleRound (doubleRound (doubleRound (doubleRound start)))
  scrambled.zipWith (· + ·) start

/-- The word at a position of the stream; the counter of blocks wraps after 64 bits. -/
def word (key : Key) (position : Nat) : UInt32 :=
  (block key (position / 16).toUInt64)[position % 16]

end Make24.ChaCha
