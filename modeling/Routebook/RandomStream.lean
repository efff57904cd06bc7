namespace Routebook

/-!
# Reproducible random numbers

Numeric examples are drawn from a stream of random words, so that a seed fixes every example
of a document.  The stream is ChaCha with twelve rounds under a key that is grown from the
seed.  A stream is its key and a position: the word at a position is computed from the two,
and drawing a number moves the position.
-/

namespace ChaCha

/-- Sixteen words: the state of the cipher and a block of its output. -/
abbrev Block := Vector UInt32 16

def rotateLeft (word amount : UInt32) : UInt32 :=
  (word <<< amount) ||| (word >>> (32 - amount))

def quarterRound (block : Block) (a b c d : Fin 16) : Block :=
  let block := block.set a (block[a] + block[b])
  let block := block.set d (rotateLeft (block[d] ^^^ block[a]) 16)
  let block := block.set c (block[c] + block[d])
  let block := block.set b (rotateLeft (block[b] ^^^ block[c]) 12)
  let block := block.set a (block[a] + block[b])
  let block := block.set d (rotateLeft (block[d] ^^^ block[a]) 8)
  let block := block.set c (block[c] + block[d])
  block.set b (rotateLeft (block[b] ^^^ block[c]) 7)

/-- A round on the columns and a round on the diagonals. -/
def doubleRound (block : Block) : Block :=
  let block := quarterRound block 0 4 8 12
  let block := quarterRound block 1 5 9 13
  let block := quarterRound block 2 6 10 14
  let block := quarterRound block 3 7 11 15
  let block := quarterRound block 0 5 10 15
  let block := quarterRound block 1 6 11 12
  let block := quarterRound block 2 7 8 13
  quarterRound block 3 4 9 14

/-- Twelve rounds, that is six double rounds. -/
def rounds (block : Block) : Block :=
  Nat.repeat doubleRound 6 block

/-- The state of a key and a block number.  It begins with the text "expand 32-byte k". -/
def start (key : Vector UInt32 8) (number : UInt64) : Block :=
  #v[0x61707865, 0x3320646e, 0x79622d32, 0x6b206574,
     key[0], key[1], key[2], key[3], key[4], key[5], key[6], key[7],
     number.toUInt32, (number >>> 32).toUInt32, 0, 0]

def block (key : Vector UInt32 8) (number : UInt64) : Block :=
  let initial := start key number
  (rounds initial).zipWith (· + ·) initial

end ChaCha

/-- A stream of random words at a position. -/
structure RandomStream where
  key : Vector UInt32 8
  position : Nat
  deriving DecidableEq

namespace RandomStream

/-- The next state of the generator that grows a key. -/
def growSeed (state : UInt64) : UInt64 :=
  state * 6364136223846793005 + 11634580027462260723

/-- The key word of a state: its high bits are mixed into its low ones, and its highest five
bits turn the result to the right. -/
def keyWord (state : UInt64) : UInt32 :=
  let mixed := (((state >>> 18) ^^^ state) >>> 27).toUInt32
  let amount := (state >>> 59).toUInt32
  (mixed >>> amount) ||| (mixed <<< ((32 - amount) % 32))

/-- The key of a seed: the words of the eight states after it. -/
def keyOf (seed : UInt64) : Vector UInt32 8 :=
  Vector.ofFn fun index => keyWord (Nat.repeat growSeed (index.val + 1) seed)

def ofSeed (seed : UInt64) : RandomStream :=
  ⟨keyOf seed, 0⟩

def word (stream : RandomStream) : UInt32 :=
  (ChaCha.block stream.key (UInt64.ofNat (stream.position / 16))).get
    (Fin.ofNat 16 stream.position)

def advance (stream : RandomStream) (count : Nat) : RandomStream :=
  { stream with position := stream.position + count }

/-- The next two words as a number, the low word first. -/
def pair (stream : RandomStream) : Nat :=
  stream.word.toNat + 0x100000000 * (stream.advance 1).word.toNat

/-- Examples are below this bound. -/
def bound : Nat := 1000

/-- Products of a pair and the bound whose low half is at most this are accepted; the others
would favour some of the results. -/
def acceptance : Nat := bound * 0x40000000000000 - 1

/-- The first accepted number among a count of pairs.  A pair is rejected about once in
forty times. -/
def drawWithin (stream : RandomStream) : Nat → Nat × RandomStream
  | 0 => (0, stream)
  | count + 1 =>
    let product := stream.pair * bound
    let next := stream.advance 2
    if product % 0x10000000000000000 ≤ acceptance then (product / 0x10000000000000000, next)
    else drawWithin next count

/-- The next number below `bound` and the stream behind it. -/
def draw (stream : RandomStream) : Nat × RandomStream :=
  stream.drawWithin 1024

theorem pair_lt (stream : RandomStream) : stream.pair < 0x10000000000000000 := by
  have low := stream.word.toNat_lt
  have high := (stream.advance 1).word.toNat_lt
  unfold pair
  omega

theorem drawWithin_lt (stream : RandomStream) (count : Nat) :
    (stream.drawWithin count).1 < bound := by
  induction count generalizing stream with
  | zero => exact (by decide : 0 < bound)
  | succ count inductionHypothesis =>
    rw [drawWithin]
    split
    · exact Nat.div_lt_of_lt_mul (Nat.mul_lt_mul_of_pos_right stream.pair_lt (by decide))
    · exact inductionHypothesis _

theorem draw_lt (stream : RandomStream) : stream.draw.1 < bound :=
  drawWithin_lt stream 1024

def drawMany (stream : RandomStream) : Nat → List Nat
  | 0 => []
  | count + 1 => stream.draw.1 :: drawMany stream.draw.2 count

end RandomStream
end Routebook
