/-! The ChaCha key stream with 12 rounds, read as double words.

The state of a block is sixteen words: four constants, the key of eight words, a counter of two
words, the low one first, and two words that are zero. A block is the state after twelve rounds,
added word by word to the state before them. The stream is the blocks of the counters 0, 1, 2, …
in order; each block holds eight double words. -/

namespace PromptWeave

namespace KeyStream

/-- The key of a stream. -/
abbrev Key := Vector UInt32 8

/-- The sixteen words of a block. -/
abbrev Block := Vector UInt32 16

/-- The word with its bits turned left by `n` places, for `n` from 1 to 31. -/
def rotateLeft (w n : UInt32) : UInt32 :=
  (w <<< n) ||| (w >>> (32 - n))

/-- One step on four words of a block. -/
def quarterRound (v : Block) (a b c d : Fin 16) : Block :=
  let v := v.set a (v[a] + v[b])
  let v := v.set d (rotateLeft (v[d] ^^^ v[a]) 16)
  let v := v.set c (v[c] + v[d])
  let v := v.set b (rotateLeft (v[b] ^^^ v[c]) 12)
  let v := v.set a (v[a] + v[b])
  let v := v.set d (rotateLeft (v[d] ^^^ v[a]) 8)
  let v := v.set c (v[c] + v[d])
  v.set b (rotateLeft (v[b] ^^^ v[c]) 7)

/-- One round on the columns of a block and one on its diagonals. -/
def doubleRound (v : Block) : Block :=
  let v := quarterRound v 0 4 8 12
  let v := quarterRound v 1 5 9 13
  let v := quarterRound v 2 6 10 14
  let v := quarterRound v 3 7 11 15
  let v := quarterRound v 0 5 10 15
  let v := quarterRound v 1 6 11 12
  let v := quarterRound v 2 7 8 13
  quarterRound v 3 4 9 14

/-- The state before the rounds. The constants spell "expand 32-byte k". -/
def initial (key : Key) (counter : UInt64) : Block :=
  let constants : Vector UInt32 4 := #v[0x61707865, 0x3320646e, 0x79622d32, 0x6b206574]
  let ending : Vector UInt32 4 := #v[counter.toUInt32, (counter >>> 32).toUInt32, 0, 0]
  constants ++ key ++ ending

/-- The block of a counter. -/
def block (key : Key) (counter : UInt64) : Block :=
  let start := initial key counter
  (Nat.repeat doubleRound 6 start).zipWith (· + ·) start

/-- The `n`-th double word of the stream, made of two words of one block, the low one first. -/
def doubleWord (key : Key) (n : Nat) : UInt64 :=
  let words := block key (UInt64.ofNat (n / 8))
  let low := words.get ⟨2 * (n % 8), by omega⟩
  let high := words.get ⟨2 * (n % 8) + 1, by omega⟩
  low.toUInt64 ||| (high.toUInt64 <<< 32)

/-! ## Keys from seeds -/

/-- One step of the congruential generator that spreads a seed over a key. -/
def spread (state : UInt64) : UInt64 :=
  state * 6364136223846793005 + 11634580027462260723

/-- The key word that a state of the generator gives. -/
def keyWord (state : UInt64) : UInt32 :=
  let folded := (((state >>> 18) ^^^ state) >>> 27).toUInt32
  let turn := (state >>> 59).toUInt32
  (folded >>> turn) ||| (folded <<< ((32 - turn) % 32))

/-- The key of a seed: the words of eight steps of the generator. -/
def keyOfSeed (seed : UInt64) : Key :=
  Vector.ofFn fun i : Fin 8 => keyWord (Nat.repeat spread (i + 1) seed)

end KeyStream

end PromptWeave
