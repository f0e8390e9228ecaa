/-!
# Faces — the keystream

A `Keystream.Key` of eight 32-bit words determines an endless sequence of 32-bit words: ChaCha
with twelve rounds, a 64-bit block counter that starts at zero, and a nonce of zero.  Word number
`n` is a function of the key and of `n` alone (`Key.word`), so a position in the sequence is a
number and moving on is adding to it.
-/

namespace TabletopDice.Keystream

/-- Eight words that determine a keystream. -/
abbrev Key := Vector UInt32 8

/-- Sixteen words: the state of the cipher, and one block of the keystream. -/
abbrev Block := Vector UInt32 16

/-- `x` rotated to the left by `n` bits. -/
def rotateLeft (x n : UInt32) : UInt32 := (x <<< n) ||| (x >>> (32 - n))

/-- Mixes the four words at the given places. -/
def Block.quarterRound (i j k l : Fin 16) (s : Block) : Block :=
  let a := s[i] + s[j]
  let d := rotateLeft (s[l] ^^^ a) 16
  let c := s[k] + d
  let b := rotateLeft (s[j] ^^^ c) 12
  let a := a + b
  let d := rotateLeft (d ^^^ a) 8
  let c := c + d
  let b := rotateLeft (b ^^^ c) 7
  (((s.set i a).set j b).set k c).set l d

/-- Mixes the four columns and then the four diagonals. -/
def Block.doubleRound (s : Block) : Block :=
  let s := s.quarterRound 0 4 8 12
  let s := s.quarterRound 1 5 9 13
  let s := s.quarterRound 2 6 10 14
  let s := s.quarterRound 3 7 11 15
  let s := s.quarterRound 0 5 10 15
  let s := s.quarterRound 1 6 11 12
  let s := s.quarterRound 2 7 8 13
  s.quarterRound 3 4 9 14

/-- The state before the rounds: four constants, the key, the counter and the nonce. -/
def Key.start (key : Key) (counter : UInt64) : Block :=
  #v[0x61707865, 0x3320646e, 0x79622d32, 0x6b206574,
    key[0], key[1], key[2], key[3], key[4], key[5], key[6], key[7],
    counter.toUInt32, (counter >>> 32).toUInt32, 0, 0]

/-- The block with this counter: the state after twelve rounds, added to the state before them. -/
def Key.block (key : Key) (counter : UInt64) : Block :=
  let start := key.start counter
  Vector.zipWith (· + ·) (Nat.repeat Block.doubleRound 6 start) start

/-- Word number `n` of the keystream. -/
def Key.word (key : Key) (n : Nat) : UInt32 :=
  (key.block (UInt64.ofNat (n / 16))).get ⟨n % 16, Nat.mod_lt n (by decide)⟩

/-! ### Keys from seeds -/

/-- The step of the number sequence that expands a seed. -/
def seedStep (s : UInt64) : UInt64 := s * 6364136223846793005 + 11634580027462260723

/-- The word that a number of the sequence gives. -/
def seedWord (s : UInt64) : UInt32 :=
  let x := (((s >>> 18) ^^^ s) >>> 27).toUInt32
  rotateLeft x ((32 : UInt32) - (s >>> 59).toUInt32)

/-- The key of a seed: the words of the first eight numbers after it. -/
def Key.ofSeed (seed : UInt64) : Key :=
  Vector.ofFn fun i : Fin 8 => seedWord (Nat.repeat seedStep (i.val + 1) seed)

end TabletopDice.Keystream
