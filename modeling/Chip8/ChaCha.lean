namespace Chip8.ChaCha

abbrev Block := Vector UInt32 16

/-- Rotates a word to the left by `n` bits, `0 < n < 32`. -/
def rotateLeft (w n : UInt32) : UInt32 := (w <<< n) ||| (w >>> (32 - n))

/-- Rotates a word to the right by `n` bits, `n < 32`; shifts are taken modulo 32. -/
def rotateRight (w n : UInt32) : UInt32 := (w >>> n) ||| (w <<< (32 - n))

/-- Adds word `b` to word `a`, then puts the rotated exclusive or of both into word `d`. -/
def mix (s : Block) (a b d : Fin 16) (n : UInt32) : Block :=
  let sum := s[a] + s[b]
  let turned := rotateLeft (s[d] ^^^ sum) n
  (s.set a sum a.isLt).set d turned d.isLt

def quarterRound (s : Block) (a b c d : Fin 16) : Block :=
  mix (mix (mix (mix s a b d 16) c d b 12) a b d 8) c d b 7

/-- A round down the columns and a round down the diagonals. -/
def doubleRound (s : Block) : Block :=
  let s := quarterRound s 0 4 8 12
  let s := quarterRound s 1 5 9 13
  let s := quarterRound s 2 6 10 14
  let s := quarterRound s 3 7 11 15
  let s := quarterRound s 0 5 10 15
  let s := quarterRound s 1 6 11 12
  let s := quarterRound s 2 7 8 13
  quarterRound s 3 4 9 14

/-- The generator that stretches a seed into a key: a linear congruence. -/
def seedStep (s : UInt64) : UInt64 := s * 6364136223846793005 + 11634580027462260723

def seedWord (s : UInt64) : UInt32 :=
  rotateRight ((((s >>> 18) ^^^ s) >>> 27).toUInt32) ((s >>> 59).toUInt32)

/-- The first `n` key words of a generator state. -/
def keyWords : Nat → UInt64 → List UInt32
  | 0, _ => []
  | n + 1, s => seedWord (seedStep s) :: keyWords n (seedStep s)

/-- The block before the rounds: the constant words, the key, the block number and two zeros. -/
def start (seed : UInt64) (number : Nat) : Block :=
  let words := [0x61707865, 0x3320646e, 0x79622d32, 0x6b206574] ++ keyWords 8 seed ++
    [UInt32.ofNat number, UInt32.ofNat (number / UInt32.size), 0, 0]
  Vector.ofFn fun k : Fin 16 => words.getD k 0

/-- The block with a given number: twelve rounds, then the sum with the block before them. -/
def block (seed : UInt64) (number : Nat) : Block :=
  let first := start seed number
  let mixed := Nat.repeat doubleRound 6 first
  Vector.ofFn fun k : Fin 16 => mixed[k] + first[k]

/-- Word `n` of the stream with twelve rounds: word `n % 16` of block `n / 16`. -/
def word (seed : UInt64) (n : Nat) : UInt32 :=
  (block seed (n / 16))[n % 16]

end Chip8.ChaCha
