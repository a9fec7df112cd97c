import Chip8.ChaCha

namespace Chip8

inductive Random.Stream where
  | seeded (seed : UInt64)
  /-- The given bytes over and over; zero if there are none. -/
  | tape (bytes : List UInt8)
  deriving DecidableEq

/-- Byte `n` of a stream, counted from zero. -/
def Random.Stream.byte : Random.Stream → Nat → UInt8
  | .seeded seed, n => (ChaCha.word seed n).toUInt8
  | .tape bytes, n => bytes.getD (n % bytes.length) 0

/-- A stream and the number of bytes already taken from it. Taking one is the only operation, so a stream is never
rewound. -/
structure Random where
  stream : Random.Stream
  taken : Nat
  deriving DecidableEq

namespace Random

def ofSeed (seed : UInt64) : Random := ⟨.seeded seed, 0⟩

def offer (r : Random) : UInt8 := r.stream.byte r.taken

def advance (r : Random) : Random := { r with taken := r.taken + 1 }

end Random

end Chip8
