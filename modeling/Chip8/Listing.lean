import Chip8.Instruction.Mnemonic

namespace Chip8

open Text

structure Listing.Line where
  addr : UInt16
  /-- The word, or the single byte at the end of an odd program. -/
  word : UInt16
  instruction : Option Instruction
  deriving DecidableEq

def Listing.Line.text (line : Listing.Line) : String :=
  let addr := hex 3 line.addr.toNat ++ ": "
  match line.instruction with
  | some i => addr ++ hex 4 line.word.toNat ++ "  " ++ i.mnemonic
  | none => addr ++ hex 2 line.word.toNat ++ "    DB " ++ hexMarked 2 line.word.toNat

/-- The listing of `program` as loaded at `origin`: words of two bytes, high byte first, decoded as if they were code,
and an odd byte at the end alone. Addresses wrap at sixteen bits. -/
def listing (origin : UInt16) : (program : List UInt8) → List Listing.Line
  | [] => []
  | [b] => [⟨origin, b.toUInt16, none⟩]
  | hi :: lo :: rest =>
    let word := Word.ofBytes hi lo
    ⟨origin, word, some (.decode word)⟩ :: listing (origin + 2) rest

def Listing.text (lines : List Listing.Line) : String :=
  String.join (lines.map fun line => line.text ++ "\n")

end Chip8
