import Chip8.Text.Pattern

namespace Chip8.Text.Pattern

abbrev ByteRanges := List (Nat × Nat)

def bytesOf (code : Nat) : List Nat := (String.utf8EncodeChar (Char.ofNat code)).map UInt8.toNat

/-- The first place where a range of characters has to be cut: between characters of different length, or where the
bytes after a changing byte do not take all their values. -/
def cut? (a b : Nat) : Option Nat :=
  match [0x7F, 0x7FF, 0xFFFF].find? fun m => decide (a ≤ m ∧ m < b) with
  | some m => some (m + 1)
  | none =>
    if b ≤ 0x7F then none
    else [64, 4096, 262144].findSome? fun unit =>
      if a / unit = b / unit then none
      else if a % unit ≠ 0 then some ((a / unit + 1) * unit)
      else if b % unit ≠ unit - 1 then some (b / unit * unit)
      else none

/-- The sequences of byte ranges of a range of characters, after so many cuts at most. -/
def byteRanges : Nat → Nat → Nat → List ByteRanges
  | 0, _, _ => []
  | n + 1, a, b =>
    match cut? a b with
    | some m => byteRanges n a (m - 1) ++ byteRanges n m b
    | none => [(bytesOf a).zip (bytesOf b)]

/-- The sequences of byte ranges of a set. More than sixteen cuts in a row do not occur. -/
def byteRangesOf (s : CharSet) : List ByteRanges := s.ranges.flatMap fun (a, b) => byteRanges 16 a b

def stateSize : Nat := 32

def rangeSize : Nat := 8

def choiceSize : Nat := 4

/-- Sequences grouped by their first ranges. -/
def grouped (seqs : List ByteRanges) : List (List ByteRanges) := seqs.splitBy fun a b => a.head? == b.head?

/-- What is left of sequences after their first ranges, group by group. -/
def followers (seqs : List ByteRanges) : List (List ByteRanges) :=
  ((grouped seqs).map fun g => g.map List.tail).filter fun g => g.any (!·.isEmpty)

/-- The size of the states for sequences, read forwards: one for each different rest. -/
def forwardSize (seqs : List ByteRanges) : Nat :=
  let second := followers seqs
  let third := second.flatMap followers
  let fourth := third.flatMap followers
  let rests := (seqs :: second ++ third ++ fourth).eraseDups
  rests.foldl (fun size r => size + stateSize + rangeSize * (grouped r).length) stateSize

/-- The size of the states for sequences, read backwards: one for each different start. -/
def backwardSize (seqs : List ByteRanges) : Nat :=
  let starts := (seqs.flatMap fun s => (List.range s.length).map fun k => s.take (k + 1)).eraseDups
  2 * stateSize + stateSize * starts.length + choiceSize * seqs.length

def setSize (backwards : Bool) (s : CharSet) : Nat :=
  match s.single? with
  | some c => stateSize * (bytesOf c).length
  | none =>
    if s.isAscii then 2 * stateSize + rangeSize * s.ranges.length
    else if backwards then backwardSize (byteRangesOf s)
    else forwardSize (byteRangesOf s)

/-- The least number of characters of a match, if there can be one. -/
def shortest : Pattern → Option Nat
  | .empty => some 0
  | .one s => if s.isEmpty then none else some 1
  | .meets _ => some 0
  | .seq p q => do return (← p.shortest) + (← q.shortest)
  | .either p q => do return min (← p.shortest) (← q.shortest)
  | .repeated least _ p => p.shortest.map (· * least)
  | .group p => p.shortest

def choice : Nat := stateSize + 2 * choiceSize

/-- The size of a repetition of a part with a given size; `moves` says whether the part takes characters. -/
def repeatedSize (least : Nat) (most : Option Nat) (moves : Bool) (size : Nat) : Nat :=
  match least, most with
  | 0, some 1 => size + choice + stateSize
  | 0, none => if moves then size + choice else size + 2 * choice + stateSize
  | least, none => least * size + choice
  | least, some most =>
    let first := if least = 0 then stateSize else least * size
    if most = least then first else first + stateSize + (most - least) * (choice + size)

/-- The size of the states for a pattern, as one of several branches and on its own. -/
def sizes (backwards : Bool) : Pattern → Nat × Nat
  | .either p q =>
    let branches := (sizes backwards p).1 + (sizes backwards q).1
    (branches, 2 * stateSize + branches)
  | .empty => (stateSize + choiceSize, stateSize)
  | .one s =>
    let size := setSize backwards s
    (size + choiceSize, size)
  | .meets _ => (stateSize + choiceSize, stateSize)
  | .seq p q =>
    let size := (sizes backwards p).2 + (sizes backwards q).2
    (size + choiceSize, size)
  | .repeated least most p =>
    let size := repeatedSize least most (p.shortest.any (0 < ·)) (sizes backwards p).2
    (size + choiceSize, size)
  | .group p =>
    let size := (sizes backwards p).2 + (if backwards then 0 else 2 * stateSize)
    (size + choiceSize, size)

/-- How many bytes a machine takes that matches a pattern byte by byte, skips what is before a match and notes its
end. Forwards the match is a group of its own. -/
def size (backwards : Bool) (p : Pattern) : Nat :=
  let skipping := choice + 2 * stateSize + rangeSize
  (sizes backwards p).2 + skipping + stateSize + (if backwards then 0 else 2 * stateSize)

def sizeLimit : Nat := 10485760

end Chip8.Text.Pattern
