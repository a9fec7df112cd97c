namespace Chip8.Text

/-- A set of characters: ranges of code points in ascending order, apart from each other, ends included. Surrogates
are no characters: no set has one, so a set is empty exactly when it has no ranges. -/
structure CharSet where
  ranges : List (Nat × Nat)
  /-- Whether the set is known to have its characters in every case. -/
  caseClosed : Bool
  deriving DecidableEq

namespace CharSet

def lastCode : Nat := 0x10FFFF

def within (rs : List (Nat × Nat)) (c : Char) : Bool := rs.any fun r => decide (r.1 ≤ c.toNat ∧ c.toNat ≤ r.2)

def has (s : CharSet) (c : Char) : Bool := within s.ranges c

def empty : CharSet := ⟨[], true⟩

def isEmpty (s : CharSet) : Bool := s.ranges.isEmpty

def characters (r : Nat × Nat) : List (Nat × Nat) :=
  [(r.1, min r.2 0xD7FF), (max r.1 0xE000, r.2)].filter fun r => decide (r.1 ≤ r.2)

def joined (r : Nat × Nat) : List (Nat × Nat) → List (Nat × Nat)
  | [] => [r]
  | s :: rest => if s.1 ≤ r.2 + 1 then joined (r.1, max r.2 s.2) rest else r :: joined s rest

def normal (rs : List (Nat × Nat)) : List (Nat × Nat) :=
  match rs.mergeSort fun a b => decide (a.1 ≤ b.1) with
  | [] => []
  | r :: rest => joined r rest

def ofRanges (rs : List (Nat × Nat)) : CharSet := ⟨normal (rs.flatMap characters), rs.isEmpty⟩

def union (a b : CharSet) : CharSet :=
  if b.isEmpty || a.ranges == b.ranges then a
  else ⟨normal (a.ranges ++ b.ranges), a.caseClosed && b.caseClosed⟩

def gaps (first : Nat) : List (Nat × Nat) → List (Nat × Nat)
  | [] => if first ≤ lastCode then [(first, lastCode)] else []
  | (a, b) :: rest => if first < a then (first, a - 1) :: gaps (b + 1) rest else gaps (b + 1) rest

/-- The characters that are not in some ranges. -/
def others (rs : List (Nat × Nat)) : List (Nat × Nat) := (gaps 0 rs).flatMap characters

def complement (s : CharSet) : CharSet := ⟨others s.ranges, s.isEmpty || s.caseClosed⟩

def inter (a b : CharSet) : CharSet :=
  if a.isEmpty then a
  else if b.isEmpty then empty
  else ⟨others (normal (others a.ranges ++ others b.ranges)), a.caseClosed && b.caseClosed⟩

/-- The characters of a set that are not in another one. -/
def diff (a b : CharSet) : CharSet :=
  if a.isEmpty || b.isEmpty then a
  else ⟨others (normal (others a.ranges ++ b.ranges)), a.caseClosed && b.caseClosed⟩

/-- The characters that are in one of two sets only. -/
def symmDiff (a b : CharSet) : CharSet := (a.union b).diff (a.inter b)

/-- Whether a set has characters of ASCII only. -/
def isAscii (s : CharSet) : Bool := s.ranges.all fun r => decide (r.2 ≤ 0x7F)

def single? (s : CharSet) : Option Nat :=
  match s.ranges with
  | [(a, b)] => if a = b then some a else none
  | _ => none

/-- The part of a range that another one has, moved by so many code points up or down. -/
def shifted (distance : Int) (low high : Nat) (r : Nat × Nat) : List (Nat × Nat) :=
  let a := max r.1 low
  let b := min r.2 high
  if a ≤ b then [((a + distance).toNat, (b + distance).toNat)] else []

def withCases (s : CharSet) : CharSet :=
  ⟨normal (s.ranges ++ s.ranges.flatMap (shifted (-32) 0x61 0x7A) ++ s.ranges.flatMap (shifted 32 0x41 0x5A)),
    true⟩

def digits : List (Nat × Nat) := [(0x30, 0x39)]

def blanks : List (Nat × Nat) := [(0x9, 0xD), (0x20, 0x20)]

def words : List (Nat × Nat) := [(0x30, 0x39), (0x41, 0x5A), (0x5F, 0x5F), (0x61, 0x7A)]

def named? : String → Option (List (Nat × Nat))
  | "alnum" => some [(0x30, 0x39), (0x41, 0x5A), (0x61, 0x7A)]
  | "alpha" => some [(0x41, 0x5A), (0x61, 0x7A)]
  | "ascii" => some [(0x0, 0x7F)]
  | "blank" => some [(0x9, 0x9), (0x20, 0x20)]
  | "cntrl" => some [(0x0, 0x1F), (0x7F, 0x7F)]
  | "digit" => some digits
  | "graph" => some [(0x21, 0x7E)]
  | "lower" => some [(0x61, 0x7A)]
  | "print" => some [(0x20, 0x7E)]
  | "punct" => some [(0x21, 0x2F), (0x3A, 0x40), (0x5B, 0x60), (0x7B, 0x7E)]
  | "space" => some blanks
  | "upper" => some [(0x41, 0x5A)]
  | "word" => some words
  | "xdigit" => some [(0x30, 0x39), (0x41, 0x46), (0x61, 0x66)]
  | _ => none

end CharSet

end Chip8.Text
