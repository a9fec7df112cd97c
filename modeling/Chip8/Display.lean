import Chip8.Frame

namespace Chip8

namespace Display

def columns : Nat := 64

def rows : Nat := 32

def cellCount : Nat := 2048

/-- The place of a cell, counted row by row from the top left. -/
abbrev Place := Fin cellCount

def place (x y : Nat) : Place := ⟨x % 64 + 64 * (y % 32), by unfold cellCount; omega⟩

end Display

/-- The screen: one byte for a cell, 1 where it is lit and 0 where it is dark, and the dirty flag. -/
structure Display where
  cells : Vector UInt8 Display.cellCount
  dirty : Bool
  binary : ∀ p : Display.Place, cells[p] ≤ 1
  deriving DecidableEq

namespace Display

theorem binary_iff {b : UInt8} : b ≤ 1 ↔ b = 0 ∨ b = 1 := by
  rw [UInt8.le_iff_toNat_le, ← UInt8.toNat_inj, ← UInt8.toNat_inj]
  exact Nat.le_one_iff_eq_zero_or_eq_one

theorem binary_flip {b : UInt8} (h : b ≤ 1) : b ^^^ 1 ≤ 1 := by
  rcases binary_iff.mp h with rfl | rfl <;> decide

def blank : Display := ⟨.replicate cellCount 0, true, fun p => by simp⟩

def clear (_ : Display) : Display := blank

def lit (d : Display) (p : Place) : Bool := d.cells[p] != 0

/-- Whether the cell in column `x` and row `y` is lit; there is no answer beyond the last cell. -/
def pixel? (d : Display) (x y : Nat) : Option Bool := d.cells[x + y * columns]?.map (· != 0)

def flip (d : Display) (p : Place) : Display where
  cells := d.cells.set p (d.cells[p] ^^^ 1) p.isLt
  dirty := true
  binary q := by
    by_cases h : p.val = q.val
    · simpa [h] using binary_flip (d.binary q)
    · simpa [h] using d.binary q

theorem lit_blank (p : Place) : blank.lit p = false := by simp [blank, lit]

theorem cell_eq (d : Display) (p : Place) : d.cells[p] = if d.lit p then 1 else 0 := by
  rcases binary_iff.mp (d.binary p) with h | h <;> simp [lit, h]

/-- A cell is lit exactly if its byte is 1, which is what a drawing asks. -/
theorem cell_beq_one (d : Display) (p : Place) : (d.cells[p] == 1) = d.lit p := by
  rw [cell_eq]
  cases d.lit p <;> rfl

theorem lit_flip (d : Display) (p q : Place) :
    (d.flip p).lit q = if q = p then !d.lit q else d.lit q := by
  by_cases h : q = p
  · subst h
    have hflip : (d.flip q).lit q = ((d.cells[q] ^^^ 1) != 0) := by simp [lit, flip]
    rw [hflip, cell_eq, if_pos rfl]
    cases d.lit q <;> rfl
  · have : p.val ≠ q.val := fun e => h (Fin.ext e.symm)
    simp [lit, flip, h, this]

theorem cells_eq_of_lit {d e : Display} (h : ∀ p, d.lit p = e.lit p) : d.cells = e.cells := by
  apply Vector.ext
  intro k hk
  have hd := d.cell_eq ⟨k, hk⟩
  rw [h, ← e.cell_eq] at hd
  exact hd

theorem eq_of_lit {d e : Display} (hc : ∀ p, d.lit p = e.lit p) (hd : d.dirty = e.dirty) : d = e := by
  have hcells := cells_eq_of_lit hc
  obtain ⟨cells, dirty, _⟩ := d
  obtain ⟨others, flag, _⟩ := e
  cases hcells
  cases hd
  rfl

/-- Flips one cell and notes in the flag whether it held a 1. -/
def hit (acc : Display × Bool) (p : Place) : Display × Bool :=
  (acc.1.flip p, acc.2 || acc.1.cells[p] == 1)

theorem hit_eq (acc : Display × Bool) (p : Place) : hit acc p = (acc.1.flip p, acc.2 || acc.1.lit p) := by
  rw [hit, cell_beq_one]

/-- The columns of the set bits of a sprite row, the highest bit being column 0. -/
def setColumns (bits : UInt8) : List Nat :=
  (List.range 8).filter fun c => bits.toNat.testBit (7 - c)

/-- The places that a sprite with its corner at column `x` and row `y` flips, in drawing order. A sprite
taller than the screen comes to the same place more than once. -/
def spritePlaces (x y : Nat) : (sprite : List UInt8) → List Place
  | [] => []
  | bits :: below => (setColumns bits).map (fun c => place (x + c) y) ++ spritePlaces x (y + 1) below

/-- Draws a sprite with its corner at column `x` and row `y`; also says whether a lit cell went dark. -/
def draw (d : Display) (x y : UInt8) (sprite : List UInt8) : Display × Bool :=
  (spritePlaces x.toNat y.toNat sprite).foldl hit (d, false)

/-- The dirty flag, and the display with the flag taken down. -/
def takeDirty (d : Display) : Bool × Display := (d.dirty, { d with dirty := false })

/-- The cells of row `y` from left to right. -/
def row (d : Display) (y : Nat) : List Bool :=
  (List.range columns).map fun x => d.lit (place x y)

/-- One line per row, with `#` for a lit cell and a point for a dark one. -/
def text (d : Display) : String :=
  String.ofList ((List.range rows).flatMap fun y =>
    (d.row y).map (fun on => if on then '#' else '.') ++ ['\n'])

def litColor : UInt32 := 0xFFFFFFFF

def darkColor : UInt32 := 0xFF000000

def frame (d : Display) : Frame :=
  ⟨64, 32, d.cells.toList.map fun cell => if cell != 0 then litColor else darkColor⟩

end Display

end Chip8
