import Chip8.Proofs.Display.Drawing

namespace Chip8.Display

/-- Where a place comes to lie when the screen is shifted to the right and down, around the torus. -/
def shift (dx dy : Int) (p : Place) : Place :=
  place ((p.val % columns + dx) % columns).toNat ((p.val / columns + dy) % rows).toNat

/-- The cells of a display in another order are cells. -/
theorem binary_ofFn (d : Display) (f : Place → Place) (p : Place) :
    (Vector.ofFn fun q => d.cells.get (f q)).get p ≤ 1 := by
  have hcell : (Vector.ofFn fun q => d.cells.get (f q)).get p = d.cells.get (f p) := Vector.getElem_ofFn p.isLt
  rw [hcell]
  exact d.binary (f p)

/-- The screen shifted to the right and down, around the torus. -/
def shifted (d : Display) (dx dy : Int) : Display where
  cells := .ofFn fun p => d.cells.get (shift (-dx) (-dy) p)
  dirty := d.dirty
  binary := d.binary_ofFn (shift (-dx) (-dy))

section Places

theorem shift_place (dx dy : Int) (x y : Nat) :
    shift dx dy (place x y) = place ((x + dx) % columns).toNat ((y + dy) % rows).toNat := by
  apply Fin.ext
  simp only [shift, place, columns, rows]
  omega

theorem column_shift (dx dy : Int) (p : Place) :
    ((shift dx dy p).val : Int) % columns = (p.val % columns + dx) % columns := by
  simp only [shift, place, columns, rows]
  omega

theorem row_shift (dx dy : Int) (p : Place) :
    ((shift dx dy p).val : Int) / columns = (p.val / columns + dy) % rows := by
  simp only [shift, place, columns, rows]
  omega

theorem shift_shift (dx dy ex ey : Int) (p : Place) :
    shift dx dy (shift ex ey p) = shift (ex + dx) (ey + dy) p := by
  rw [shift, column_shift, row_shift, Int.emod_add_emod, Int.emod_add_emod, Int.add_assoc, Int.add_assoc]
  rfl

theorem shift_zero (p : Place) : shift 0 0 p = p := by
  have hp := p.isLt
  unfold cellCount at hp
  apply Fin.ext
  simp only [shift, place, columns, rows]
  omega

/-- Shifts are the same a whole number of screens apart. -/
theorem shift_congr {dx dy ex ey : Int} (hx : dx % columns = ex % columns) (hy : dy % rows = ey % rows) :
    shift dx dy = shift ex ey := by
  funext p
  unfold shift
  rw [Int.add_emod, hx, ← Int.add_emod, Int.add_emod _ dy, hy, ← Int.add_emod]

theorem shift_neg_eq_iff {dx dy : Int} {p q : Place} : shift (-dx) (-dy) q = p ↔ q = shift dx dy p := by
  constructor
  · rintro rfl
    rw [shift_shift, Int.add_left_neg, Int.add_left_neg, shift_zero]
  · rintro rfl
    rw [shift_shift, Int.add_right_neg, Int.add_right_neg, shift_zero]

/-- A sprite comes to the places of the same sprite in the upper left corner, shifted. -/
theorem spritePlaces_eq_map_shift (x y : Nat) (sprite : List UInt8) :
    spritePlaces x y sprite = (spritePlaces 0 0 sprite).map (shift x y) := by
  induction sprite generalizing x y with
  | nil => rfl
  | cons bits below ih =>
    have hrow (c : Nat) : shift x y (place (0 + c) 0) = place (x + c) y := by
      rw [shift_place]
      apply Fin.ext
      simp only [place, columns, rows]
      omega
    -- the rows below lie one row down in both sprites
    have hbelow : (spritePlaces 0 1 below).map (shift x y) = spritePlaces x (y + 1) below := by
      rw [ih 0 1, ih x (y + 1), List.map_map]
      congr 1
      funext p
      rw [Function.comp_apply, shift_shift]
      congr 1 <;> omega
    simp only [spritePlaces, List.map_append, List.map_map, Function.comp_def, hrow, hbelow]

section Corners

variable {x x' y y' : Nat} (sprite : List UInt8)

/-- A sprite at a shifted corner comes to the shifted places. -/
theorem spritePlaces_shift {dx dy : Int} (hx : (x' : Int) % columns = (x + dx) % columns)
    (hy : (y' : Int) % rows = (y + dy) % rows) :
    spritePlaces x' y' sprite = (spritePlaces x y sprite).map (shift dx dy) := by
  rw [spritePlaces_eq_map_shift x' y', spritePlaces_eq_map_shift x y, List.map_map, shift_congr hx hy]
  congr 1
  funext p
  exact (shift_shift dx dy x y p).symm

/-- Sprites come to the same places a whole number of screens apart. -/
theorem spritePlaces_congr (hx : (x' : Int) % columns = x % columns) (hy : (y' : Int) % rows = y % rows) :
    spritePlaces x' y' sprite = spritePlaces x y sprite := by
  rw [spritePlaces_eq_map_shift x' y', spritePlaces_eq_map_shift x y, shift_congr hx hy]

end Corners

end Places

section Screens

variable (d : Display) (dx dy : Int)

theorem lit_shifted (p : Place) : (d.shifted dx dy).lit p = d.lit (shift (-dx) (-dy) p) := by
  have hcell : (d.shifted dx dy).cells[p] = d.cells.get (shift (-dx) (-dy) p) := Vector.getElem_ofFn p.isLt
  rw [lit, hcell]
  rfl

theorem lit_shift (p : Place) : (d.shifted dx dy).lit (shift dx dy p) = d.lit p := by
  rw [lit_shifted, shift_neg_eq_iff.mpr rfl]

theorem flip_shifted (p : Place) : (d.shifted dx dy).flip (shift dx dy p) = (d.flip p).shifted dx dy := by
  apply eq_of_lit
  · intro q
    simp only [lit_flip, lit_shifted, shift_neg_eq_iff]
  · rfl

theorem foldl_hit_shifted (collided : Bool) (places : List Place) :
    (places.map (shift dx dy)).foldl hit (d.shifted dx dy, collided) =
      ((places.foldl hit (d, collided)).1.shifted dx dy, (places.foldl hit (d, collided)).2) := by
  induction places generalizing d collided with
  | nil => rfl
  | cons p places ih =>
    rw [List.map_cons, List.foldl_cons, List.foldl_cons, hit_eq, hit_eq, flip_shifted, lit_shift]
    exact ih _ _

end Screens

/-- A column of the screen, counted around the torus. -/
def columnAt (x : Int) : UInt8 := .ofNat (x % columns).toNat

/-- A row of the screen, counted around the torus. -/
def rowAt (y : Int) : UInt8 := .ofNat (y % rows).toNat

theorem toNat_columnAt (x : Int) : ((columnAt x).toNat : Int) = x % columns := by
  rw [columnAt, UInt8.toNat_ofNat']
  unfold columns
  omega

theorem toNat_rowAt (y : Int) : ((rowAt y).toNat : Int) = y % rows := by
  rw [rowAt, UInt8.toNat_ofNat']
  unfold rows
  omega

theorem columnAt_emod (x : Int) : ((columnAt x).toNat : Int) % columns = x % columns := by
  rw [toNat_columnAt, Int.emod_emod]

theorem rowAt_emod (y : Int) : ((rowAt y).toNat : Int) % rows = y % rows := by
  rw [toNat_rowAt, Int.emod_emod]

/-- Drawing knows no edges: on a screen that is shifted around the torus it leaves, at the shifted corner, the
shifted screen that it leaves on the screen as it was, with the same collision; and a corner that lies beyond the
last column or row is as good as the one that it wraps around to. -/
theorem draw_shifted (d : Display) (x y : UInt8) (sprite : List UInt8) :
    (∀ dx dy : Int, (d.shifted dx dy).draw (columnAt (x.toNat + dx)) (rowAt (y.toNat + dy)) sprite =
      ((d.draw x y sprite).1.shifted dx dy, (d.draw x y sprite).2)) ∧
      d.draw (columnAt x.toNat) (rowAt y.toNat) sprite = d.draw x y sprite := by
  constructor
  · intro dx dy
    have hplaces := spritePlaces_shift sprite (columnAt_emod (x.toNat + dx)) (rowAt_emod (y.toNat + dy))
    rw [draw, hplaces]
    exact foldl_hit_shifted d dx dy false _
  · have hplaces := spritePlaces_congr sprite (columnAt_emod x.toNat) (rowAt_emod y.toNat)
    rw [draw, hplaces]
    rfl

end Chip8.Display
