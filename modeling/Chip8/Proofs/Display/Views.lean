import Chip8.Proofs.Display.Overlay

namespace Chip8.Display

/-- The character that shows a cell in the text. -/
def glyph (on : Bool) : Char := if on then '#' else '.'

/-- The colour that shows a cell in the picture. -/
def colour (on : Bool) : UInt32 := if on then litColor else darkColor

theorem glyph_eq_lit_iff : ∀ {on : Bool}, glyph on = '#' ↔ on = true := by decide

theorem colour_eq_lit_iff : ∀ {on : Bool}, colour on = litColor ↔ on = true := by decide

theorem glyph_injective : ∀ {a b : Bool}, glyph a = glyph b → a = b := by decide

theorem colour_injective : ∀ {a b : Bool}, colour a = colour b → a = b := by decide

/-- The lines of the text, without their ends. -/
def lines (d : Display) : List (List Char) := (List.range rows).map fun y => (d.row y).map glyph

section Text

variable (d : Display)

theorem toList_text : d.text.toList = d.lines.flatMap (· ++ ['\n']) := by
  rw [text, String.toList_ofList, lines, List.flatMap_map]
  rfl

theorem length_lines : d.lines.length = 32 := by
  rw [lines, List.length_map, List.length_range, rows]

variable {d} {line : List Char}

theorem length_of_mem_lines (h : line ∈ d.lines) : line.length = 64 := by
  obtain ⟨y, -, rfl⟩ := List.mem_map.mp h
  rw [List.length_map, row, List.length_map, List.length_range, columns]

theorem mem_line (h : line ∈ d.lines) {c : Char} (hc : c ∈ line) : c = '#' ∨ c = '.' := by
  obtain ⟨y, -, rfl⟩ := List.mem_map.mp h
  obtain ⟨on, -, rfl⟩ := List.mem_map.mp hc
  cases on
  · exact .inr rfl
  · exact .inl rfl

theorem intercalate_concat_nil (c : Char) (lines : List (List Char)) :
    [c].intercalate (lines ++ [[]]) = lines.flatMap (· ++ [c]) := by
  induction lines with
  | nil => rfl
  | cons line lines ih =>
    rw [List.cons_append, List.intercalate_cons_of_ne_nil (by simp), ih, List.flatMap_cons, List.append_assoc]

/-- The lines are read back from the text, with nothing behind the last one. -/
theorem splitOn_text (d : Display) : d.text.toList.splitOn '\n' = d.lines ++ [[]] := by
  rw [toList_text, ← intercalate_concat_nil]
  apply List.splitOn_intercalate
  · intro line hline hend
    rcases List.mem_append.mp hline with hline | hline
    · have hchar := mem_line hline hend
      exact absurd hchar (by decide)
    · rw [List.mem_singleton.mp hline] at hend
      cases hend
  · simp

end Text

section Cells

variable (d : Display) {x y : Nat} (hx : x < columns) (hy : y < rows)
include hx hy

theorem getElem?_cells : d.cells[x + 64 * y]? = some d.cells[place x y] := by
  have hplace : (place x y).val = x + 64 * y :=
    congrArg₂ (· + 64 * ·) (Nat.mod_eq_of_lt hx) (Nat.mod_eq_of_lt hy)
  rw [← hplace]
  exact Vector.getElem?_eq_getElem (place x y).isLt

theorem pixel?_eq : d.pixel? x y = some (d.lit (place x y)) := by
  rw [pixel?, columns, Nat.mul_comm y, getElem?_cells d hx hy]
  rfl

theorem getElem?_pixels : d.frame.pixels[x + 64 * y]? = some (colour (d.lit (place x y))) := by
  rw [frame, List.getElem?_map, Vector.getElem?_toList, getElem?_cells d hx hy]
  rfl

theorem getElem?_lines : ∃ chars, d.lines[y]? = some chars ∧ chars[x]? = some (glyph (d.lit (place x y))) := by
  refine ⟨(d.row y).map glyph, ?_, ?_⟩
  · rw [lines, List.getElem?_map, List.getElem?_range hy]
    rfl
  · rw [row, List.getElem?_map, List.getElem?_map, List.getElem?_range hx]
    rfl

end Cells

section Equality

variable (d e : Display)

theorem text_eq_iff : d.text = e.text ↔ d.cells = e.cells := by
  constructor
  · intro h
    have hlines : d.lines = e.lines := by
      have hsplit := congrArg (fun s : String => s.toList.splitOn '\n') h
      exact List.append_cancel_right (d.splitOn_text.symm.trans (hsplit.trans e.splitOn_text))
    -- a cell is read off its line, at its column
    apply cells_eq_of_lit
    intro p
    have hx : p.val % columns < columns := Nat.mod_lt p.val (by decide)
    have hy : p.val / columns < rows := Nat.div_lt_of_lt_mul p.isLt
    have hp : place (p.val % columns) (p.val / columns) = p :=
      place_eq_iff.mpr ⟨Nat.mod_mod p.val columns, Nat.mod_eq_of_lt hy⟩
    obtain ⟨chars, hline, hglyph⟩ := d.getElem?_lines hx hy
    obtain ⟨chars', hline', hglyph'⟩ := e.getElem?_lines hx hy
    rw [hlines, hline', Option.some_inj] at hline
    rw [hline, hglyph, hp, Option.some_inj] at hglyph'
    exact glyph_injective hglyph'
  · intro h
    have hlit (p : Place) : d.lit p = e.lit p := by rw [lit, h, lit]
    simp only [text, row, hlit]

theorem frame_eq_iff : d.frame = e.frame ↔ d.cells = e.cells := by
  constructor
  · intro h
    apply cells_eq_of_lit
    intro p
    have hp := congrArg (·.pixels[p.val]?) h
    simp only [frame, List.getElem?_map, Vector.getElem?_toList, Vector.getElem?_eq_getElem p.isLt,
      Option.map_some, Option.some_inj] at hp
    exact colour_injective hp
  · intro h
    rw [frame, h, frame]

end Equality

/-- What the text, the picture and the cells of a display show: the text has 32 lines of 64 characters, the picture
64 columns and 32 rows, and all three say the same of the cell in column `x` and row `y`. Displays have the same text
exactly when they have the same picture, and the same picture exactly when they have the same cells. -/
theorem views_agree (d : Display) :
    (∃ lines : List (List Char), d.text.toList = lines.flatMap (· ++ ['\n']) ∧ lines.length = 32 ∧
      (∀ line ∈ lines, line.length = 64 ∧ ∀ c ∈ line, c = '#' ∨ c = '.') ∧
      ∀ x < 64, ∀ y < 32, ∃ chars, lines[y]? = some chars ∧
        (chars[x]? = some '#' ↔ d.frame.pixels[x + 64 * y]? = some 0xFFFFFFFF) ∧
        (d.frame.pixels[x + 64 * y]? = some 0xFFFFFFFF ↔ d.pixel? x y = some true)) ∧
    d.frame.width = 64 ∧ d.frame.height = 32 ∧ d.frame.pixels.length = 2048 ∧
    (∀ pixel ∈ d.frame.pixels, pixel = 0xFFFFFFFF ∨ pixel = 0xFF000000) ∧
    ∀ e : Display, (d.text = e.text ↔ d.frame = e.frame) ∧ (d.frame = e.frame ↔ d.cells = e.cells) := by
  refine ⟨⟨d.lines, d.toList_text, d.length_lines, fun line hline => ?_, fun x hx y hy => ?_⟩, rfl, rfl, ?_,
    fun pixel hpixel => ?_, fun e => ?_⟩
  · exact ⟨length_of_mem_lines hline, fun c hc => mem_line hline hc⟩
  · obtain ⟨chars, hline, hglyph⟩ := d.getElem?_lines hx hy
    refine ⟨chars, hline, ?_⟩
    rw [hglyph, d.getElem?_pixels hx hy, d.pixel?_eq hx hy, Option.some_inj, Option.some_inj, Option.some_inj]
    exact ⟨glyph_eq_lit_iff.trans colour_eq_lit_iff.symm, colour_eq_lit_iff⟩
  · rw [frame, List.length_map, Vector.length_toList, cellCount]
  · obtain ⟨cell, -, rfl⟩ := List.mem_map.mp hpixel
    cases hcell : cell != 0
    · exact .inr rfl
    · exact .inl rfl
  · rw [text_eq_iff, frame_eq_iff]
    exact ⟨Iff.rfl, Iff.rfl⟩

end Chip8.Display
