import Chip8.Proofs.Display.Overlay
import Chip8.Proofs.Faults
import Chip8.Proofs.Registers

namespace Chip8

namespace Machine

/-- The second machine is the first one with a sprite drawn at the place that two registers hold, and with the
collision in VF. -/
structure Overlays (m : Machine) (x y : Fin 16) (sprite : List UInt8) (d : Machine) : Prop where
  once : ∀ c, Display.hits (m.register x) (m.register y) sprite c ≤ 1
  pixels : ∀ c, d.display.lit c =
    (m.display.lit c ^^ decide (Display.hits (m.register x) (m.register y) sprite c = 1))
  flag_le : d.register 0xF ≤ 1
  darkened : d.register 0xF = 1 ↔ ∃ c, m.display.lit c = true ∧ d.display.lit c = false
  /-- ... which is to say if a cell under the sprite was lit. -/
  covered : d.register 0xF = 1 ↔
    ∃ c, m.display.lit c = true ∧ Display.hits (m.register x) (m.register y) sprite c = 1
  others : ∀ k, k ≠ 0xF → d.register k = m.register k
  rest : d = { m with display := d.display, v := d.v, pc := m.pc + 2 }

variable (m : Machine) (x y : Fin 16) {sprite : List UInt8}

theorem register_drawn (k : Fin 16) :
    (m.drawn (Word.digit x) (Word.digit y) sprite).register k =
      if k = 0xF then (m.display.draw (m.value (Word.digit x)) (m.value (Word.digit y)) sprite).2.toNat
      else m.register k := by
  let drawing := m.display.draw (m.value (Word.digit x)) (m.value (Word.digit y)) sprite
  have hflag : (if drawing.2 then (1 : UInt8) else 0).toNat = drawing.2.toNat := by
    cases drawing.2 <;> rfl
  have hlast := register_loaded { m with display := drawing.1 } 0xF (if drawing.2 then 1 else 0) k
  rw [hflag] at hlast
  exact hlast

/-- A cell that is hit at most once is flipped if it is hit. -/
theorem eq_xor_of_toNat_eq {a b : Bool} :
    ∀ k < 2, a.toNat = (b.toNat + k) % 2 → a = (b ^^ decide (k = 1)) := by
  revert a b
  decide

theorem drawn_overlays (h : sprite.length ≤ 15) :
    m.Overlays x y sprite (m.drawn (Word.digit x) (Word.digit y) sprite) := by
  let d := m.drawn (Word.digit x) (Word.digit y) sprite
  let hits := Display.hits (m.register x) (m.register y) sprite
  have honce (c : Display.Place) : hits c ≤ 1 := Display.hits_le_one (Nat.le_trans h (by decide)) c
  -- with no cell hit twice, the sum modulo two is an exclusive or
  have hlit (c : Display.Place) : (d.display.lit c).toNat = ((m.display.lit c).toNat + hits c) % 2 := by
    have hdraw := m.display.lit_draw (m.value (Word.digit x)) (m.value (Word.digit y)) sprite c
    rw [toNat_value, toNat_value] at hdraw
    exact hdraw
  have hpixels (c : Display.Place) : d.display.lit c = (m.display.lit c ^^ decide (hits c = 1)) :=
    eq_xor_of_toNat_eq (hits c) (Nat.lt_succ_of_le (honce c)) (hlit c)
  have hflag : d.register 0xF =
      (m.display.draw (m.value (Word.digit x)) (m.value (Word.digit y)) sprite).2.toNat :=
    m.register_drawn x y 0xF
  have hcovered : d.register 0xF = 1 ↔ ∃ c, m.display.lit c = true ∧ hits c = 1 := by
    rw [hflag, Bool.toNat_eq_one, Display.collision_draw, toNat_value, toNat_value]
    refine exists_congr fun c => ?_
    change 2 ≤ (m.display.lit c).toNat + hits c ↔ _
    have hc := honce c
    have hlt := Bool.toNat_lt (m.display.lit c)
    rw [← Bool.toNat_eq_one]
    omega
  constructor
  case once => exact honce
  case pixels => exact hpixels
  case flag_le =>
    rw [hflag]
    exact Bool.toNat_le _
  case darkened =>
    rw [hcovered]
    refine exists_congr fun c => and_congr_right fun hm => ?_
    rw [hpixels, hm]
    simp
  case covered => exact hcovered
  case others =>
    intro k hk
    rw [register_drawn, if_neg hk]
  case rest => rfl

end Machine

namespace Processor

variable {p : Processor} (x y n : Fin 16)

/-- What the word of a drawing leaves, if the sprite lies in memory. -/
theorem executes_draw (h : p.machine.i.toNat + n.val ≤ memorySize) :
    p.Executes (.decode (Word.ofDigits 0xD x y n))
      (p.machine.drawn (Word.digit x) (Word.digit y) (p.machine.memory.bytes p.machine.i.toNat n.val)) := by
  let word := Word.ofDigits 0xD x y n
  have hw : Word.Means word (.draw (Word.digit x) (Word.digit y) (Word.n word)) := by
    have hrow := Word.Means.draw (Word.group_ofDigits 0xD x y n)
    rw [Word.x_ofDigits, Word.y_ofDigits] at hrow
    exact hrow
  have hheight : spriteHeight (Word.n word) = n.val := by
    rw [spriteHeight_n, Word.last_ofDigits]
  have hf : p.machine.fault? (.draw (Word.digit x) (Word.digit y) (Word.n word)) = none := by
    rw [Machine.fault?, Machine.outside?, hheight, if_pos h]
  have hafter := executes_of_means hw rfl rfl hf
  rw [Machine.after, hheight] at hafter
  exact hafter

variable (p)

/-- A drawing draws the bytes at the index register where its registers said before it, VF too: they are laid
over the screen by exclusive or, VF says whether a lit cell went dark, and nothing else changes. Drawn again in
the same place, the sprite is gone. -/
theorem draw_is_undone_by_draw (h : p.machine.i.toNat + n.val ≤ 4096) :
    let m := p.machine
    let word := Word.ofDigits 0xD x y n
    ∃ sprite drawn, sprite.length = n.val ∧
      (∀ k < n.val, sprite[k]? = m.memory[m.i.toNat + k]?) ∧
      p.Executes (.decode word) drawn ∧ m.Overlays x y sprite drawn ∧
      ∀ v, v.get x = m.v.get x → v.get y = m.v.get y →
        ∃ undrawn, (p.on { drawn with v := v, pc := m.pc }).Executes (.decode word) undrawn ∧
          undrawn.display.cells = m.display.cells := by
  intro m word
  let sprite := m.memory.bytes m.i.toNat n.val
  let drawn := m.drawn (Word.digit x) (Word.digit y) sprite
  have hlength : sprite.length = n.val := Memory.length_bytes _ _ _
  have hshort : sprite.length ≤ 15 := by omega
  refine ⟨sprite, drawn, hlength, fun k hk => m.memory.getElem?_bytes_of_le h hk, executes_draw x y n h,
    m.drawn_overlays x y hshort, fun v hx hy => ?_⟩
  let again : Machine := { drawn with v := v, pc := m.pc }
  have hcolumn : again.value (Word.digit x) = m.value (Word.digit x) := by
    rw [Machine.value_digit, Machine.value_digit]
    exact hx
  have hrow : again.value (Word.digit y) = m.value (Word.digit y) := by
    rw [Machine.value_digit, Machine.value_digit]
    exact hy
  refine ⟨_, executes_draw (p := p.on again) x y n h, ?_⟩
  -- neither memory nor the index register has changed, so the sprite is the same
  change (again.display.draw (again.value (Word.digit x)) (again.value (Word.digit y)) sprite).1.cells = _
  rw [hcolumn, hrow]
  exact m.display.cells_draw_draw _ _ _

/-- A processor about to draw one full row on a dark screen, at the column in VF, two cells from the right edge. -/
def columnInFlag : Processor :=
  let m := Machine.powerOn
  { powerOn (.ofSeed 0) with
    machine := { m with memory := m.memory.put 0x300 [0xFF], i := 0x300, v := m.v.setIfInBounds 0xF 62 } }

theorem columnInFlag_is_undone :
    columnInFlag.machine.register 0xF = 62 ∧
      ∃ drawn undrawn, columnInFlag.Executes (.decode 0xDF01) drawn ∧ drawn.register 0xF = 0 ∧
        drawn.display.lit (Display.place 5 0) = true ∧
        (columnInFlag.on { drawn with v := columnInFlag.machine.v, pc := 0x200 }).Executes (.decode 0xDF01)
          undrawn ∧
        undrawn.display.cells = Display.blank.cells := by
  have hfits : columnInFlag.machine.i.toNat + (1 : Fin 16).val ≤ 4096 := by decide
  obtain ⟨sprite, drawn, hlength, hbytes, hdrawn, hover, hagain⟩ :=
    columnInFlag.draw_is_undone_by_draw 0xF 0x0 0x1 hfits
  obtain ⟨undrawn, hundrawn, hcells⟩ := hagain columnInFlag.machine.v rfl rfl
  have hsprite : sprite = [0xFF] := by
    obtain ⟨row, rfl⟩ := List.length_eq_one_iff.mp hlength
    have hrow : columnInFlag.machine.memory[0x300]? = some 0xFF := by decide +kernel
    have hbyte : some row = some 0xFF := (hbytes 0 (by decide)).trans hrow
    cases hbyte
    rfl
  have hdark (c : Display.Place) : columnInFlag.machine.display.lit c = false := Display.lit_blank c
  refine ⟨by decide, drawn, undrawn, hdrawn, ?_, ?_, hundrawn, hcells⟩
  · have hclear : drawn.register 0xF ≠ 1 := by
      rw [Ne, hover.covered]
      rintro ⟨c, hlit, -⟩
      rw [hdark] at hlit
      cases hlit
    have := hover.flag_le
    omega
  · have hhit : Display.hits 62 0 [0xFF] (Display.place 5 0) = 1 := by decide +kernel
    have hcolumn : columnInFlag.machine.register 0xF = 62 := by decide
    have hrow : columnInFlag.machine.register 0x0 = 0 := by decide
    rw [hover.pixels, hdark, hsprite, hcolumn, hrow, hhit]
    rfl

end Processor

end Chip8
