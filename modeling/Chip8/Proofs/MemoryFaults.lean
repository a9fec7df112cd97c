import Chip8.Proofs.Faults
import Mathlib.Order.Bounds.Basic

namespace Chip8

namespace Machine

/-- The addresses outside memory of an access to `len` bytes at the index register. -/
def beyond (m : Machine) (len : Nat) : Set Nat := {a | m.i.toNat ≤ a ∧ a < m.i.toNat + len ∧ 4096 ≤ a}

theorem isLeast_beyond_iff {m : Machine} {len addr : Nat} :
    IsLeast (m.beyond len) addr ↔ 0 < len ∧ 4096 < m.i.toNat + len ∧ addr = max m.i.toNat 4096 := by
  constructor
  · rintro ⟨⟨hstart, hend, hout⟩, hleast⟩
    have hmax : max m.i.toNat 4096 ∈ m.beyond len := ⟨Nat.le_max_left _ _, by omega, Nat.le_max_right _ _⟩
    have hle := hleast hmax
    exact ⟨by omega, by omega, by omega⟩
  · rintro ⟨hpos, hend, rfl⟩
    refine ⟨⟨Nat.le_max_left _ _, by omega, Nat.le_max_right _ _⟩, fun a ha => ?_⟩
    exact Nat.max_le.mpr ⟨ha.1, ha.2.2⟩

end Machine

/-- Only a sprite without rows is an access to no byte at all. -/
theorem Word.accesses_zero_iff {word : UInt16} :
    Word.Accesses word 0 ↔ Word.group word = 0xD ∧ word.toNat % 16 = 0 := by
  constructor
  · intro h
    generalize hlen : 0 = len at h
    cases h with
    | sprite hg => exact ⟨hg, rfl⟩
    | digits | storing | loading => cases hlen
  · rintro ⟨hg, hn⟩
    exact hn ▸ .sprite hg

/-- A word raises a memory fault for the least address of its access outside memory, or for the index register if
the access is empty. -/
theorem Machine.raises_outOfBounds_iff {m : Machine} {word : UInt16} {addr : Nat} :
    m.Raises word (.memoryOutOfBounds addr) ↔
      (∃ len, Word.Accesses word len ∧ IsLeast (m.beyond len) addr) ∨
        (Word.group word = 0xD ∧ word.toNat % 16 = 0) ∧ 4096 < m.i.toNat ∧ addr = m.i.toNat := by
  constructor
  · rintro (_ | _ | ⟨ha, hl⟩)
    rename_i len
    rcases Nat.eq_zero_or_pos len with rfl | hpos
    · exact .inr ⟨Word.accesses_zero_iff.mp ha, hl, Nat.max_eq_left (Nat.le_of_lt hl)⟩
    · exact .inl ⟨len, ha, isLeast_beyond_iff.mpr ⟨hpos, hl, rfl⟩⟩
  · rintro (⟨len, ha, hleast⟩ | ⟨hrowless, hout, rfl⟩)
    · obtain ⟨-, hl, rfl⟩ := isLeast_beyond_iff.mp hleast
      exact .outside ha hl
    · have hraises := Raises.outside (Word.accesses_zero_iff.mpr hrowless) hout
      rwa [Nat.max_eq_left (Nat.le_of_lt hout)] at hraises

namespace Processor

/-- A processor at power-on with a program in its memory. -/
def holding (program : List UInt8) : Processor :=
  let m := Machine.powerOn
  { powerOn (.ofSeed 0) with machine := { m with memory := m.memory.put 0x200 program } }

/-- Adds `V0` to an index register at the end of memory and draws a sprite without rows there. -/
def drawingNothing : List UInt8 := [0x60, 0xFF, 0xAF, 0xFF, 0xF0, 0x1E, 0xD0, 0x00]

/-- Not every memory fault names an address of the access: a sprite without rows has none to name. -/
theorem rowless_sprite_faults :
    ¬ ∀ p : Processor, p.machine.Valid → ∀ pc word addr,
        p.step.2 = .error (.fault pc word (.memoryOutOfBounds addr)) →
          ∃ len, Word.Accesses word len ∧ IsLeast (p.machine.beyond len) addr := by
  intro h
  let p := ((holding drawingNothing).run 3).1
  have hvalid : p.machine.Valid := valid_run 3 (Nat.zero_le _)
  have hfails : p.step.2 = .error (.fault 0x206 0xD000 (.memoryOutOfBounds 0x10FE)) := by
    rw [step_snd_eq_error_iff hvalid]
    decide +kernel
  obtain ⟨len, ha, hleast⟩ := h p hvalid _ _ _ hfails
  have hpos := (Machine.isLeast_beyond_iff.mp hleast).1
  cases ha with
  | sprite hg => exact absurd hpos (by decide)
  | digits hg | storing hg | loading hg => cases hg

/-- A step on a valid machine ends with a memory fault in two cases only: the word that it fetches accesses an
address outside memory, and the fault names the least of them; or the word draws a sprite without rows while the
index register lies outside memory, and the fault names the index register. -/
theorem memory_fault_iff {p : Processor} (hp : p.machine.Valid) (pc word : UInt16) (addr : Nat) :
    p.step.2 = .error (.fault pc word (.memoryOutOfBounds addr)) ↔
      p.fetch = .ok word ∧ pc = p.machine.pc ∧
        ((∃ len, Word.Accesses word len ∧ IsLeast (p.machine.beyond len) addr) ∨
          (Word.group word = 0xD ∧ word.toNat % 16 = 0) ∧ 4096 < p.machine.i.toNat ∧
            addr = p.machine.i.toNat) := by
  rw [step_snd_eq_error_iff hp, failure?_eq_fault_iff hp, Machine.raises_outOfBounds_iff]

/-- Stores four registers in the last two bytes of memory and beyond them. -/
def storingOverEnd : List UInt8 := [0xAF, 0xFE, 0xF3, 0x55]

theorem storingOverEnd_memory_fault :
    let p := ((holding storingOverEnd).run 1).1
    p.step.2 = .error (.fault 0x202 0xF355 (.memoryOutOfBounds 0x1000)) ∧
      ∃ len, Word.Accesses 0xF355 len ∧ IsLeast (p.machine.beyond len) 0x1000 := by
  intro p
  have hvalid : p.machine.Valid := valid_run 1 (Nat.zero_le _)
  have hfails : p.step.2 = .error (.fault 0x202 0xF355 (.memoryOutOfBounds 0x1000)) := by
    rw [step_snd_eq_error_iff hvalid]
    decide +kernel
  refine ⟨hfails, ?_⟩
  obtain ⟨-, -, hnamed | ⟨⟨hg, -⟩, -⟩⟩ := (memory_fault_iff hvalid _ _ _).mp hfails
  · exact hnamed
  · cases hg

end Processor

end Chip8
