import Chip8.Proofs.Countdown
import Chip8.Proofs.Display.Drawing
import Chip8.Proofs.InstructionTable
import Chip8.Proofs.ProgramCounter

namespace Chip8

namespace Instruction

/-- The registers that an instruction may write. -/
def writes : Instruction → List Nat
  | .loadByte x _ | .addByte x _ | .loadReg x _ | .or x _ | .and x _ | .xor x _ | .random x _
  | .loadDelay x | .waitKey x => [x.toNat]
  | .addReg x _ | .subReg x _ | .shiftRight x | .subFromReg x _ | .shiftLeft x => [x.toNat, 0xF]
  | .draw _ _ _ => [0xF]
  | .loadRegs x => List.range (x.toNat + 1)
  | _ => []

/-- How many bytes an instruction puts into memory at the index register. -/
def stores : Instruction → Nat
  | .storeBcd _ => 3
  | .storeRegs x => x.toNat + 1
  | _ => 0

/-- Whether an instruction writes cells of the display. -/
def paints : Instruction → Bool
  | .clearDisplay | .draw _ _ _ => true
  | _ => false

/-- Whether an instruction writes the index register. -/
def setsIndex : Instruction → Bool
  | .loadIndex _ | .addIndex _ | .loadFont _ => true
  | _ => false

end Instruction

namespace Machine

/-- An instruction puts the dirty flag up: it clears the display, or draws a sprite with a row that is not empty. -/
def Marks (m : Machine) : Instruction → Prop
  | .clearDisplay => True
  | .draw _ _ n => ∃ k < n.toNat, ∃ row, m.memory[m.i.toNat + k]? = some row ∧ row ≠ 0
  | _ => False

section After

variable (m : Machine) (byte : UInt8) {i : Instruction}

/-- What loading a register and going on leaves alone, waiting for a key does too. -/
theorem waitKey_keeps {α : Type} (part : Machine → α) {x : UInt8}
    (hpart : ∀ key, part (m.loaded x key) = part m) : part (m.after byte (.waitKey x)) = part m := by
  simp only [after]
  cases m.keypad.lowest? with
  | none => rfl
  | some key => exact hpart key

theorem getElem?_loaded {x : UInt8} {k : Nat} (hk : k ≠ x.toNat) (b : UInt8) :
    (m.loaded x b).v[k]? = m.v[k]? := Vector.getElem?_setIfInBounds_ne hk.symm

theorem getElem?_v_after {k : Nat} (hk : k ∉ i.writes) : (m.after byte i).v[k]? = m.v[k]? := by
  cases i with
  | loadByte x kk | addByte x kk | loadReg x y | or x y | and x y | xor x y | random x kk | loadDelay x =>
    exact m.getElem?_loaded (List.ne_of_not_mem_cons hk) _
  | addReg x y | subReg x y | shiftRight x | subFromReg x y | shiftLeft x =>
    have hx : k ≠ x.toNat := List.ne_of_not_mem_cons hk
    have hflag : k ≠ flag.toNat := List.ne_of_not_mem_cons (List.not_mem_of_not_mem_cons hk)
    exact (getElem?_loaded _ hflag _).trans (m.getElem?_loaded hx _)
  | draw x y n =>
    have hflag : k ≠ flag.toNat := List.ne_of_not_mem_cons hk
    exact getElem?_loaded _ hflag _
  | waitKey x => exact m.waitKey_keeps byte (·.v[k]?) (m.getElem?_loaded (List.ne_of_not_mem_cons hk))
  | loadRegs x =>
    have hlen : x.toNat + 1 ≤ k := Nat.le_of_not_lt fun h => hk (List.mem_range.mpr h)
    -- the bytes that are loaded end before the register
    have hbeyond : (m.memory.bytes m.i.toNat (x.toNat + 1)).length ≤ k := by
      rw [Memory.length_bytes]
      exact hlen
    simp only [after, past, goto]
    by_cases hin : k < registerCount
    · simp [hin, List.getElem?_eq_none hbeyond]
    · simp [hin]
  | _ => rfl

theorem getElem?_memory_after {a : Nat} (ha : ¬ (m.i.toNat ≤ a ∧ a < m.i.toNat + i.stores)) :
    (m.after byte i).memory[a]? = m.memory[a]? := by
  have hput (bytes : List UInt8) (hlen : bytes.length ≤ i.stores) :
      (m.memory.put m.i.toNat bytes)[a]? = m.memory[a]? := by
    rw [Memory.getElem?_put, if_neg]
    omega
  cases i with
  | storeBcd x => exact hput _ (Nat.le_refl 3)
  | storeRegs x => exact hput _ (List.length_take_le _ _)
  | waitKey x => exact m.waitKey_keeps byte (·.memory[a]?) fun _ => rfl
  | _ => rfl

theorem cells_after (hi : i.paints = false) : (m.after byte i).display.cells = m.display.cells := by
  cases i with
  | clearDisplay | draw x y n => cases hi
  | waitKey x => exact m.waitKey_keeps byte (·.display.cells) fun _ => rfl
  | _ => rfl

theorem index_after (hi : i.setsIndex = false) : (m.after byte i).i = m.i := by
  cases i with
  | loadIndex addr | addIndex x | loadFont x => cases hi
  | waitKey x => exact m.waitKey_keeps byte (·.i) fun _ => rfl
  | _ => rfl

theorem marks_draw_iff {x y n : UInt8} (hn : n.toNat < 16) :
    m.Marks (.draw x y n) ↔ (m.memory.bytes m.i.toNat (spriteHeight n)).any (· != 0) = true := by
  have hheight : spriteHeight n = n.toNat := Nat.min_eq_left (Nat.le_of_lt_succ hn)
  have hrow (a : Nat) : (∃ row, m.memory[a]? = some row ∧ row ≠ 0) ↔ m.memory[a]?.getD 0 ≠ 0 := by
    cases m.memory[a]? <;> simp
  simp only [Marks, hrow, hheight, Memory.bytes, List.any_map, List.any_eq_true, List.mem_range,
    Function.comp_apply, bne_iff_ne]

theorem dirty_after (hi : i.Fits) :
    (m.after byte i).display.dirty = true ↔ m.display.dirty = true ∨ m.Marks i := by
  cases i with
  | clearDisplay => exact iff_of_true rfl (.inr trivial)
  | draw x y n =>
    have hdraw := m.display.dirty_draw (m.value x) (m.value y) (m.memory.bytes m.i.toNat (spriteHeight n))
    rw [marks_draw_iff m hi.2.2, ← Bool.or_eq_true, ← hdraw]
    rfl
  | waitKey x =>
    have hdirty := m.waitKey_keeps byte (·.display.dirty) (x := x) fun _ => rfl
    rw [hdirty]
    exact (or_iff_left id).symm
  | _ => exact (or_iff_left id).symm

/-- The stack keeps every slot but the one that a call takes. -/
theorem getElem?_stack_of_ne {k : Nat} (hk : i.isCall = true → k ≠ m.sp) :
    (m.after byte i).stack[k]? = m.stack[k]? := by
  rw [stack_after]
  cases hcall : i.isCall with
  | true =>
    rw [if_pos rfl]
    exact Vector.getElem?_setIfInBounds_ne (hk hcall).symm
  | false => rfl

theorem delay_after (hi : ∀ x, i ≠ .setDelay x) : (m.after byte i).timers.delay = m.timers.delay := by
  have hput : Timer.put? m .delay i = none := by
    cases i with
    | setDelay x => exact absurd rfl (hi x)
    | _ => rfl
  have hget := Timer.get_after m byte i .delay
  rw [hput] at hget
  exact hget

theorem sound_after (hi : ∀ x, i ≠ .setSound x) : (m.after byte i).timers.sound = m.timers.sound := by
  have hput : Timer.put? m .sound i = none := by
    cases i with
    | setSound x => exact absurd rfl (hi x)
    | _ => rfl
  have hget := Timer.get_after m byte i .sound
  rw [hput] at hget
  exact hget

end After

theorem next_waitKey {m : Machine} {x : UInt8} : m.next (.waitKey x) = m.pc.toNat ↔ m.keypad.mask = 0 := by
  rw [← Keypad.lowest?_eq_none_iff, next]
  cases m.keypad.lowest? <;> simp

end Machine

namespace Processor

/-- Between the processors lies an instruction that touched only what the tables list. -/
structure Touches (p : Processor) (i : Instruction) (q : Processor) : Prop where
  memory : ∀ a, ¬ (p.machine.i.toNat ≤ a ∧ a < p.machine.i.toNat + i.stores) →
    q.machine.memory[a]? = p.machine.memory[a]?
  cells : i.paints = false → q.machine.display.cells = p.machine.display.cells
  dirty : q.machine.display.dirty = true ↔ p.machine.display.dirty = true ∨ p.machine.Marks i
  /-- A call writes the slot at the stack pointer. -/
  stack : ∀ k, (i.isCall = true → k ≠ p.machine.sp) → q.machine.stack[k]? = p.machine.stack[k]?
  sp : q.machine.sp + (if i.isReturn then 1 else 0) = p.machine.sp + if i.isCall then 1 else 0
  index : i.setsIndex = false → q.machine.i = p.machine.i
  delay : (∀ x, i ≠ .setDelay x) → q.machine.timers.delay = p.machine.timers.delay
  sound : (∀ x, i ≠ .setSound x) → q.machine.timers.sound = p.machine.timers.sound
  keypad : q.machine.keypad = p.machine.keypad
  random : i.draws = false → q.random = p.random
  registers : ∀ k, k ∉ i.writes → q.machine.v[k]? = p.machine.v[k]?
  pc : q.machine.pc.toNat = p.machine.next i
  waiting : ∀ x, i = .waitKey x → (q.machine.pc.toNat = p.machine.pc.toNat ↔ p.machine.keypad.mask = 0)

variable {p q : Processor} {i : Instruction}

theorem touches_after {word : UInt16} (hw : p.fetch = .ok word)
    (hf : p.machine.fault? (.decode word) = none) : p.Touches (.decode word) (p.after (.decode word)) := by
  have hfits := Instruction.decode_fits word
  have hpc := Machine.toNat_pc_after (pc_lt_of_fetch hw)
    (if (Instruction.decode word).draws then p.random.offer else 0) hfits
  constructor
  case memory => exact fun a => p.machine.getElem?_memory_after _
  case cells => exact p.machine.cells_after _
  case dirty => exact p.machine.dirty_after _ hfits
  case stack => exact fun k => p.machine.getElem?_stack_of_ne _
  case sp => exact Machine.sp_after_add _ hf
  case index => exact p.machine.index_after _
  case delay => exact p.machine.delay_after _
  case sound => exact p.machine.sound_after _
  case keypad => exact p.machine.keypad_after _ _
  case random =>
    intro hdraws
    simp only [Processor.after, hdraws, Bool.false_eq_true, if_false]
  case registers => exact fun k => p.machine.getElem?_v_after _
  case pc => exact hpc
  case waiting =>
    intro x hx
    rw [hx] at hpc ⊢
    exact hpc ▸ Machine.next_waitKey

/-- A step that succeeds executes what the word at the program counter means and touches what the tables list
for it, no other register, byte, cell or slot, and neither keypad nor, unless it rolls, random source. The
program goes on where the instruction says: an instruction that skips does so exactly if its condition holds
before it, and one that waits stays exactly while no key is held. -/
theorem step_touches_only_documented (hp : p.machine.Valid) (h : p.step = (q, .ok i)) :
    ∃ word, p.fetch = .ok word ∧ Word.Means word i ∧ p.Touches i q := by
  obtain ⟨hn, rfl, word, hw, rfl⟩ := (step_eq_ok_iff hp).mp h
  exact ⟨word, hw, Word.means_decode word, touches_after hw (fault?_of_failure? hw hn)⟩

/-- A processor about to draw one row of the sprite at the index register on a screen that is shown already. -/
def drawingOneRow : Processor :=
  let m := Machine.powerOn
  { powerOn (.ofSeed 0) with
    machine :=
      { m with
        memory := m.memory.put 0x200 [0xD0, 0x11, 0x80], i := 0x202, display := m.display.takeDirty.2 } }

theorem drawingOneRow_touches_only_documented :
    ∃ q, drawingOneRow.step = (q, .ok (.draw 0 1 1)) ∧ drawingOneRow.machine.display.dirty = false ∧
      q.machine.display.dirty = true ∧ q.machine.pc = 0x202 ∧ q.random = drawingOneRow.random ∧
      ∀ k < 15, q.machine.v[k]? = drawingOneRow.machine.v[k]? := by
  have hvalid : drawingOneRow.machine.Valid := Nat.zero_le _
  have hstep : drawingOneRow.step = (drawingOneRow.after (.draw 0 1 1), .ok (.draw 0 1 1)) := by
    have hn : drawingOneRow.failure? = none := by decide +kernel
    have hw : drawingOneRow.fetch.toOption = some 0xD011 := by decide +kernel
    exact (step_eq_ok_iff hvalid).mpr ⟨hn, rfl, 0xD011, Outcome.eq_ok_of_toOption hw, by decide⟩
  obtain ⟨word, -, -, htouches⟩ := step_touches_only_documented hvalid hstep
  have hrow : drawingOneRow.machine.memory[0x202]? = some 0x80 := by decide +kernel
  refine ⟨_, hstep, rfl, ?_, ?_, htouches.random rfl, fun k hk => ?_⟩
  · exact htouches.dirty.mpr (.inr ⟨0, by decide, 0x80, hrow, by decide⟩)
  · exact UInt16.toNat_inj.mp htouches.pc
  · have hflag : k ∉ (Instruction.draw 0 1 1).writes := by
      rw [Instruction.writes, List.mem_singleton]
      omega
    exact htouches.registers k hflag

end Processor

end Chip8
