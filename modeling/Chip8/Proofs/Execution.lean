import Chip8.Processor
import Chip8.Proofs.Operands

namespace Chip8

namespace Memory

/-- The `len` bytes from `start` on, with zeros for those beyond memory. -/
def bytes (m : Memory) (start len : Nat) : List UInt8 :=
  (List.range len).map fun k => m[start + k]?.getD 0

/-- Memory with `bytes` put at `start`, those beyond memory being lost. -/
def put (m : Memory) (start : Nat) : (bytes : List UInt8) → Memory
  | [] => m
  | b :: bytes => put (m.setIfInBounds start b) (start + 1) bytes

/-- Setting a slot that is there is the same with and without a check. -/
theorem set_eq_setIfInBounds {α : Type} {n : Nat} (v : Vector α n) (k : Nat) (a : α) (h : k < n) :
    v.set k a h = v.setIfInBounds k a := by
  ext j hj
  simp only [Vector.getElem_set, Vector.getElem_setIfInBounds]

theorem slice_eq_bytes (m : Memory) (start len : Nat) (h : start + len ≤ memorySize) :
    m.slice start len h = m.bytes start len := by
  apply List.ext_getElem
  · simp [slice, bytes]
  · intro k h1 h2
    have hk : start + k < memorySize := by
      simp only [slice, List.length_ofFn] at h1
      omega
    simp [slice, bytes, hk]

theorem overwrite_eq_put (m : Memory) (start : Nat) (bytes : List UInt8)
    (h : start + bytes.length ≤ memorySize) : m.overwrite start bytes h = m.put start bytes := by
  induction bytes generalizing m start with
  | nil => rfl
  | cons b bytes ih => rw [overwrite, ih, put, set_eq_setIfInBounds]

theorem read_eq (m : Memory) (start len : Nat) :
    m.read start len =
      if start + len ≤ memorySize then .ok (m.bytes start len) else .error (outside start) := by
  unfold read
  split
  next h => rw [slice_eq_bytes]
  next => rfl

theorem write_eq (m : Memory) (start : Nat) (bytes : List UInt8) :
    m.write start bytes =
      if start + bytes.length ≤ memorySize then .ok (m.put start bytes) else .error (outside start) := by
  unfold write
  split
  next h => rw [overwrite_eq_put]
  next => rfl

/-- Putting bytes changes the places that they cover and no other. -/
theorem getElem?_put (m : Memory) (start : Nat) (bytes : List UInt8) (a : Nat) :
    (m.put start bytes)[a]? =
      if start ≤ a ∧ a < start + bytes.length ∧ a < memorySize then bytes[a - start]? else m[a]? := by
  induction bytes generalizing m start with
  | nil =>
    have hout : ¬ (start ≤ a ∧ a < start + ([] : List UInt8).length ∧ a < memorySize) := by
      rw [List.length_nil]
      omega
    rw [put, if_neg hout]
  | cons b bytes ih =>
    rw [put, ih, List.length_cons]
    by_cases hfirst : start = a
    · subst hfirst
      rw [if_neg (fun h => Nat.not_succ_le_self _ h.1), Vector.getElem?_setIfInBounds, if_pos rfl,
        Nat.sub_self, List.getElem?_cons_zero]
      by_cases hin : start < memorySize
      · rw [if_pos hin, if_pos (by omega)]
      · rw [if_neg hin, if_neg (fun h => hin h.2.2), Vector.getElem?_eq_none (Nat.le_of_not_lt hin)]
    · rw [Vector.getElem?_setIfInBounds_ne hfirst]
      by_cases hrest : start + 1 ≤ a ∧ a < start + 1 + bytes.length ∧ a < memorySize
      · have hplace : a - start = a - (start + 1) + 1 := by omega
        rw [if_pos hrest, if_pos (by omega), hplace, List.getElem?_cons_succ]
      · rw [if_neg hrest, if_neg (by omega)]

theorem length_bytes (m : Memory) (start len : Nat) : (m.bytes start len).length = len := by
  rw [bytes, List.length_map, List.length_range]

theorem getElem?_bytes (m : Memory) (start : Nat) {k len : Nat} (hk : k < len) :
    (m.bytes start len)[k]? = some (m[start + k]?.getD 0) := by
  simp [bytes, hk]

theorem getElem?_bytes_of_le (m : Memory) {start k len : Nat} (h : start + len ≤ memorySize) (hk : k < len) :
    (m.bytes start len)[k]? = m[start + k]? := by
  have hin : start + k < memorySize := by omega
  rw [getElem?_bytes m start hk, Vector.getElem?_eq_getElem hin]
  rfl

end Memory

namespace Machine

/-- The value of register `x`, zero if there is no such register. -/
def value (m : Machine) (x : UInt8) : UInt8 := m.v[x.toNat]?.getD 0

/-- The machine with a value in register `x`. -/
def withValue (m : Machine) (x b : UInt8) : Machine := { m with v := m.v.setIfInBounds x.toNat b }

/-- The machine with its program counter at a target. -/
def goto (m : Machine) (addr : UInt16) : Machine := { m with pc := addr }

def past (m : Machine) : Machine := m.goto (m.pc + 2)

/-- The machine past its instruction, and past the next one too if a condition holds. -/
def skipping (m : Machine) (condition : Bool) : Machine := m.goto (m.pc + if condition then 4 else 2)

/-- The machine past an instruction that puts a value into register `x`. -/
def loaded (m : Machine) (x b : UInt8) : Machine := (m.withValue x b).past

/-- The machine past an instruction that puts a value into register `x` and then a flag into VF. -/
def flagged (m : Machine) (x b : UInt8) (on : Bool) : Machine :=
  (m.withValue x b).loaded flag (if on then 1 else 0)

/-- The machine past an instruction that puts bytes into memory at the index register. -/
def stored (m : Machine) (bytes : List UInt8) : Machine :=
  { m with memory := m.memory.put m.i.toNat bytes }.past

/-- The machine past an instruction that draws a sprite. -/
def drawn (m : Machine) (x y : UInt8) (sprite : List UInt8) : Machine :=
  let drawing := m.display.draw (m.value x) (m.value y) sprite
  { m with display := drawing.1 }.loaded flag (if drawing.2 then 1 else 0)

/-- The fault of an access to `len` bytes at the index register, if they do not all lie in memory. -/
def outside? (m : Machine) (len : Nat) : Option Fault :=
  if m.i.toNat + len ≤ memorySize then none else some (Memory.outside m.i.toNat)

/-- The fault that an instruction raises, if any. -/
def fault? (m : Machine) : Instruction → Option Fault
  | .ret => if m.sp = 0 then some .stackUnderflow else none
  | .call _ => if m.sp < stackSize then none else some (.stackOverflow m.sp)
  | .draw _ _ n => m.outside? (spriteHeight n)
  | .storeBcd _ => m.outside? 3
  | .storeRegs x | .loadRegs x => m.outside? (x.toNat + 1)
  | _ => none

/-- The machine after an instruction that raises no fault; `byte` is the random byte on offer. -/
def after (m : Machine) (byte : UInt8) : Instruction → Machine
  | .clearDisplay => { m with display := m.display.clear }.past
  | .ret => { m with sp := m.sp - 1 }.goto (m.stack[m.sp - 1]?.getD 0)
  | .jump addr => m.goto addr
  | .call addr =>
    { m with stack := m.stack.setIfInBounds m.sp (m.pc + 2), sp := m.sp + 1 }.goto addr
  | .skipEqByte x kk => m.skipping (m.value x == kk)
  | .skipNeByte x kk => m.skipping (m.value x != kk)
  | .skipEqReg x y => m.skipping (m.value x == m.value y)
  | .loadByte x kk => m.loaded x kk
  | .addByte x kk => m.loaded x (m.value x + kk)
  | .loadReg x y => m.loaded x (m.value y)
  | .or x y => m.loaded x (m.value x ||| m.value y)
  | .and x y => m.loaded x (m.value x &&& m.value y)
  | .xor x y => m.loaded x (m.value x ^^^ m.value y)
  | .addReg x y =>
    m.flagged x (m.value x + m.value y) (decide (255 < (m.value x).toNat + (m.value y).toNat))
  | .subReg x y => m.flagged x (m.value x - m.value y) (decide (m.value y ≤ m.value x))
  | .shiftRight x => m.flagged x (m.value x >>> 1) ((m.value x).toNat.testBit 0)
  | .subFromReg x y => m.flagged x (m.value y - m.value x) (decide (m.value x ≤ m.value y))
  | .shiftLeft x => m.flagged x (m.value x <<< 1) ((m.value x).toNat.testBit 7)
  | .skipNeReg x y => m.skipping (m.value x != m.value y)
  | .loadIndex addr => { m with i := addr }.past
  | .jumpV0 addr => m.goto (addr + (m.value 0).toUInt16)
  | .random x kk => m.loaded x (byte &&& kk)
  | .draw x y n => m.drawn x y (m.memory.bytes m.i.toNat (spriteHeight n))
  | .skipKeyPressed x => m.skipping (m.keypad.holds (m.value x))
  | .skipKeyNotPressed x => m.skipping (!m.keypad.holds (m.value x))
  | .loadDelay x => m.loaded x m.timers.delay
  | .waitKey x =>
    match m.keypad.lowest? with
    | some key => m.loaded x key
    | none => m
  | .setDelay x => { m with timers := { m.timers with delay := m.value x } }.past
  | .setSound x => { m with timers := { m.timers with sound := m.value x } }.past
  | .addIndex x => { m with i := m.i + (m.value x).toUInt16 }.past
  | .loadFont x => { m with i := (m.value x).toUInt16 * glyphSize }.past
  | .storeBcd x => m.stored (bcd (m.value x))
  | .storeRegs x => m.stored (m.v.toList.take (x.toNat + 1))
  | .loadRegs x =>
    { m with v := m.v.mapFinIdx fun k b _ =>
        (m.memory.bytes m.i.toNat (x.toNat + 1)).getD k b }.past
  | .unrecognized _ => m.past

end Machine

namespace Work

variable {m : Machine} {x y : UInt8}

@[simp] theorem run_jump (addr : UInt16) : (jump addr).run m = .ok () (m.goto addr) := rfl

@[simp] theorem run_advance : advance.run m = .ok () m.past := rfl

@[simp] theorem run_skipIf (condition : Bool) :
    (skipIf condition).run m = .ok () (m.skipping condition) := rfl

theorem run_reg (hx : x.toNat < 16) : (reg x).run m = .ok (m.value x) m := by
  have h : x.toNat < registerCount := hx
  simp only [reg, EStateM.run_bind, EStateM.run_get, Machine.value, Vector.getElem?_eq_getElem h]
  rfl

theorem run_setReg (hx : x.toNat < 16) (b : UInt8) : (setReg x b).run m = .ok () (m.withValue x b) := by
  have h : x.toNat < registerCount := hx
  simp [setReg, Machine.withValue, h, Memory.set_eq_setIfInBounds]

theorem run_setAndAdvance (hx : x.toNat < 16) (b : UInt8) :
    (setAndAdvance x b).run m = .ok () (m.loaded x b) := by
  simp [setAndAdvance, run_setReg hx, Machine.loaded]

theorem flag_lt : Machine.flag.toNat < 16 := by decide

theorem run_setWithFlag (hx : x.toNat < 16) (b : UInt8) (on : Bool) :
    (setWithFlag x b on).run m = .ok () (m.flagged x b on) := by
  simp [setWithFlag, run_setReg hx, run_setReg flag_lt, Machine.flagged, Machine.loaded]

theorem run_push (addr : UInt16) :
    (push addr).run m =
      if m.sp < stackSize then
        .ok () { m with stack := m.stack.setIfInBounds m.sp addr, sp := m.sp + 1 }
      else .error (.fault (.stackOverflow m.sp)) m := by
  by_cases h : m.sp < stackSize
  · simp [push, h, Memory.set_eq_setIfInBounds]
  · simp [push, h]

theorem run_pop (hm : m.Valid) :
    pop.run m =
      if m.sp = 0 then .error (.fault .stackUnderflow) m
      else .ok (m.stack[m.sp - 1]?.getD 0) { m with sp := m.sp - 1 } := by
  by_cases h : m.sp = 0
  · simp [pop, h]
  · have hs : m.sp - 1 < stackSize := by
      have : m.sp ≤ stackSize := hm
      omega
    simp [pop, h, hs]

theorem run_read (len : Nat) :
    (checked (m.memory.read m.i.toNat len)).run m =
      match m.outside? len with
      | some f => .error (.fault f) m
      | none => .ok (m.memory.bytes m.i.toNat len) m := by
  rw [Memory.read_eq, Machine.outside?]
  split <;> rfl

theorem run_draw (hx : x.toNat < 16) (hy : y.toNat < 16) (n : UInt8) :
    (draw x y n).run m =
      match m.outside? (spriteHeight n) with
      | some f => .error (.fault f) m
      | none => .ok () (m.drawn x y (m.memory.bytes m.i.toNat (spriteHeight n))) := by
  simp only [draw, EStateM.run_bind, EStateM.run_get, run_read]
  cases m.outside? (spriteHeight n) with
  | some f => rfl
  | none =>
    simp [run_reg hx, run_reg hy, run_setReg flag_lt, Machine.drawn, Machine.loaded]

theorem run_storeAtIndex (bytes : List UInt8) :
    (storeAtIndex bytes).run m =
      match m.outside? bytes.length with
      | some f => .error (.fault f) m
      | none => .ok () (m.stored bytes) := by
  simp only [storeAtIndex, EStateM.run_bind, EStateM.run_get, Memory.write_eq, Machine.outside?]
  by_cases h : m.i.toNat + bytes.length ≤ memorySize
  · simp only [h, if_true]
    rfl
  · simp only [h, if_false]
    rfl

theorem run_regsUpTo (hx : x.toNat < 16) :
    (regsUpTo x).run m = .ok (m.v.toList.take (x.toNat + 1)) m := by
  have h : x.toNat < registerCount := hx
  simp only [regsUpTo, h, if_true]
  rfl

theorem length_regsUpTo (hx : x.toNat < 16) : (m.v.toList.take (x.toNat + 1)).length = x.toNat + 1 := by
  rw [List.length_take, Vector.length_toList]
  exact Nat.min_eq_left hx

theorem run_loadRegs (hx : x.toNat < 16) :
    (loadRegs x).run m =
      match m.outside? (x.toNat + 1) with
      | some f => .error (.fault f) m
      | none => .ok () (m.after 0 (.loadRegs x)) := by
  simp only [loadRegs, EStateM.run_bind, EStateM.run_get, run_regsUpTo hx, run_read]
  cases m.outside? (x.toNat + 1) with
  | some f => rfl
  | none => rfl

theorem run_jumpV0 {addr : UInt16} (ha : addr.toNat < 4096) :
    (jumpV0 addr).run m = .ok () (m.goto (addr + (m.value 0).toUInt16)) := by
  have h0 : (0 : UInt8).toNat < 16 := by decide
  have hv := (m.value 0).toNat_lt
  have h : addr.toNat + (m.value 0).toNat < UInt16.size := by
    unfold UInt16.size
    omega
  simp only [jumpV0, EStateM.run_bind, run_reg h0, h, if_true, run_jump]

theorem run_waitKey (hx : x.toNat < 16) (byte : UInt8) :
    (waitKey x).run m = .ok () (m.after byte (.waitKey x)) := by
  simp only [waitKey, Machine.after, EStateM.run_bind, EStateM.run_get]
  cases m.keypad.lowest? with
  | some key => exact run_setAndAdvance hx key
  | none => rfl

/-- The work of a fitting instruction that is no return, on any machine, either ends with its fault and the
machine as it was, or ends well with the machine after the instruction. -/
theorem run_execute_of_ne_ret (byte : UInt8) {i : Instruction} (hi : i.Fits) (hr : i ≠ .ret) :
    (execute byte i).run m =
      match m.fault? i with
      | some f => .error (.fault f) m
      | none => .ok () (m.after byte i) := by
  cases i with
  | ret => exact absurd rfl hr
  | call addr =>
    by_cases h : m.sp < stackSize
    · simp [execute, run_push, Machine.fault?, Machine.after, h]
    · simp [execute, run_push, Machine.fault?, h]
  | draw x y n => exact run_draw hi.1 hi.2.1 n
  | storeBcd x =>
    simp only [execute, EStateM.run_bind, run_reg hi]
    exact run_storeAtIndex _
  | storeRegs x =>
    simp only [execute, EStateM.run_bind, run_regsUpTo hi, run_storeAtIndex, length_regsUpTo hi]
    rfl
  | loadRegs x => exact run_loadRegs hi
  | jumpV0 addr => exact run_jumpV0 hi
  | waitKey x => exact run_waitKey hi byte
  | clearDisplay | jump addr | loadIndex addr | unrecognized word =>
    simp [execute, Machine.fault?, Machine.after]
  | skipEqReg x y | skipNeReg x y | loadReg x y | or x y | and x y | xor x y | addReg x y | subReg x y
  | subFromReg x y =>
    simp [execute, Machine.fault?, Machine.after, run_reg hi.1, run_reg hi.2, run_setAndAdvance hi.1,
      run_setWithFlag hi.1]
  | _ =>
    simp [execute, Machine.fault?, Machine.after, run_reg hi, run_setAndAdvance hi, run_setWithFlag hi]

/-- On a valid machine that is so for returns too: the slot that they pop is there. -/
theorem run_execute (hm : m.Valid) (byte : UInt8) {i : Instruction} (hi : i.Fits) :
    (execute byte i).run m =
      match m.fault? i with
      | some f => .error (.fault f) m
      | none => .ok () (m.after byte i) := by
  by_cases hr : i = .ret
  · subst hr
    by_cases h : m.sp = 0
    · simp [execute, run_pop hm, Machine.fault?, h]
    · simp [execute, run_pop hm, Machine.fault?, Machine.after, h]
  · exact run_execute_of_ne_ret byte hi hr

end Work

end Chip8
