import Chip8.Display
import Chip8.Fault
import Chip8.Instruction
import Chip8.Keypad
import Chip8.Timers

namespace Chip8

def memorySize : Nat := 4096

def programStart : UInt16 := 0x200

def maxProgramSize : Nat := 3584

def stackSize : Nat := 24

def registerCount : Nat := 16

abbrev Memory := Vector UInt8 memorySize

namespace Memory

/-- The `len` bytes from `start` on, where all of them lie in memory. -/
def slice (m : Memory) (start len : Nat) (h : start + len ≤ memorySize) : List UInt8 :=
  List.ofFn fun k : Fin len => m[(⟨start + k, by omega⟩ : Fin memorySize)]

/-- Memory with `bytes` put at `start`, where all of them lie in memory. -/
def overwrite (m : Memory) (start : Nat) :
    (bytes : List UInt8) → start + bytes.length ≤ memorySize → Memory
  | [], _ => m
  | b :: bytes, h =>
    overwrite (m.set start b (by simp only [List.length_cons] at h; omega)) (start + 1) bytes
      (by simp only [List.length_cons] at h; omega)

/-- Overwriting changes the bytes that it covers and no other. -/
theorem getElem_overwrite (m : Memory) (start : Nat) (bytes : List UInt8)
    (h : start + bytes.length ≤ memorySize) (a : Nat) (ha : a < memorySize) :
    (m.overwrite start bytes h)[a] = if start ≤ a then bytes.getD (a - start) m[a] else m[a] := by
  induction bytes generalizing m start with
  | nil => simp [overwrite]
  | cons b bytes ih =>
    rw [overwrite, ih]
    by_cases hs : start = a
    · subst hs
      rw [if_neg (Nat.not_succ_le_self start), if_pos (Nat.le_refl start)]
      simp
    · by_cases hi : start + 1 ≤ a
      · have e : a - start = a - (start + 1) + 1 := by omega
        have hl : start ≤ a := by omega
        simp [hi, hl, e, hs]
      · have hl : ¬ start ≤ a := by omega
        simp [hi, hl, hs]

theorem slice_overwrite (m : Memory) (start : Nat) (bytes : List UInt8)
    (h : start + bytes.length ≤ memorySize) :
    (m.overwrite start bytes h).slice start bytes.length h = bytes := by
  unfold slice
  apply List.ext_getElem
  · simp
  · intro k h1 h2
    simp [getElem_overwrite]

/-- The fault of an access to `len` bytes at `start` that does not lie in memory: it names the first address
outside. -/
def outside (start : Nat) : Fault := .memoryOutOfBounds (max start memorySize)

def read (m : Memory) (start len : Nat) : Except Fault (List UInt8) :=
  if h : start + len ≤ memorySize then .ok (m.slice start len h) else .error (outside start)

/-- Puts `bytes` at `start`, all of them or none. -/
def write (m : Memory) (start : Nat) (bytes : List UInt8) : Except Fault Memory :=
  if h : start + bytes.length ≤ memorySize then .ok (m.overwrite start bytes h)
  else .error (outside start)

/-- Reading fails exactly if the range does not lie in memory. -/
theorem read_eq_error_iff {m : Memory} {start len : Nat} {f : Fault} :
    m.read start len = .error f ↔ memorySize < start + len ∧ f = outside start := by
  unfold read
  split
  next h => simp [Nat.not_lt.mpr h]
  next h => simp [Nat.not_le.mp h, eq_comm]

/-- Writing fails exactly if the range does not lie in memory. -/
theorem write_eq_error_iff {m : Memory} {start : Nat} {bytes : List UInt8} {f : Fault} :
    m.write start bytes = .error f ↔ memorySize < start + bytes.length ∧ f = outside start := by
  unfold write
  split
  next h => simp [Nat.not_lt.mpr h]
  next h => simp [Nat.not_le.mp h, eq_comm]

end Memory

structure Machine where
  memory : Memory
  v : Vector UInt8 registerCount
  i : UInt16
  pc : UInt16
  /-- The return addresses; slots at and above `sp` keep what was last in them. -/
  stack : Vector UInt16 stackSize
  /-- The number of slots in use, which is also the next free slot. -/
  sp : Nat
  display : Display
  timers : Timers
  keypad : Keypad
  deriving DecidableEq

namespace Machine

/-- The register that flag-producing instructions leave their flag in. -/
def flag : UInt8 := 0xF

/-- The state at power-on: all zero, with the program counter at the program start and the display dirty. -/
def powerOn : Machine where
  memory := .replicate memorySize 0
  v := .replicate registerCount 0
  i := 0
  pc := programStart
  stack := .replicate stackSize 0
  sp := 0
  display := .blank
  timers := .stopped
  keypad := .released

def load (m : Machine) (program : List UInt8) : Except Failure Machine :=
  if h : program.length ≤ maxProgramSize then
    .ok { m with memory := m.memory.overwrite programStart.toNat program (by
      have : programStart.toNat = 512 := rfl
      unfold maxProgramSize at h
      unfold memorySize
      omega) }
  else .error (.programTooLarge program.length maxProgramSize)

def fetch (m : Machine) (addr : UInt16) : Except Fault UInt16 :=
  if h : addr.toNat + 2 ≤ memorySize then
    .ok (Word.ofBytes m.memory[addr.toNat] m.memory[addr.toNat + 1])
  else .error (Memory.outside addr.toNat)

/-- The stack pointer counts slots of the stack. All other bounds of the machine hold by its type. -/
def Valid (m : Machine) : Prop := m.sp ≤ stackSize

instance (m : Machine) : Decidable m.Valid := inferInstanceAs (Decidable (_ ≤ _))

theorem valid_powerOn : powerOn.Valid := Nat.zero_le _

end Machine

/-- Work on a machine: it changes the machine in place, one access after the other, and may stop on the way.
What was done before a stop stays done. -/
abbrev Work (α : Type) := EStateM Stop Machine α

namespace Work

def checked {α : Type} : Except Fault α → Work α
  | .ok a => pure a
  | .error f => throw (.fault f)

def push (addr : UInt16) : Work Unit := do
  let m ← get
  if h : m.sp < stackSize then
    set { m with stack := m.stack.set m.sp addr h }
    modify fun m => { m with sp := m.sp + 1 }
  else throw (.fault (.stackOverflow m.sp))

/-- Pops a return address; its slot keeps it. -/
def pop : Work UInt16 := do
  if (← get).sp = 0 then throw (.fault .stackUnderflow)
  modify fun m => { m with sp := m.sp - 1 }
  let m ← get
  match m.stack[m.sp]? with
  | some addr => return addr
  | none => throw (.crash (.noSuchSlot m.sp))

def reg (x : UInt8) : Work UInt8 := do
  match (← get).v[x.toNat]? with
  | some b => return b
  | none => throw (.crash (.noSuchRegister x.toNat))

def setReg (x b : UInt8) : Work Unit := do
  let m ← get
  if h : x.toNat < registerCount then set { m with v := m.v.set x.toNat b h }
  else throw (.crash (.noSuchRegister x.toNat))

/-- A pushed address comes back, and only its slot was written. -/
theorem pop_of_push {m n : Machine} {addr : UInt16} (h : (push addr).run m = .ok () n) :
    pop.run n = .ok addr { m with stack := n.stack } := by
  by_cases hs : m.sp < stackSize
  · simp only [push, EStateM.run_bind, EStateM.run_get, hs, dite_true, EStateM.run_set,
      EStateM.run_modify, EStateM.Result.ok.injEq, true_and] at h
    subst h
    simp [pop, hs]
  · simp [push, hs] at h

end Work

end Chip8
