import Chip8.Machine
import Chip8.Random

namespace Chip8

/-- The height of a sprite that asks for `n` rows. -/
def spriteHeight (n : UInt8) : Nat := min n.toNat 15

def bcd (b : UInt8) : List UInt8 := [b / 100, b / 10 % 10, b % 10]

def glyphSize : UInt16 := 5

namespace Work

def jump (addr : UInt16) : Work Unit := modify fun m => { m with pc := addr }

def advance : Work Unit := modify fun m => { m with pc := m.pc + 2 }

/-- Moves the program counter past the next instruction too if a condition holds. -/
def skipIf (condition : Bool) : Work Unit :=
  modify fun m => { m with pc := m.pc + if condition then 4 else 2 }

/-- Puts a value into register `x` and moves on. -/
def setAndAdvance (x b : UInt8) : Work Unit := do
  setReg x b
  advance

/-- Puts a value into register `x`, then a flag into VF, and moves on. The flag comes last, so it wins where
`x` is VF itself. -/
def setWithFlag (x b : UInt8) (on : Bool) : Work Unit := do
  setReg x b
  setReg Machine.flag (if on then 1 else 0)
  advance

/-- `Dxyn`: draws the sprite at the index register and leaves the collision in VF. -/
def draw (x y n : UInt8) : Work Unit := do
  let m ← get
  let sprite ← checked (m.memory.read m.i.toNat (spriteHeight n))
  let column ← reg x
  let row ← reg y
  let (display, collision) := m.display.draw column row sprite
  modify fun m => { m with display := display }
  setReg Machine.flag (if collision then 1 else 0)
  advance

/-- `Fx0A`: takes the lowest key that is held, or stays on this instruction while there is none. -/
def waitKey (x : UInt8) : Work Unit := do
  match (← get).keypad.lowest? with
  | some key => setAndAdvance x key
  | none => pure ()

/-- Puts bytes into memory at the index register and moves on. -/
def storeAtIndex (bytes : List UInt8) : Work Unit := do
  let m ← get
  let memory ← checked (m.memory.write m.i.toNat bytes)
  modify fun m => { m with memory := memory }
  advance

def regsUpTo (x : UInt8) : Work (List UInt8) := do
  if x.toNat < registerCount then return (← get).v.toList.take (x.toNat + 1)
  else throw (.crash (.noSuchRegister x.toNat))

/-- `Fx65`: fills V0 to Vx from memory at the index register. -/
def loadRegs (x : UInt8) : Work Unit := do
  let _ ← regsUpTo x
  let m ← get
  let bytes ← checked (m.memory.read m.i.toNat (x.toNat + 1))
  modify fun m => { m with v := m.v.mapFinIdx fun k b _ => bytes.getD k b }
  advance

/-- `Bnnn`: jumps to the sum of an address and V0. -/
def jumpV0 (addr : UInt16) : Work Unit := do
  let offset ← reg 0
  if addr.toNat + offset.toNat < UInt16.size then jump (addr + offset.toUInt16)
  else throw (.crash .targetTooLarge)

/-- Carries out an instruction in place: a fault in its middle leaves what was done up to there. `byte` is the random
byte on offer. -/
def execute (byte : UInt8) : Instruction → Work Unit
  | .clearDisplay => do
    modify fun m => { m with display := m.display.clear }
    advance
  | .ret => do jump (← pop)
  | .jump addr => jump addr
  | .call addr => do
    push ((← get).pc + 2)
    jump addr
  | .skipEqByte x kk => do skipIf ((← reg x) == kk)
  | .skipNeByte x kk => do skipIf ((← reg x) != kk)
  | .skipEqReg x y => do skipIf ((← reg x) == (← reg y))
  | .loadByte x kk => setAndAdvance x kk
  | .addByte x kk => do setAndAdvance x ((← reg x) + kk)
  | .loadReg x y => do setAndAdvance x (← reg y)
  | .or x y => do setAndAdvance x ((← reg x) ||| (← reg y))
  | .and x y => do setAndAdvance x ((← reg x) &&& (← reg y))
  | .xor x y => do setAndAdvance x ((← reg x) ^^^ (← reg y))
  | .addReg x y => do
    let a ← reg x
    let b ← reg y
    setWithFlag x (a + b) (decide (255 < a.toNat + b.toNat))
  | .subReg x y => do
    let a ← reg x
    let b ← reg y
    setWithFlag x (a - b) (decide (b ≤ a))
  | .shiftRight x => do
    let a ← reg x
    setWithFlag x (a >>> 1) (a.toNat.testBit 0)
  | .subFromReg x y => do
    let a ← reg x
    let b ← reg y
    setWithFlag x (b - a) (decide (a ≤ b))
  | .shiftLeft x => do
    let a ← reg x
    setWithFlag x (a <<< 1) (a.toNat.testBit 7)
  | .skipNeReg x y => do skipIf ((← reg x) != (← reg y))
  | .loadIndex addr => do
    modify fun m => { m with i := addr }
    advance
  | .jumpV0 addr => jumpV0 addr
  | .random x kk => setAndAdvance x (byte &&& kk)
  | .draw x y n => draw x y n
  | .skipKeyPressed x => do
    let key ← reg x
    skipIf ((← get).keypad.holds key)
  | .skipKeyNotPressed x => do
    let key ← reg x
    skipIf (!(← get).keypad.holds key)
  | .loadDelay x => do setAndAdvance x (← get).timers.delay
  | .waitKey x => waitKey x
  | .setDelay x => do
    let a ← reg x
    modify fun m => { m with timers := { m.timers with delay := a } }
    advance
  | .setSound x => do
    let a ← reg x
    modify fun m => { m with timers := { m.timers with sound := a } }
    advance
  | .addIndex x => do
    let a ← reg x
    modify fun m => { m with i := m.i + a.toUInt16 }
    advance
  | .loadFont x => do
    let a ← reg x
    modify fun m => { m with i := a.toUInt16 * glyphSize }
    advance
  | .storeBcd x => do storeAtIndex (bcd (← reg x))
  | .storeRegs x => do storeAtIndex (← regsUpTo x)
  | .loadRegs x => loadRegs x
  | .unrecognized _ => advance

end Work

/-- A machine with its random source and the number of instructions executed since the last reset. -/
structure Processor where
  machine : Machine
  random : Random
  executed : UInt64
  deriving DecidableEq

namespace Processor

def powerOn (random : Random) : Processor := ⟨.powerOn, random, 0⟩

/-- Back to power-on; the random source goes on where it is. -/
def reset (p : Processor) : Processor := powerOn p.random

/-- Executes one instruction in place. Only `Cxkk` takes a byte from the random source. -/
def execute (p : Processor) (i : Instruction) : Processor × Except Stop Unit :=
  let byte := if i.draws then p.random.offer else 0
  let random := if i.draws then p.random.advance else p.random
  match (Work.execute byte i).run p.machine with
  | .ok () machine => ({ p with machine, random }, .ok ())
  | .error stop machine => ({ p with machine, random }, .error stop)

/-- Counts one more instruction. The instruction has been carried out by then: at a full counter it is the sum
that has no value, and no processor is left to go on with. -/
def count (p : Processor) : Except Failure Processor :=
  if p.executed.toNat + 1 < UInt64.size then .ok { p with executed := p.executed + 1 }
  else .error (.crash .counterFull)

def fetch (p : Processor) : Except Failure UInt16 :=
  match p.machine.fetch p.machine.pc with
  | .ok word => .ok word
  | .error _ => .error (.fetchOutOfBounds p.machine.pc)

/-- One step: fetches, decodes and executes one instruction, and says which. A fault leaves the processor that
the instruction made of it. A crash leaves none: the processor of before stands in for it, also at a full counter,
where the instruction has already been carried out when the count overflows. -/
def step (p : Processor) : Processor × Except Failure Instruction :=
  match p.fetch with
  | .error e => (p, .error e)
  | .ok word =>
    let i := Instruction.decode word
    match p.execute i with
    | (q, .error (.fault f)) => (q, .error (.fault p.machine.pc word f))
    | (_, .error (.crash c)) => (p, .error (.crash c))
    | (q, .ok ()) =>
      match q.count with
      | .ok q => (q, .ok i)
      | .error e => (p, .error e)

/-- Up to `n` steps; the first failure ends the run. -/
def run : Nat → Processor → Processor × Except Failure Unit
  | 0, p => (p, .ok ())
  | n + 1, p =>
    match p.step with
    | (q, .ok _) => run n q
    | (q, .error e) => (q, .error e)

end Processor

end Chip8
