import Chip8.Machine.Image
import Chip8.Processor
import Chip8.Settings

namespace Chip8

/-- A processor with its settings and the mounted program. Operations that can fail answer with the console that they
leave. -/
structure Console where
  processor : Processor
  settings : MachineSettings
  program : Option (List UInt8)
  deriving DecidableEq

structure MountPoint where
  id : String
  name : String
  extensions : List String
  required : Bool
  deriving DecidableEq

namespace Console

def programSlot : String := "Program"

def mountPoints : List MountPoint :=
  [⟨programSlot, "Program Image", ["ch8", "c8", "rom"], true⟩]

def canSave : Bool := true

/-- The random source of a console with given settings; `chance` serves where there is no seed. -/
def source (settings : MachineSettings) (chance : Random) : Random :=
  match settings.seed with
  | some seed => .ofSeed seed
  | none => chance

/-- A console at power-on with nothing mounted. -/
def powerOn (settings : MachineSettings) (chance : Random) : Console :=
  ⟨.powerOn (source settings chance), settings, none⟩

def machine (c : Console) : Machine := c.processor.machine

def withMachine (c : Console) (m : Machine) : Console :=
  { c with processor := { c.processor with machine := m } }

/-- Puts the mounted program, if any, into the memory of a machine. -/
def reload (c : Console) : Except Failure Console :=
  match c.program with
  | some program => return c.withMachine (← c.machine.load program)
  | none => return c

/-- The processor back to power-on, nothing loaded. -/
def cleared (c : Console) : Console := { c with processor := c.processor.reset }

/-- Back to power-on, with the mounted program loaded if it can be. -/
def reset (c : Console) : Console :=
  match c.cleared.reload with
  | .ok c => c
  | .error _ => c.cleared

/-- Mounts a program and loads it into a machine at power-on. -/
def mount (c : Console) (id : String) (program : List UInt8) : Console × Except Failure Unit :=
  if id ≠ programSlot then (c, .error (.invalidMountPoint id))
  else if maxProgramSize < program.length then
    (c, .error (.programTooLarge program.length maxProgramSize))
  else
    let c := { c.cleared with program := some program }
    match c.reload with
    | .ok c => (c, .ok ())
    | .error e => (c, .error e)

/-- Takes the program out of its slot; the machine stays as it is. -/
def unmount (c : Console) (id : String) : Console × Except Failure Unit :=
  if id ≠ programSlot then (c, .error (.invalidMountPoint id))
  else ({ c with program := none }, .ok ())

def isMounted (c : Console) (id : String) : Bool := id == programSlot && c.program.isSome

def step (c : Console) : Console × Except Failure Instruction :=
  match c.program with
  | none => (c, .error .noProgram)
  | some _ =>
    let (processor, result) := c.processor.step
    ({ c with processor := processor }, result)

def tick (c : Console) : Console := c.withMachine { c.machine with timers := c.machine.timers.tick }

/-- Runs one frame and answers with its picture. A failure ends the frame before the tick. -/
def stepFrame (c : Console) : Console × Except Failure Frame :=
  match c.program with
  | none => (c, .error .noProgram)
  | some _ =>
    match c.processor.run c.settings.instructionsPerFrame.toNat with
    | (processor, .error e) => ({ c with processor := processor }, .error e)
    | (processor, .ok ()) =>
      let c := tick { c with processor := processor }
      (c, .ok c.machine.display.frame)

def withKeypad (c : Console) (k : Keypad) : Console := c.withMachine { c.machine with keypad := k }

def setKeys (c : Console) (mask : UInt16) : Console := c.withKeypad ⟨mask⟩

def press (c : Console) (key : UInt8) : Console := c.withKeypad (c.machine.keypad.press key)

def release (c : Console) (key : UInt8) : Console := c.withKeypad (c.machine.keypad.release key)

def sounding (c : Console) : Bool := c.machine.timers.sounding

/-- The text of the display if it changed since it was last asked for. -/
def takeUpdate (c : Console) : Console × Option String :=
  let (dirty, display) := c.machine.display.takeDirty
  (c.withMachine { c.machine with display := display }, if dirty then some display.text else none)

end Console

end Chip8
