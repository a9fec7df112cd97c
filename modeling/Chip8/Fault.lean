import Chip8.Text.Hex

namespace Chip8

open Text

/-- A fault that an instruction, a memory access or a stack operation raises. -/
inductive Fault where
  /-- A return address was pushed although `depth` slots are in use. -/
  | stackOverflow (depth : Nat)
  | stackUnderflow
  /-- The first address of an access that lies outside memory. -/
  | memoryOutOfBounds (addr : Nat)
  deriving DecidableEq

def Fault.message : Fault → String
  | .stackOverflow depth => "call stack overflow (depth " ++ Nat.repr depth ++ ")"
  | .stackUnderflow => "return with empty call stack"
  | .memoryOutOfBounds addr => "memory access out of bounds at " ++ hexMarked 4 addr

/-- A use of the machine that has no meaning, which ends whatever is going on in no defined way; a run ends with a
report of it. Decoded instructions on a valid machine meet only `counterFull`. -/
inductive Crash where
  | noSuchRegister (x : Nat)
  | noSuchSlot (slot : Nat)
  /-- A jump whose target does not fit in sixteen bits. -/
  | targetTooLarge
  | counterFull
  deriving DecidableEq

def Crash.message : Crash → String
  | .noSuchRegister x => "no register " ++ Nat.repr x
  | .noSuchSlot slot => "no stack slot " ++ Nat.repr slot
  | .targetTooLarge => "jump target exceeds 0xFFFF"
  | .counterFull => "instruction counter is full"

inductive Stop where
  | fault (f : Fault)
  | crash (c : Crash)
  deriving DecidableEq

/-- Why an operation on a console did not complete. -/
inductive Failure where
  /-- The instruction `word` at `pc` raised a fault. -/
  | fault (pc word : UInt16) (f : Fault)
  | fetchOutOfBounds (pc : UInt16)
  /-- A program of `size` bytes where at most `max` fit. -/
  | programTooLarge (size max : Nat)
  | noProgram
  | invalidMountPoint (id : String)
  | crash (c : Crash)
  deriving DecidableEq

def Failure.message : Failure → String
  | .fault pc word f =>
    f.message ++ " executing " ++ hex 4 word.toNat ++ " at PC=" ++ hexMarked 3 pc.toNat
  | .fetchOutOfBounds pc => "instruction fetch out of bounds at PC=" ++ hexMarked 4 pc.toNat
  | .programTooLarge size max =>
    "Program too large (" ++ Nat.repr size ++ " bytes), max size is " ++ Nat.repr max ++ " bytes"
  | .noProgram => "No program loaded"
  | .invalidMountPoint id => "Invalid mount point: " ++ id
  | .crash c => c.message

end Chip8
