import Chip8.Console
import Chip8.Instruction.Mnemonic
import Chip8.Log.Logger

namespace Chip8

open Text Log

/-- Something that a console has to tell about itself. Events are read off the states before an operation and its
result, so telling them cannot change what the console does. -/
inductive Event where
  | fetched (pc word : UInt16)
  | fetchFailed (pc : UInt16)
  | faulted (pc word : UInt16) (f : Fault)
  | displayCleared
  | spriteDrawn (height : Nat) (x y : UInt8) (i : UInt16) (collision : Bool)
  | keyTaken (key x : UInt8)
  | unrecognized (word pc : UInt16)
  | keysChanged (mask : UInt16)
  | programLoaded (size : Nat)
  /-- The mounted program could not be put into memory. -/
  | reloadFailed (e : Failure)
  deriving DecidableEq

namespace Event

def category : Event → Category
  | .fetched _ _ | .fetchFailed _ | .faulted _ _ _ => .cpu
  | .displayCleared | .spriteDrawn _ _ _ _ _ => .display
  | .keyTaken _ _ | .keysChanged _ => .input
  | .unrecognized _ _ => .stubs
  | .programLoaded _ | .reloadFailed _ => .memory

def level : Event → Level
  | .fetched _ _ | .spriteDrawn _ _ _ _ _ => .trace
  | .fetchFailed _ | .faulted _ _ _ | .reloadFailed _ => .error
  | .displayCleared | .keyTaken _ _ | .keysChanged _ => .debug
  | .unrecognized _ _ => .warn
  | .programLoaded _ => .info

def body : Event → String
  | .fetched pc word =>
    hex 3 pc.toNat ++ "  " ++ hex 4 word.toNat ++ "  " ++ (Instruction.decode word).mnemonic
  | .fetchFailed pc => "fetch out of bounds at PC=" ++ hexMarked 4 pc.toNat
  | .faulted pc word f =>
    f.message ++ " executing " ++ hex 4 word.toNat ++ " at PC=" ++ hex 3 pc.toNat
  | .displayCleared => "display cleared"
  | .spriteDrawn height x y i collision =>
    "sprite " ++ Nat.repr height ++ "x8 at (" ++ Nat.repr x.toNat ++ ", " ++ Nat.repr y.toNat ++
      ") from I=" ++ hex 3 i.toNat ++ ", collision=" ++ (if collision then "true" else "false")
  | .keyTaken key x => "key " ++ hex 1 key.toNat ++ " satisfied wait into V" ++ hex 1 x.toNat
  | .unrecognized word pc =>
    "unrecognized opcode " ++ hex 4 word.toNat ++ " at PC=" ++ hex 3 pc.toNat ++ ", skipping"
  | .keysChanged mask => "keypad " ++ binary 16 mask.toNat
  | .programLoaded size => "loaded " ++ Nat.repr size ++ " byte program at 0x200"
  | .reloadFailed e => "reload after reset failed: " ++ e.message

def text (e : Event) : String := "CHIP-8: " ++ e.body

end Event

def Log.Logger.tell (log : Logger) (events : List Event) : Logger :=
  events.foldl (fun log e => (log.offer e.category e.level fun _ => e.text).1) log

/-- Offers events to a logger; they are made only if the logger wants anything at all. -/
def Log.Logger.hear (log : Logger) (events : Unit → List Event) : Logger :=
  if log.filter = .silent then log else log.tell (events ())

namespace Machine

/-- What executing an instruction on `m` has to tell, given the machine that it left and how it ended. -/
def executionEvents (m : Machine) (i : Instruction) (left : Machine) (result : Except Stop Unit) :
    List Event :=
  match i with
  | .clearDisplay => [.displayCleared]
  | .draw x y n =>
    match result, m.v[x.toNat]?, m.v[y.toNat]? with
    | .ok (), some column, some row =>
      [.spriteDrawn (spriteHeight n) column row m.i (left.v[15] == 1)]
    | _, _, _ => []
  | .waitKey x =>
    match m.keypad.lowest? with
    | some key => [.keyTaken key x]
    | none => []
  | .unrecognized word => [.unrecognized word m.pc]
  | _ => []

end Machine

namespace Processor

def executionEvents (p : Processor) (i : Instruction) : List Event :=
  let (q, result) := p.execute i
  p.machine.executionEvents i q.machine result

/-- What a step has to tell: the instruction fetched, then what its execution tells, then its fault. -/
def events (p : Processor) : List Event :=
  match p.fetch with
  | .error _ => [.fetchFailed p.machine.pc]
  | .ok word =>
    let i := Instruction.decode word
    .fetched p.machine.pc word :: p.executionEvents i ++
      match (p.execute i).2 with
      | .error (.fault f) => [.faulted p.machine.pc word f]
      | _ => []

def runEvents : Nat → Processor → List Event
  | 0, _ => []
  | n + 1, p =>
    p.events ++
      match p.step with
      | (q, .ok _) => runEvents n q
      | (_, .error _) => []

end Processor

namespace Console

def reloadEvents (c : Console) : List Event :=
  match c.program, c.reload with
  | some program, .ok _ => [.programLoaded program.length]
  | _, _ => []

def resetEvents (c : Console) : List Event :=
  match c.cleared.reload with
  | .ok _ => c.cleared.reloadEvents
  | .error e => [.reloadFailed e]

def mountEvents (c : Console) (id : String) (program : List UInt8) : List Event :=
  match c.mount id program with
  | (_, .ok ()) => [.programLoaded program.length]
  | _ => []

def stepEvents (c : Console) : List Event :=
  match c.program with
  | none => []
  | some _ => c.processor.events

def frameEvents (c : Console) : List Event :=
  match c.program with
  | none => []
  | some _ => c.processor.runEvents c.settings.instructionsPerFrame.toNat

def setKeysEvents (c : Console) (mask : UInt16) : List Event :=
  if mask = c.machine.keypad.mask then [] else [.keysChanged mask]

end Console

end Chip8
