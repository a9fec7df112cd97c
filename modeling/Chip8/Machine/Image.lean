import Chip8.Json.Reader
import Chip8.Machine

namespace Chip8

/-- The raw contents of a machine as a value describes them, before it is known whether they make a machine. -/
structure Image where
  memory : List UInt8
  v : Vector UInt8 registerCount
  i : UInt16
  pc : UInt16
  stack : Vector UInt16 stackSize
  sp : Nat
  /-- One byte per cell of the screen, 1 for a lit one. -/
  pixels : List UInt8
  dirty : Bool
  timers : Timers
  keypad : Keypad
  deriving DecidableEq

inductive Image.Defect where
  | memorySize (size : Nat)
  | stackPointer (sp : Nat)
  | pixelCount (count : Nat)
  | pixelValue
  deriving DecidableEq

def Image.Defect.message : Image.Defect → String
  | .memorySize size =>
    "memory is " ++ Nat.repr size ++ " bytes, expected " ++ Nat.repr Chip8.memorySize
  | .stackPointer sp => "stack pointer " ++ Nat.repr sp ++ " exceeds " ++ Nat.repr stackSize
  | .pixelCount count =>
    "display has " ++ Nat.repr count ++ " pixels, expected " ++ Nat.repr Display.cellCount
  | .pixelValue => "display pixels must be 0 or 1"

namespace Image

def ofMachine (m : Machine) : Image where
  memory := m.memory.toList
  v := m.v
  i := m.i
  pc := m.pc
  stack := m.stack
  sp := m.sp
  pixels := m.display.cells.toList
  dirty := m.display.dirty
  timers := m.timers
  keypad := m.keypad

/-- Bytes of which none is above 1 are the cells of a display. -/
theorem binary_of_all {cells : Vector UInt8 Display.cellCount}
    (h : (cells.toList.all fun p => decide (p ≤ 1)) = true) (p : Display.Place) : cells.get p ≤ 1 := by
  rw [List.all_eq_true] at h
  have hp := h (cells.get p) (Vector.mem_toList_iff.mpr (Vector.getElem_mem p.isLt))
  exact of_decide_eq_true hp

/-- The machine of an image, or the first defect. -/
def machine (image : Image) : Except Defect Machine :=
  if hm : image.memory.length = memorySize then
    if image.sp ≤ stackSize then
      if hp : image.pixels.length = Display.cellCount then
        if hb : (image.pixels.all fun p => decide (p ≤ 1)) = true then
          .ok {
            memory := ⟨image.memory.toArray, by simpa using hm⟩
            v := image.v
            i := image.i
            pc := image.pc
            stack := image.stack
            sp := image.sp
            display := {
              cells := ⟨image.pixels.toArray, by simpa using hp⟩
              dirty := image.dirty
              binary := binary_of_all hb }
            timers := image.timers
            keypad := image.keypad }
        else .error .pixelValue
      else .error (.pixelCount image.pixels.length)
    else .error (.stackPointer image.sp)
  else .error (.memorySize image.memory.length)

theorem all_cells (d : Display) : (d.cells.toList.all fun p => decide (p ≤ 1)) = true := by
  rw [List.all_eq_true]
  intro p hp
  obtain ⟨k, hk, rfl⟩ := List.getElem_of_mem hp
  simpa using d.binary ⟨k, by simpa using hk⟩

/-- The image of a valid machine is admitted and gives the machine back. -/
theorem machine_ofMachine {m : Machine} (h : m.Valid) : (ofMachine m).machine = .ok m := by
  have hs : m.sp ≤ stackSize := h
  unfold machine ofMachine
  simp only [Vector.length_toList, dite_true, hs, if_true, all_cells]
  rfl

/-- Whether an image is one of a machine, and what is wrong otherwise. -/
def validate (image : Image) : Except Defect Unit := image.machine.map fun _ => ()

def toJson (image : Image) : Json :=
  .object [
    ("display", .object [
      ("dirty", .bool image.dirty),
      ("pixels", .array (image.pixels.map fun p => .ofNat p.toNat))]),
    ("i", .ofNat image.i.toNat),
    ("keypad", .ofNat image.keypad.mask.toNat),
    ("memory", .array (image.memory.map fun b => .ofNat b.toNat)),
    ("pc", .ofNat image.pc.toNat),
    ("sp", .ofNat image.sp),
    ("stack", .array (image.stack.toList.map fun a => .ofNat a.toNat)),
    ("timers", .object [
      ("delay", .ofNat image.timers.delay.toNat),
      ("sound", .ofNat image.timers.sound.toNat)]),
    ("v", .array (image.v.toList.map fun b => .ofNat b.toNat))]

def readByte (v : Json) : Except Json.Error UInt8 := (v.unsigned 8).map .ofNat

def readWord (v : Json) : Except Json.Error UInt16 := (v.unsigned 16).map .ofNat

def readDisplay (v : Json) : Except Json.Error (List UInt8 × Bool) :=
  match v with
  | .object _ => do
    let dirty ← v.field? "dirty" Json.boolean
    let pixels ← v.field? "pixels" (·.sequence readByte)
    let pixels ← Json.required "pixels" pixels
    let dirty ← Json.required "dirty" dirty
    return (pixels, dirty)
  | .array items => do
    let pixels ← Json.item "Display" 2 items 0 (·.sequence readByte)
    let dirty ← Json.item "Display" 2 items 1 Json.boolean
    Json.noMoreThan 2 items
    return (pixels, dirty)
  | v => v.mismatch (.record "Display")

def readTimers (v : Json) : Except Json.Error Timers :=
  match v with
  | .object _ => do
    let delay ← v.field? "delay" readByte
    let sound ← v.field? "sound" readByte
    let delay ← Json.required "delay" delay
    let sound ← Json.required "sound" sound
    return ⟨delay, sound⟩
  | .array items => do
    let delay ← Json.item "Timers" 2 items 0 readByte
    let sound ← Json.item "Timers" 2 items 1 readByte
    Json.noMoreThan 2 items
    return ⟨delay, sound⟩
  | v => v.mismatch (.record "Timers")

def readSize (v : Json) : Except Json.Error Nat := v.unsignedAs .size 64

def readKeypad (v : Json) : Except Json.Error Keypad := (readWord v).map .mk

def recordName : String := "Chip8State"

/-- Reads an image. The members of an object are looked at in the order of their names, and only then it is
asked, in the order of the fields, whether one is missing. -/
def ofJson (value : Json) : Except Json.Error Image :=
  match value with
  | .object _ => do
    let display ← value.field? "display" readDisplay
    let i ← value.field? "i" readWord
    let keypad ← value.field? "keypad" readKeypad
    let memory ← value.field? "memory" (·.sequence readByte)
    let pc ← value.field? "pc" readWord
    let sp ← value.field? "sp" readSize
    let stack ← value.field? "stack" (·.arrayOf stackSize readWord)
    let timers ← value.field? "timers" readTimers
    let v ← value.field? "v" (·.arrayOf registerCount readByte)
    let memory ← Json.required "memory" memory
    let v ← Json.required "v" v
    let i ← Json.required "i" i
    let pc ← Json.required "pc" pc
    let stack ← Json.required "stack" stack
    let sp ← Json.required "sp" sp
    let (pixels, dirty) ← Json.required "display" display
    let timers ← Json.required "timers" timers
    let keypad ← Json.required "keypad" keypad
    return { memory, v, i, pc, stack, sp, pixels, dirty, timers, keypad }
  | .array items => do
    let memory ← Json.item recordName 9 items 0 (·.sequence readByte)
    let v ← Json.item recordName 9 items 1 (·.arrayOf registerCount readByte)
    let i ← Json.item recordName 9 items 2 readWord
    let pc ← Json.item recordName 9 items 3 readWord
    let stack ← Json.item recordName 9 items 4 (·.arrayOf stackSize readWord)
    let sp ← Json.item recordName 9 items 5 readSize
    let (pixels, dirty) ← Json.item recordName 9 items 6 readDisplay
    let timers ← Json.item recordName 9 items 7 readTimers
    let keypad ← Json.item recordName 9 items 8 readKeypad
    Json.noMoreThan 9 items
    return { memory, v, i, pc, stack, sp, pixels, dirty, timers, keypad }
  | v => v.mismatch (.record recordName)

end Image

end Chip8
