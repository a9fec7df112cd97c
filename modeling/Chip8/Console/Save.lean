import Chip8.Console

namespace Chip8

namespace Save

def systemName : String := "chip8"

def version : UInt64 := 1

inductive Refusal where
  /-- The save is for another system, or does not say for which. -/
  | wrongSystem (found : Option String)
  | wrongVersion (found : Option UInt64)
  | noMachine
  /-- The machine section is not what a machine section is. -/
  | malformed (e : Json.Error)
  | defective (d : Image.Defect)
  deriving DecidableEq

def optionText : Option String → String
  | some s => "Some(" ++ s ++ ")"
  | none => "None"

def Refusal.message : Refusal → String
  | .wrongSystem found =>
    "save state is for system " ++ optionText (found.map Text.quoted) ++ ", not chip8"
  | .wrongVersion found =>
    "unsupported save state version " ++ optionText (found.map fun n => Nat.repr n.toNat)
  | .noMachine => "save state has no machine section"
  | .malformed e => e.message
  | .defective d => d.message

def ofMachine (m : Machine) (executed : UInt64) : Json :=
  .object [
    ("instructions", .ofNat executed.toNat),
    ("machine", (Image.ofMachine m).toJson),
    ("system", .string systemName),
    ("version", .ofNat version.toNat)]

def readMachine (v : Json) : Except Refusal Machine :=
  match Image.ofJson v with
  | .error e => .error (.malformed e)
  | .ok image =>
    match image.machine with
    | .error d => .error (.defective d)
    | .ok m => .ok m

/-- The machine and the instruction counter of a save. A counter that is no whole number is taken for zero. -/
def read (save : Json) : Except Refusal (Machine × UInt64) := do
  let system := (save.member? "system").bind Json.text?
  if system ≠ some systemName then throw (.wrongSystem system)
  let found := (save.member? "version").bind Json.word64?
  if found ≠ some version then throw (.wrongVersion found)
  match save.member? "machine" with
  | none => throw .noMachine
  | some v =>
    let m ← readMachine v
    return (m, ((save.member? "instructions").bind Json.word64?).getD 0)

end Save

namespace Console

/-- The save of a console: machine and instruction counter, but neither the mounted program nor the settings nor the
random source. -/
def save (c : Console) : Json := Save.ofMachine c.machine c.processor.executed

/-- Restores a save; program, settings and random source stay. A save that is refused changes nothing. -/
def restore (c : Console) (save : Json) : Console × Except Save.Refusal Unit :=
  match Save.read save with
  | .ok (m, executed) =>
    ({ c with processor := { c.processor with machine := m, executed := executed } }, .ok ())
  | .error e => (c, .error e)

end Console

end Chip8
