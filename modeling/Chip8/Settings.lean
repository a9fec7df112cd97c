import Chip8.Json.Printer
import Chip8.Json.Reader

namespace Chip8

open Json (Document Error)

structure MachineSettings where
  instructionsPerFrame : UInt32
  /-- The seed of the random source; without one the source is not reproducible. -/
  seed : Option UInt64
  deriving DecidableEq

structure Settings where
  machine : MachineSettings
  keys : UInt16
  realtime : Bool
  deriving DecidableEq

namespace MachineSettings

def default : MachineSettings := ⟨10, none⟩

def recordName : String := "Chip8Config"

/-- The settings as a value; its members keep the order of the fields. -/
def toJson (s : MachineSettings) : Json :=
  .object [
    ("instructions_per_frame", .ofNat s.instructionsPerFrame.toNat),
    ("seed", match s.seed with
      | some seed => .ofNat seed.toNat
      | none => .null)]

structure Draft where
  instructionsPerFrame : Option UInt32
  seed : Option (Option UInt64)

/-- The fields that were read, and the defaults of the others. -/
def Draft.complete (d : Draft) : MachineSettings :=
  ⟨d.instructionsPerFrame.getD default.instructionsPerFrame, d.seed.getD default.seed⟩

def readInstructions (d : Document) : Except Error UInt32 := (d.unsigned 32).map .ofNat

def readSeed (d : Document) : Except Error (Option UInt64) :=
  d.optional fun d => (d.unsigned 64).map .ofNat

def readField (draft : Draft) (name : String) (d : Document) : Except Error Draft :=
  match name with
  | "instructions_per_frame" => do
    return { draft with
      instructionsPerFrame := ← Json.once name draft.instructionsPerFrame (readInstructions d) }
  | "seed" => do return { draft with seed := ← Json.once name draft.seed (readSeed d) }
  | _ => do
    d.skim
    return draft

def ofDocument (d : Document) : Except Error MachineSettings :=
  match d with
  | .object members ending => do
    return (← Document.readMembers readField ⟨none, none⟩ members ending).complete
  | .array items ending => do
    let (instructions, items) ← Document.nextItem readInstructions items ending
    let (seed, items) ← Document.nextItem readSeed items ending
    Document.recordEnd items ending
    return Draft.complete ⟨instructions, seed⟩
  | d => d.mismatch (.record recordName)

def ofJson (v : Json) : Except Error MachineSettings :=
  let instructions (v : Json) := (v.unsigned 32).map UInt32.ofNat
  let seed (v : Json) := v.optional fun v => (v.unsigned 64).map UInt64.ofNat
  match v with
  | .object _ => do
    let instructions ← v.field? "instructions_per_frame" instructions
    let seed ← v.field? "seed" seed
    return Draft.complete ⟨instructions, seed⟩
  | .array items => do
    let instructions ← items[0]?.mapM instructions
    let seed ← items[1]?.mapM seed
    Json.noMoreThan 2 items
    return Draft.complete ⟨instructions, seed⟩
  | v => v.mismatch (.record recordName)

end MachineSettings

namespace Settings

def default : Settings := ⟨.default, 0, false⟩

def recordName : String := "CliConfig"

/-- The settings as a value; its members keep the order of the fields. -/
def toJson (s : Settings) : Json :=
  .object [("machine", s.machine.toJson), ("keys", .ofNat s.keys.toNat), ("realtime", .bool s.realtime)]

def text (s : Settings) : String := s.toJson.compact

structure Draft where
  machine : Option MachineSettings
  keys : Option UInt16
  realtime : Option Bool

/-- The fields that were read, and the defaults of the others. -/
def Draft.complete (d : Draft) : Settings :=
  ⟨d.machine.getD default.machine, d.keys.getD default.keys, d.realtime.getD default.realtime⟩

def readKeys (d : Document) : Except Error UInt16 := (d.unsigned 16).map .ofNat

def readField (draft : Draft) (name : String) (d : Document) : Except Error Draft :=
  match name with
  | "machine" => do
    return { draft with machine := ← Json.once name draft.machine (MachineSettings.ofDocument d) }
  | "keys" => do return { draft with keys := ← Json.once name draft.keys (readKeys d) }
  | "realtime" => do return { draft with realtime := ← Json.once name draft.realtime d.boolean }
  | _ => do
    d.skim
    return draft

def ofDocument (d : Document) : Except Error Settings :=
  match d with
  | .object members ending => do
    return (← Document.readMembers readField ⟨none, none, none⟩ members ending).complete
  | .array items ending => do
    let (machine, items) ← Document.nextItem MachineSettings.ofDocument items ending
    let (keys, items) ← Document.nextItem readKeys items ending
    let (realtime, items) ← Document.nextItem Document.boolean items ending
    Document.recordEnd items ending
    return Draft.complete ⟨machine, keys, realtime⟩
  | d => d.mismatch (.record recordName)

/-- Reads settings from text. Every field may be left out and then has its default; one that is there must be right
and may come only once. -/
def ofText (s : String) : Except Error Settings := (Document.ofText s).readWith ofDocument

end Settings

end Chip8
