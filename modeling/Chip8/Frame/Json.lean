import Chip8.Frame
import Chip8.Json.Printer
import Chip8.Json.Reader

namespace Chip8.Frame

open Json (Document Ending Error)

def recordName : String := "Frame"

/-- A picture as a value; its members keep the order of the fields. -/
def toJson (f : Frame) : Json :=
  .object [
    ("width", .ofNat f.width.toNat),
    ("height", .ofNat f.height.toNat),
    ("pixels", .array (f.pixels.map fun p => .ofNat p.toNat))]

def readWord (d : Document) : Except Error UInt32 := (d.unsigned 32).map .ofNat

structure Draft where
  width : Option UInt32
  height : Option UInt32
  pixels : Option (List UInt32)

def readField (draft : Draft) (name : String) (d : Document) : Except Error Draft :=
  match name with
  | "width" => do return { draft with width := ← Json.once name draft.width (readWord d) }
  | "height" => do return { draft with height := ← Json.once name draft.height (readWord d) }
  | "pixels" => do
    return { draft with pixels := ← Json.once name draft.pixels (d.sequence readWord) }
  | _ => do
    d.skim
    return draft

def Draft.complete (d : Draft) : Except Error Frame := do
  let width ← Json.required "width" d.width
  let height ← Json.required "height" d.height
  let pixels ← Json.required "pixels" d.pixels
  return ⟨width, height, pixels⟩

/-- Reads the next item, which must be there; `before` items were read. -/
def nextField {α : Type} (read : Document → Except Error α) (before : Nat) (items : List Document)
    (ending : Ending) : Except Error (α × List Document) := do
  match ← Document.nextItem read items ending with
  | (some a, rest) => return (a, rest)
  | (none, _) => throw (.shortRecord before recordName 3)

def ofDocument (d : Document) : Except Error Frame :=
  match d with
  | .object members ending => do
    (← Document.readMembers readField ⟨none, none, none⟩ members ending).complete
  | .array items ending => do
    let (width, items) ← nextField readWord 0 items ending
    let (height, items) ← nextField readWord 1 items ending
    let (pixels, items) ← nextField (fun d => d.sequence readWord) 2 items ending
    Document.recordEnd items ending
    return ⟨width, height, pixels⟩
  | d => d.mismatch (.record recordName)

def ofText (s : String) : Except Error Frame := (Document.ofText s).readWith ofDocument

end Chip8.Frame
