import Chip8.Proofs.Execution
import Chip8.Proofs.Saves.Reading
import Mathlib.Data.Nat.Bitwise

namespace Chip8.Image

section Accesses

variable (image : Image)

/-- The bytes of a range, which may not go beyond the last byte. -/
def slice (bytes : List UInt8) (start len : Nat) : Option (List UInt8) :=
  if start + len ≤ bytes.length then some ((bytes.drop start).take len) else none

/-- Copies `source` over a range of its length, which may not go beyond the last byte. -/
def splice (bytes : List UInt8) (start : Nat) (source : List UInt8) : Option (List UInt8) :=
  if start + source.length ≤ bytes.length then
    some (bytes.take start ++ source ++ bytes.drop (start + source.length))
  else none

/-- Asks whether a range lies in memory, before it is looked at. -/
def range (start len : Nat) : Except Fault Unit :=
  if image.memory.length < start + len then .error (.memoryOutOfBounds (max start image.memory.length))
  else .ok ()

def read (start len : Nat) : Option (Except Fault (List UInt8)) :=
  match image.range start len with
  | .error f => some (.error f)
  | .ok () => (slice image.memory start len).map .ok

def fetch (addr : UInt16) : Option (Except Fault UInt16) :=
  match image.read addr.toNat 2 with
  | none => none
  | some (.error f) => some (.error f)
  | some (.ok bytes) => do
    let high ← bytes[0]?
    let low ← bytes[1]?
    return .ok (Word.ofBytes high low)

def write (start : Nat) (bytes : List UInt8) : Option (Except Fault Image) :=
  match image.range start bytes.length with
  | .error f => some (.error f)
  | .ok () => (splice image.memory start bytes).map fun memory => .ok { image with memory }

def load (program : List UInt8) : Option (Except Failure Image) :=
  if maxProgramSize < program.length then some (.error (.programTooLarge program.length maxProgramSize))
  else (splice image.memory programStart.toNat program).map fun memory => .ok { image with memory }

/-- Flips the pixel at an index, which may not lie beyond the last one, and notes whether it held a 1. -/
def flipPixel (acc : Image × Bool) (k : Nat) : Option (Image × Bool) :=
  acc.1.pixels[k]?.map fun pixel =>
    ({ acc.1 with pixels := acc.1.pixels.set k (pixel ^^^ 1), dirty := true }, acc.2 || pixel == 1)

/-- Draws column `c` of a sprite row: the highest bit of the row is column 0. -/
def drawColumn (x y : Nat) (bits : UInt8) (acc : Image × Bool) (c : Nat) : Option (Image × Bool) :=
  if bits &&& (0x80 >>> UInt8.ofNat c) = 0 then some acc else flipPixel acc ((x + c) % 64 + (y % 32) * 64)

/-- Draws a sprite row, which comes with its number. -/
def drawRow (x y : Nat) (acc : Image × Bool) (row : UInt8 × Nat) : Option (Image × Bool) :=
  (List.range 8).foldlM (drawColumn x (y + row.2) row.1) acc

/-- Draws a sprite row by row and column by column. -/
def draw (x y : UInt8) (sprite : List UInt8) : Option (Image × Bool) :=
  sprite.zipIdx.foldlM (drawRow x.toNat y.toNat) (image, false)

end Accesses

section Memory

variable {m : Machine}

theorem range_ofMachine (start len : Nat) :
    (ofMachine m).range start len =
      if start + len ≤ memorySize then .ok () else .error (Memory.outside start) := by
  have hlength : (ofMachine m).memory.length = memorySize := Vector.length_toList
  unfold range
  rw [hlength]
  by_cases h : start + len ≤ memorySize
  · rw [if_neg (Nat.not_lt.mpr h), if_pos h]
  · rw [if_pos (Nat.lt_of_not_le h), if_neg h]
    rfl

theorem slice_toList (memory : Memory) {start len : Nat} (h : start + len ≤ memorySize) :
    slice memory.toList start len = some (memory.slice start len h) := by
  have hlength : memory.toList.length = memorySize := Vector.length_toList
  rw [slice, hlength, if_pos h, Option.some_inj]
  apply List.ext_getElem
  · simp only [List.length_take, List.length_drop, hlength, Memory.slice, List.length_ofFn]
    omega
  · intro k hk hk'
    simp [Memory.slice]

theorem splice_toList (memory : Memory) {start : Nat} {bytes : List UInt8}
    (h : start + bytes.length ≤ memorySize) :
    splice memory.toList start bytes = some (memory.overwrite start bytes h).toList := by
  have hlength : memory.toList.length = memorySize := Vector.length_toList
  rw [splice, hlength, if_pos h, Option.some_inj]
  -- the list is cut where the bytes begin and where they end
  have hcut : (memory.toList.take start).length = start := by
    rw [List.length_take, hlength]
    omega
  apply List.ext_getElem?
  intro a
  rw [Vector.getElem?_toList, Memory.overwrite_eq_put, Memory.getElem?_put, List.append_assoc]
  rcases Nat.lt_or_ge a start with hbelow | habove
  · rw [if_neg (by omega), List.getElem?_append_left (by omega), List.getElem?_take_of_lt hbelow,
      Vector.getElem?_toList]
  · rw [List.getElem?_append_right (by omega), hcut]
    rcases Nat.lt_or_ge (a - start) bytes.length with hin | hbeyond
    · rw [if_pos (by omega), List.getElem?_append_left hin]
    · have hplace : start + bytes.length + (a - start - bytes.length) = a := by omega
      rw [if_neg (by omega), List.getElem?_append_right hbeyond, List.getElem?_drop, hplace,
        Vector.getElem?_toList]

theorem read_ofMachine (start len : Nat) :
    (ofMachine m).read start len = some (m.memory.read start len) := by
  rw [read, range_ofMachine, Memory.read]
  by_cases h : start + len ≤ memorySize
  · have hslice : slice (ofMachine m).memory start len = some (m.memory.slice start len h) := slice_toList _ h
    rw [if_pos h, dif_pos h, hslice]
    rfl
  · rw [if_neg h, dif_neg h]

theorem fetch_ofMachine (addr : UInt16) : (ofMachine m).fetch addr = some (m.fetch addr) := by
  rw [fetch, read_ofMachine, Memory.read, Machine.fetch]
  by_cases h : addr.toNat + 2 ≤ memorySize
  · rw [dif_pos h, dif_pos h]
    simp [Memory.slice]
  · rw [dif_neg h, dif_neg h]

theorem write_ofMachine (start : Nat) (bytes : List UInt8) :
    (ofMachine m).write start bytes =
      some ((m.memory.write start bytes).map fun memory => ofMachine { m with memory }) := by
  rw [write, range_ofMachine, Memory.write]
  by_cases h : start + bytes.length ≤ memorySize
  · have hsplice : splice (ofMachine m).memory start bytes = some (m.memory.overwrite start bytes h).toList :=
      splice_toList _ h
    rw [if_pos h, dif_pos h, hsplice]
    rfl
  · rw [if_neg h, dif_neg h]
    rfl

theorem load_ofMachine (program : List UInt8) :
    (ofMachine m).load program = some ((m.load program).map ofMachine) := by
  rw [load, Machine.load]
  by_cases h : program.length ≤ maxProgramSize
  · have hfits : programStart.toNat + program.length ≤ memorySize := by
      have hstart : programStart.toNat = 512 := rfl
      unfold maxProgramSize at h
      unfold memorySize
      omega
    have hsplice : splice (ofMachine m).memory programStart.toNat program =
        some (m.memory.overwrite programStart.toNat program hfits).toList := splice_toList _ hfits
    rw [if_neg (Nat.not_lt.mpr h), dif_pos h, hsplice]
    rfl
  · rw [if_pos (Nat.lt_of_not_le h), dif_neg h]
    rfl

end Memory

section Screen

variable {m : Machine}

def onScreen (m : Machine) (acc : Display × Bool) : Image × Bool :=
  (ofMachine { m with display := acc.1 }, acc.2)

theorem flipPixel_onScreen (acc : Display × Bool) (p : Display.Place) :
    flipPixel (onScreen m acc) p.val = some (onScreen m (Display.hit acc p)) := by
  have hpixel : acc.1.cells.toList[p.val]? = some acc.1.cells[p] := by
    rw [Vector.getElem?_toList]
    exact Vector.getElem?_eq_getElem p.isLt
  simp only [flipPixel, onScreen, ofMachine, hpixel, Option.map_some, Display.hit, Display.flip]
  rw [Vector.toList_set]

theorem and_shift_eq_zero_iff (bits : UInt8) {c : Nat} (hc : c < 8) :
    bits &&& (0x80 >>> UInt8.ofNat c) = 0 ↔ bits.toNat.testBit (7 - c) = false := by
  have hmask : ∀ c < 8, ((0x80 : UInt8) >>> UInt8.ofNat c).toNat = 2 ^ (7 - c) := by decide
  rw [← UInt8.toNat_inj, UInt8.toNat_and, hmask c hc, Nat.and_two_pow]
  cases bits.toNat.testBit (7 - c) <;> simp

theorem drawColumn_onScreen (x y : Nat) (bits : UInt8) (acc : Display × Bool) {c : Nat} (hc : c < 8) :
    drawColumn x y bits (onScreen m acc) c =
      some (onScreen m (if bits.toNat.testBit (7 - c) then Display.hit acc (Display.place (x + c) y) else acc)) := by
  unfold drawColumn
  by_cases hbit : bits.toNat.testBit (7 - c) = true
  · have hset : ¬ bits &&& (0x80 >>> UInt8.ofNat c) = 0 := by
      rw [and_shift_eq_zero_iff bits hc, hbit]
      exact Bool.noConfusion
    rw [if_neg hset, if_pos hbit, Nat.mul_comm]
    exact flipPixel_onScreen acc (Display.place (x + c) y)
  · have hunset := (and_shift_eq_zero_iff bits hc).mpr (Bool.eq_false_iff.mpr hbit)
    rw [if_pos hunset, if_neg hbit]

theorem foldlM_drawColumn_onScreen (x y : Nat) (bits : UInt8) {columns : List Nat} (hc : ∀ c ∈ columns, c < 8)
    (acc : Display × Bool) :
    columns.foldlM (drawColumn x y bits) (onScreen m acc) =
      some (onScreen m (((columns.filter fun c => bits.toNat.testBit (7 - c)).map fun c =>
        Display.place (x + c) y).foldl Display.hit acc)) := by
  induction columns generalizing acc with
  | nil => rfl
  | cons c columns ih =>
    obtain ⟨hc, hcolumns⟩ := List.forall_mem_cons.mp hc
    rw [List.foldlM_cons, drawColumn_onScreen x y bits acc hc, Option.bind_eq_bind, Option.bind_some,
      ih hcolumns]
    cases hbit : bits.toNat.testBit (7 - c) <;> simp [hbit]

theorem foldlM_drawRow_onScreen (x y k : Nat) (sprite : List UInt8) (acc : Display × Bool) :
    (sprite.zipIdx k).foldlM (drawRow x y) (onScreen m acc) =
      some (onScreen m ((Display.spritePlaces x (y + k) sprite).foldl Display.hit acc)) := by
  induction sprite generalizing k acc with
  | nil => rfl
  | cons bits below ih =>
    have hrow : drawRow x y (onScreen m acc) (bits, k) =
        some (onScreen m (((Display.setColumns bits).map fun c =>
          Display.place (x + c) (y + k)).foldl Display.hit acc)) :=
      foldlM_drawColumn_onScreen x (y + k) bits (fun c => List.mem_range.mp) acc
    rw [List.zipIdx_cons, List.foldlM_cons, hrow, Option.bind_eq_bind, Option.bind_some, ih,
      Display.spritePlaces, List.foldl_append, Nat.add_assoc]

/-- The loops over the bytes of a sprite draw what is drawn on the screen. -/
theorem draw_ofMachine (m : Machine) (x y : UInt8) (sprite : List UInt8) :
    (ofMachine m).draw x y sprite =
      some (ofMachine { m with display := (m.display.draw x y sprite).1 }, (m.display.draw x y sprite).2) :=
  foldlM_drawRow_onScreen x.toNat y.toNat 0 sprite (m.display, false)

end Screen

/-- Every access to the raw bytes finds them, and is the access of the machine. -/
structure Mirrors (image : Image) (m : Machine) : Prop where
  read : ∀ start len, image.read start len = some (m.memory.read start len)
  fetch : ∀ addr, image.fetch addr = some (m.fetch addr)
  write : ∀ start bytes, image.write start bytes =
    some ((m.memory.write start bytes).map fun memory => ofMachine { m with memory })
  load : ∀ program, image.load program = some ((m.load program).map ofMachine)
  draw : ∀ x y sprite, image.draw x y sprite =
    some (ofMachine { m with display := (m.display.draw x y sprite).1 }, (m.display.draw x y sprite).2)

theorem mirrors_ofMachine (m : Machine) : (ofMachine m).Mirrors m :=
  ⟨read_ofMachine, fetch_ofMachine, write_ofMachine, load_ofMachine, draw_ofMachine m⟩

section Validated

variable {image : Image} (h : image.validate = .ok ())
include h

theorem exists_machine : ∃ m, m.Valid ∧ image = ofMachine m := by
  unfold validate at h
  cases hm : image.machine with
  | error d =>
    rw [hm] at h
    cases h
  | ok m => exact ⟨m, machine_eq_ok_iff.mp hm⟩

/-- Drawing on a screen that passes validation reaches no pixel that is not there and leaves one that passes. -/
theorem draw_validated (x y : UInt8) (sprite : List UInt8) :
    ∃ after, image.draw x y sprite = some after ∧ after.1.validate = .ok () := by
  obtain ⟨m, hm, rfl⟩ := exists_machine h
  have hdrawn : { m with display := (m.display.draw x y sprite).1 : Machine }.Valid := hm
  exact ⟨_, draw_ofMachine m x y sprite, validate_ofMachine hdrawn⟩

end Validated

end Chip8.Image
