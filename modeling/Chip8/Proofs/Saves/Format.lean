import Chip8.Proofs.Saves.RoundTrip
import Mathlib.Data.List.Basic

namespace Chip8

namespace Json

/-- The value is the whole number `n`, which is below `bound`. -/
def IsWhole (v : Json) (bound n : Nat) : Prop := v = .ofNat n ∧ n < bound

/-- The value is the array of the whole numbers `ns`, which are `count` numbers below `bound`. -/
def ListsWhole (v : Json) (count bound : Nat) (ns : List Nat) : Prop :=
  v = .array (ns.map .ofNat) ∧ ns.length = count ∧ ∀ n ∈ ns, n < bound

/-- The value is a record with the given fields: an object that has them, whatever else it has, or the array
of their values and nothing else. -/
def IsRecord (v : Json) (fields : List (String × Json)) : Prop :=
  (∃ members, v = .object members ∧ ∀ f ∈ fields, members.lookup f.1 = some f.2) ∨
    v = .array (fields.map Prod.snd)

end Json

/-- A record of `pixels`, the cells row by row with 1 for a lit one, and `dirty`, the flag. -/
def Display.Described (d : Display) (v : Json) : Prop :=
  ∃ pixels dirty, v.IsRecord [("pixels", pixels), ("dirty", dirty)] ∧
    pixels.ListsWhole 2048 2 (d.cells.toList.map UInt8.toNat) ∧ dirty = .bool d.dirty

/-- A record of `delay` and `sound`. -/
def Timers.Described (t : Timers) (v : Json) : Prop :=
  ∃ delay sound, v.IsRecord [("delay", delay), ("sound", sound)] ∧
    delay.IsWhole 256 t.delay.toNat ∧ sound.IsWhole 256 t.sound.toNat

/-- A record of all that a machine holds. -/
def Machine.Described (m : Machine) (v : Json) : Prop :=
  ∃ memory registers i pc stack sp display timers keypad,
    v.IsRecord [("memory", memory), ("v", registers), ("i", i), ("pc", pc), ("stack", stack),
      ("sp", sp), ("display", display), ("timers", timers), ("keypad", keypad)] ∧
    memory.ListsWhole 4096 256 (m.memory.toList.map UInt8.toNat) ∧
    registers.ListsWhole 16 256 (m.v.toList.map UInt8.toNat) ∧
    i.IsWhole 65536 m.i.toNat ∧ pc.IsWhole 65536 m.pc.toNat ∧
    stack.ListsWhole 24 65536 (m.stack.toList.map UInt16.toNat) ∧
    sp.IsWhole 25 m.sp ∧
    m.display.Described display ∧ m.timers.Described timers ∧
    keypad.IsWhole 65536 m.keypad.mask.toNat

namespace Save

/-- The counter that a save gives: its number of instructions, or zero if it has none that fits. -/
def Counts (save : Json) (executed : UInt64) : Prop :=
  save.member? "instructions" = some (.ofNat executed.toNat) ∨
    executed = 0 ∧ ∀ n < UInt64.size, save.member? "instructions" ≠ some (.ofNat n)

/-- An object for this system, in the version of the format, with a machine and a counter. -/
structure Describes (save : Json) (m : Machine) (executed : UInt64) : Prop where
  system : save.member? "system" = some (.string "chip8")
  version : save.member? "version" = some (.ofNat 1)
  machine : ∃ v, save.member? "machine" = some v ∧ m.Described v
  counter : Counts save executed

end Save

namespace Json

variable {v : Json}

theorem isRecord_object {members fields : List (String × Json)} :
    (object members).IsRecord fields ↔ ∀ f ∈ fields, (object members).member? f.1 = some f.2 := by
  simp [IsRecord, member?]

/-- In the form in which the fields of an array are read: each at its place, and a count of what is left. -/
theorem isRecord_array {items : List Json} {fields : List (String × Json)} :
    (array items).IsRecord fields ↔
      (∀ f ∈ fields.zipIdx, items[f.2]? = some f.1.2) ∧ noMoreThan fields.length items = .ok () := by
  have hvalues : (array items).IsRecord fields ↔ items = fields.map Prod.snd := by simp [IsRecord]
  rw [hvalues, noMoreThan_eq_ok_iff]
  constructor
  · rintro rfl
    refine ⟨fun f hf => ?_, by simp⟩
    rw [List.getElem?_map, List.mem_zipIdx_iff_getElem?.mp hf, Option.map_some]
  · rintro ⟨hfields, hlen⟩
    refine List.ext_getElem?' fun k hk => ?_
    rw [List.length_map, Nat.max_eq_right hlen] at hk
    have hmem : (fields[k], k) ∈ fields.zipIdx :=
      List.mem_zipIdx_iff_getElem?.mpr (List.getElem?_eq_getElem hk)
    rw [hfields _ hmem, List.getElem?_map, List.getElem?_eq_getElem hk, Option.map_some]

/-- The size and the bound say nothing new where the numbers come from a vector of small ones. -/
theorem listsWhole_iff {α : Type} {count bound : Nat} {f : α → Nat} {as : Vector α count}
    (hf : ∀ a ∈ as.toList, f a < bound) :
    v.ListsWhole count bound (as.toList.map f) ↔ v = .array (as.toList.map fun a => .ofNat (f a)) := by
  unfold ListsWhole
  rw [List.map_map, List.length_map, Vector.length_toList]
  refine ⟨fun h => h.1, fun h => ⟨h, rfl, fun n hn => ?_⟩⟩
  obtain ⟨a, ha, rfl⟩ := List.mem_map.mp hn
  exact hf a ha

end Json

namespace Image

open Json

variable {v : Json}

theorem map_unsigned_eq_ok_iff {α : Type} {bits : Nat} {f : Nat → α} {g : α → Nat}
    (hf : ∀ n < 1 <<< bits, g (f n) = n) (hg : ∀ a, f (g a) = a ∧ g a < 1 <<< bits) (v : Json)
    (a : α) : (v.unsigned bits).map f = .ok a ↔ v = .ofNat (g a) := by
  constructor
  · intro h
    cases hn : v.unsigned bits with
    | error e =>
      rw [hn] at h
      cases h
    | ok n =>
      rw [hn] at h
      cases h
      obtain ⟨rfl, hlt⟩ := unsignedAs_eq_ok_iff.mp hn
      rw [hf n hlt]
  · rintro rfl
    rw [unsigned, unsignedAs_ofNat _ (hg a).2, Outcome.map_ok, (hg a).1]

theorem readByte_eq_ok_iff (v : Json) (b : UInt8) : readByte v = .ok b ↔ v = .ofNat b.toNat :=
  map_unsigned_eq_ok_iff (fun _ h => UInt8.toNat_ofNat_of_lt' h)
    (fun b => ⟨UInt8.ofNat_toNat, b.toNat_lt⟩) v b

theorem readWord_eq_ok_iff (v : Json) (w : UInt16) : readWord v = .ok w ↔ v = .ofNat w.toNat :=
  map_unsigned_eq_ok_iff (fun _ h => UInt16.toNat_ofNat_of_lt' h)
    (fun w => ⟨UInt16.ofNat_toNat, w.toNat_lt⟩) v w

theorem readKeypad_eq_ok_iff {k : Keypad} : readKeypad v = .ok k ↔ v = .ofNat k.mask.toNat := by
  constructor
  · intro h
    unfold readKeypad at h
    cases hw : readWord v with
    | error e =>
      rw [hw] at h
      cases h
    | ok w =>
      rw [hw] at h
      cases h
      exact (readWord_eq_ok_iff v w).mp hw
  · rintro rfl
    exact readKeypad_ofNat k

theorem readSize_eq_ok_iff {n : Nat} : readSize v = .ok n ↔ v = .ofNat n ∧ n < UInt64.size :=
  unsignedAs_eq_ok_iff

theorem readTimers_eq_ok_iff {t : Timers} :
    readTimers v = .ok t ↔ ∃ delay sound, v.IsRecord [("delay", delay), ("sound", sound)] ∧
      readByte delay = .ok t.delay ∧ readByte sound = .ok t.sound := by
  cases v with
  | object members =>
    simp only [readTimers, Outcome.bind_eq_ok_iff, required_eq_ok_iff, isRecord_object, List.forall_mem_cons]
    constructor
    · rintro ⟨_, hdelay, _, hsound, _, rfl, _, rfl, h⟩
      cases h
      obtain ⟨delay, hd, hdelay⟩ := field?_eq_ok_some_iff.mp hdelay
      obtain ⟨sound, hs, hsound⟩ := field?_eq_ok_some_iff.mp hsound
      exact ⟨delay, sound, ⟨hd, hs, List.forall_mem_nil _⟩, hdelay, hsound⟩
    · rintro ⟨delay, sound, ⟨hd, hs, -⟩, hdelay, hsound⟩
      have hdelay := field?_eq_ok_some_iff.mpr ⟨delay, hd, hdelay⟩
      have hsound := field?_eq_ok_some_iff.mpr ⟨sound, hs, hsound⟩
      exact ⟨_, hdelay, _, hsound, _, rfl, _, rfl, rfl⟩
  | array items =>
    simp only [readTimers, Outcome.bind_eq_ok_iff, item_eq_ok_iff, isRecord_array, List.zipIdx_cons,
      List.forall_mem_cons]
    constructor
    · rintro ⟨_, ⟨delay, h0, hdelay⟩, _, ⟨sound, h1, hsound⟩, _, hlen, h⟩
      cases h
      exact ⟨delay, sound, ⟨⟨h0, h1, List.forall_mem_nil _⟩, hlen⟩, hdelay, hsound⟩
    · rintro ⟨delay, sound, ⟨⟨h0, h1, -⟩, hlen⟩, hdelay, hsound⟩
      exact ⟨_, ⟨delay, h0, hdelay⟩, _, ⟨sound, h1, hsound⟩, (), hlen, rfl⟩
  | _ => simp [readTimers, IsRecord, mismatch]

theorem readDisplay_eq_ok_iff {pixels : List UInt8} {dirty : Bool} :
    readDisplay v = .ok (pixels, dirty) ↔
      ∃ cells flag, v.IsRecord [("pixels", cells), ("dirty", flag)] ∧
        cells.sequence readByte = .ok pixels ∧ flag.boolean = .ok dirty := by
  cases v with
  | object members =>
    simp only [readDisplay, Outcome.bind_eq_ok_iff, required_eq_ok_iff, isRecord_object, List.forall_mem_cons]
    constructor
    · rintro ⟨_, hdirty, _, hpixels, _, rfl, _, rfl, h⟩
      cases h
      obtain ⟨flag, hf, hdirty⟩ := field?_eq_ok_some_iff.mp hdirty
      obtain ⟨cells, hc, hpixels⟩ := field?_eq_ok_some_iff.mp hpixels
      exact ⟨cells, flag, ⟨hc, hf, List.forall_mem_nil _⟩, hpixels, hdirty⟩
    · rintro ⟨cells, flag, ⟨hc, hf, -⟩, hpixels, hdirty⟩
      have hdirty := field?_eq_ok_some_iff.mpr ⟨flag, hf, hdirty⟩
      have hpixels := field?_eq_ok_some_iff.mpr ⟨cells, hc, hpixels⟩
      exact ⟨_, hdirty, _, hpixels, _, rfl, _, rfl, rfl⟩
  | array items =>
    simp only [readDisplay, Outcome.bind_eq_ok_iff, item_eq_ok_iff, isRecord_array, List.zipIdx_cons,
      List.forall_mem_cons]
    constructor
    · rintro ⟨_, ⟨cells, h0, hpixels⟩, _, ⟨flag, h1, hdirty⟩, _, hlen, h⟩
      cases h
      exact ⟨cells, flag, ⟨⟨h0, h1, List.forall_mem_nil _⟩, hlen⟩, hpixels, hdirty⟩
    · rintro ⟨cells, flag, ⟨⟨h0, h1, -⟩, hlen⟩, hpixels, hdirty⟩
      exact ⟨_, ⟨cells, h0, hpixels⟩, _, ⟨flag, h1, hdirty⟩, (), hlen, rfl⟩
  | _ => simp [readDisplay, IsRecord, mismatch]

/-- An image is read from a record whose fields are read as its parts. -/
theorem ofJson_eq_ok_iff {image : Image} :
    ofJson v = .ok image ↔
      ∃ memory registers i pc stack sp display timers keypad,
        v.IsRecord [("memory", memory), ("v", registers), ("i", i), ("pc", pc), ("stack", stack),
          ("sp", sp), ("display", display), ("timers", timers), ("keypad", keypad)] ∧
        memory.sequence readByte = .ok image.memory ∧
        registers.arrayOf registerCount readByte = .ok image.v ∧
        readWord i = .ok image.i ∧ readWord pc = .ok image.pc ∧
        stack.arrayOf stackSize readWord = .ok image.stack ∧
        readSize sp = .ok image.sp ∧
        readDisplay display = .ok (image.pixels, image.dirty) ∧
        readTimers timers = .ok image.timers ∧
        readKeypad keypad = .ok image.keypad := by
  cases v with
  | object members =>
    simp only [ofJson, Outcome.bind_eq_ok_iff, required_eq_ok_iff, isRecord_object, List.forall_mem_cons]
    constructor
    · rintro ⟨_, hdisplay, _, hi, _, hkeypad, _, hmemory, _, hpc, _, hsp, _, hstack, _, htimers, _, hv,
        _, rfl, _, rfl, _, rfl, _, rfl, _, rfl, _, rfl, _, rfl, _, rfl, _, rfl, h⟩
      cases h
      obtain ⟨memory, mmemory, hmemory⟩ := field?_eq_ok_some_iff.mp hmemory
      obtain ⟨registers, mv, hv⟩ := field?_eq_ok_some_iff.mp hv
      obtain ⟨i, mi, hi⟩ := field?_eq_ok_some_iff.mp hi
      obtain ⟨pc, mpc, hpc⟩ := field?_eq_ok_some_iff.mp hpc
      obtain ⟨stack, mstack, hstack⟩ := field?_eq_ok_some_iff.mp hstack
      obtain ⟨sp, msp, hsp⟩ := field?_eq_ok_some_iff.mp hsp
      obtain ⟨display, mdisplay, hdisplay⟩ := field?_eq_ok_some_iff.mp hdisplay
      obtain ⟨timers, mtimers, htimers⟩ := field?_eq_ok_some_iff.mp htimers
      obtain ⟨keypad, mkeypad, hkeypad⟩ := field?_eq_ok_some_iff.mp hkeypad
      exact ⟨memory, registers, i, pc, stack, sp, display, timers, keypad,
        ⟨mmemory, mv, mi, mpc, mstack, msp, mdisplay, mtimers, mkeypad, List.forall_mem_nil _⟩,
        hmemory, hv, hi, hpc, hstack, hsp, hdisplay, htimers, hkeypad⟩
    · rintro ⟨memory, registers, i, pc, stack, sp, display, timers, keypad,
        ⟨mmemory, mv, mi, mpc, mstack, msp, mdisplay, mtimers, mkeypad, -⟩,
        hmemory, hv, hi, hpc, hstack, hsp, hdisplay, htimers, hkeypad⟩
      exact ⟨_, field?_eq_ok_some_iff.mpr ⟨_, mdisplay, hdisplay⟩,
        _, field?_eq_ok_some_iff.mpr ⟨_, mi, hi⟩, _, field?_eq_ok_some_iff.mpr ⟨_, mkeypad, hkeypad⟩,
        _, field?_eq_ok_some_iff.mpr ⟨_, mmemory, hmemory⟩,
        _, field?_eq_ok_some_iff.mpr ⟨_, mpc, hpc⟩,
        _, field?_eq_ok_some_iff.mpr ⟨_, msp, hsp⟩, _, field?_eq_ok_some_iff.mpr ⟨_, mstack, hstack⟩,
        _, field?_eq_ok_some_iff.mpr ⟨_, mtimers, htimers⟩, _, field?_eq_ok_some_iff.mpr ⟨_, mv, hv⟩,
        _, rfl, _, rfl, _, rfl, _, rfl, _, rfl, _, rfl, _, rfl, _, rfl, _, rfl, rfl⟩
  | array items =>
    simp only [ofJson, Outcome.bind_eq_ok_iff, item_eq_ok_iff, isRecord_array, List.zipIdx_cons,
      List.forall_mem_cons]
    constructor
    · rintro ⟨_, ⟨memory, h0, hmemory⟩, _, ⟨registers, h1, hv⟩, _, ⟨i, h2, hi⟩,
        _, ⟨pc, h3, hpc⟩, _, ⟨stack, h4, hstack⟩, _, ⟨sp, h5, hsp⟩,
        _, ⟨display, h6, hdisplay⟩, _, ⟨timers, h7, htimers⟩, _, ⟨keypad, h8, hkeypad⟩,
        _, hlen, h⟩
      cases h
      exact ⟨memory, registers, i, pc, stack, sp, display, timers, keypad,
        ⟨⟨h0, h1, h2, h3, h4, h5, h6, h7, h8, List.forall_mem_nil _⟩, hlen⟩,
        hmemory, hv, hi, hpc, hstack, hsp, hdisplay, htimers, hkeypad⟩
    · rintro ⟨memory, registers, i, pc, stack, sp, display, timers, keypad,
        ⟨⟨h0, h1, h2, h3, h4, h5, h6, h7, h8, -⟩, hlen⟩,
        hmemory, hv, hi, hpc, hstack, hsp, hdisplay, htimers, hkeypad⟩
      exact ⟨_, ⟨_, h0, hmemory⟩, _, ⟨_, h1, hv⟩, _, ⟨_, h2, hi⟩, _, ⟨_, h3, hpc⟩,
        _, ⟨_, h4, hstack⟩, _, ⟨_, h5, hsp⟩, _, ⟨_, h6, hdisplay⟩, _, ⟨_, h7, htimers⟩,
        _, ⟨_, h8, hkeypad⟩, (), hlen, rfl⟩
  | _ => simp [ofJson, IsRecord, mismatch]

theorem readTimers_iff_described {t : Timers} : readTimers v = .ok t ↔ t.Described v := by
  simp only [readTimers_eq_ok_iff, readByte_eq_ok_iff, Timers.Described, IsWhole,
    and_iff_left (UInt8.toNat_lt _)]

theorem readDisplay_iff_described {d : Display} :
    readDisplay v = .ok (d.cells.toList, d.dirty) ↔ d.Described v := by
  have hsmall (p : UInt8) (hp : p ∈ d.cells.toList) : p.toNat < 2 := by
    have hle := List.all_eq_true.mp (all_cells d) p hp
    exact Nat.lt_succ_of_le (UInt8.le_iff_toNat_le.mp (of_decide_eq_true hle))
  have hcells (w : Json) : w.ListsWhole 2048 2 (d.cells.toList.map UInt8.toNat) ↔
      w = .array (d.cells.toList.map fun p => .ofNat p.toNat) := listsWhole_iff hsmall
  simp only [readDisplay_eq_ok_iff, sequence_eq_ok_iff readByte_eq_ok_iff, boolean_eq_ok_iff,
    Display.Described, hcells]

end Image

namespace Save

open Image Json

variable {v save : Json} {m : Machine} {executed : UInt64}

theorem readMachine_eq_ok_iff :
    readMachine v = .ok m ↔ m.Valid ∧ Image.ofJson v = .ok (Image.ofMachine m) := by
  unfold readMachine
  cases Image.ofJson v with
  | error e => simp
  | ok image =>
    constructor
    · intro h
      cases hm : image.machine with
      | error d => simp [hm] at h
      | ok n =>
        simp only [hm] at h
        cases h
        obtain ⟨hvalid, rfl⟩ := machine_eq_ok_iff.mp hm
        exact ⟨hvalid, rfl⟩
    · rintro ⟨hvalid, h⟩
      cases h
      simp only [machine_ofMachine hvalid]

theorem readMachine_iff_described : readMachine v = .ok m ↔ m.Described v := by
  have hmemory (w : Json) : w.ListsWhole 4096 256 (m.memory.toList.map UInt8.toNat) ↔
      w = .array (m.memory.toList.map fun b => .ofNat b.toNat) := listsWhole_iff fun b _ => b.toNat_lt
  have hv (w : Json) : w.ListsWhole 16 256 (m.v.toList.map UInt8.toNat) ↔
      w = .array (m.v.toList.map fun b => .ofNat b.toNat) := listsWhole_iff fun b _ => b.toNat_lt
  have hstack (w : Json) : w.ListsWhole 24 65536 (m.stack.toList.map UInt16.toNat) ↔
      w = .array (m.stack.toList.map fun a => .ofNat a.toNat) := listsWhole_iff fun a _ => a.toNat_lt
  have hword (w : Json) (a : UInt16) : w.IsWhole 65536 a.toNat ↔ w = .ofNat a.toNat :=
    and_iff_left a.toNat_lt
  have hsp (w : Json) : w.IsWhole 25 m.sp ↔ w = .ofNat m.sp ∧ m.sp < 25 := Iff.rfl
  rw [readMachine_eq_ok_iff, ofJson_eq_ok_iff]
  simp only [Image.ofMachine, sequence_eq_ok_iff readByte_eq_ok_iff, arrayOf_eq_ok_iff readByte_eq_ok_iff,
    arrayOf_eq_ok_iff readWord_eq_ok_iff, readDisplay_iff_described, readTimers_iff_described,
    readWord_eq_ok_iff, readKeypad_eq_ok_iff, readSize_eq_ok_iff, Machine.Described, hmemory, hv, hstack,
    hword, hsp]
  -- what is left is the bound of the stack pointer, which reading leaves to the validation
  by_cases hs : m.sp < 25
  · have hvalid : m.Valid := Nat.le_of_lt_succ hs
    have hsize : m.sp < UInt64.size := Nat.lt_trans hs (by decide)
    simp only [hvalid, hsize, hs, true_and, and_true]
  · have hvalid : ¬ m.Valid := fun h => hs (Nat.lt_succ_of_le h)
    simp only [hvalid, hs, false_and, and_false, exists_false]

theorem eq_counter_iff : executed = counter save ↔ Counts save executed := by
  have hsome (n : UInt64) : (save.member? "instructions").bind Json.word64? = some n ↔
      save.member? "instructions" = some (.ofNat n.toNat) := by
    simp only [Option.bind_eq_some_iff, word64?_eq_some_iff, exists_eq_right]
  unfold counter Counts
  cases hw : (save.member? "instructions").bind Json.word64? with
  | some n =>
    have hn := (hsome n).mp hw
    have hsame : save.member? "instructions" = some (.ofNat executed.toNat) ↔ executed = n := by
      rw [← hsome, hw, Option.some_inj, eq_comm]
    rw [Option.getD_some, hsame]
    exact (or_iff_left fun h => h.2 n.toNat n.toNat_lt hn).symm
  | none =>
    have hnone (k : Nat) (hk : k < UInt64.size) : save.member? "instructions" ≠ some (.ofNat k) := by
      intro h
      have hsize := (hsome (.ofNat k)).mpr
      rw [UInt64.toNat_ofNat_of_lt' hk, hw] at hsize
      cases hsize h
    rw [Option.getD_none]
    constructor
    · exact fun h => .inr ⟨h, hnone⟩
    · rintro (h | h)
      · exact absurd h (hnone _ executed.toNat_lt)
      · exact h.1

theorem read_iff_describes : read save = .ok (m, executed) ↔ Describes save m executed := by
  have hsystem : (save.member? "system").bind Json.text? = some systemName ↔
      save.member? "system" = some (.string "chip8") := by
    simp [Option.bind_eq_some_iff, text?_eq_some_iff, systemName]
  have hversion : (save.member? "version").bind Json.word64? = some version ↔
      save.member? "version" = some (.ofNat 1) := by
    simp [Option.bind_eq_some_iff, word64?_eq_some_iff, version]
  simp only [read_eq_ok_iff, hsystem, hversion, readMachine_iff_described, eq_counter_iff]
  exact ⟨fun ⟨hs, hv, hm, he⟩ => ⟨hs, hv, hm, he⟩,
    fun h => ⟨h.system, h.version, h.machine, h.counter⟩⟩

end Save

namespace Console

/-- A save is restored exactly if it describes a machine and a counter. These two are then the console's, its
program, settings and random source staying as they are; a save that is refused changes nothing. -/
theorem restore_iff_described (c : Console) (save : Json) :
    ((c.restore save).2 = .ok () ↔ ∃ m executed, Save.Describes save m executed) ∧
      (∀ m executed, Save.Describes save m executed →
        c.restore save =
          ({ c with processor := { c.processor with machine := m, executed := executed } }, .ok ())) ∧
      ∀ r, (c.restore save).2 = .error r → (c.restore save).1 = c := by
  refine ⟨?_, fun m executed h => ?_, fun r h => ?_⟩
  · simp only [← Save.read_iff_describes, restore]
    cases Save.read save with
    | error r => simp
    | ok read => exact ⟨fun _ => ⟨read.1, read.2, rfl⟩, fun _ => rfl⟩
  · simp only [restore, Save.read_iff_describes.mpr h]
  · unfold restore at h ⊢
    cases hr : Save.read save with
    | error r => rfl
    | ok read =>
      simp only [hr] at h
      cases h

end Console

end Chip8
