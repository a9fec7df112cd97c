import Chip8.Proofs.Json.Document
import Chip8.Proofs.Json.Reader
import Chip8.Proofs.Saves.Reading
import Chip8.Proofs.Validity

namespace Chip8

namespace Image

theorem readByte_ofNat (b : UInt8) : readByte (.ofNat b.toNat) = .ok b := by
  rw [readByte, Json.unsigned, Json.unsignedAs_ofNat _ b.toNat_lt, Outcome.map_ok, UInt8.ofNat_toNat]

theorem readWord_ofNat (w : UInt16) : readWord (.ofNat w.toNat) = .ok w := by
  rw [readWord, Json.unsigned, Json.unsignedAs_ofNat _ w.toNat_lt, Outcome.map_ok, UInt16.ofNat_toNat]

theorem readKeypad_ofNat (k : Keypad) : readKeypad (.ofNat k.mask.toNat) = .ok k := by
  rw [readKeypad, readWord_ofNat, Outcome.map_ok]

theorem readTimers_object (t : Timers) :
    readTimers (.object [("delay", .ofNat t.delay.toNat), ("sound", .ofNat t.sound.toNat)]) = .ok t := by
  simp [readTimers, Json.field?, Json.member?_cons, Json.required, readByte_ofNat]

theorem readDisplay_object (pixels : List UInt8) (dirty : Bool) :
    readDisplay (.object [
      ("dirty", .bool dirty), ("pixels", .array (pixels.map fun p => .ofNat p.toNat))]) =
        .ok (pixels, dirty) := by
  have hpixels := Json.sequence_map readByte_ofNat pixels
  simp [readDisplay, Json.field?, Json.member?_cons, Json.required, Json.boolean, hpixels]

theorem ofJson_toJson {image : Image} (hs : image.sp < UInt64.size) : ofJson image.toJson = .ok image := by
  have hsp : readSize (.ofNat image.sp) = .ok image.sp := Json.unsignedAs_ofNat .size hs
  have hmemory := Json.sequence_map readByte_ofNat image.memory
  have hstack := Json.arrayOf_map readWord_ofNat image.stack
  have hv := Json.arrayOf_map readByte_ofNat image.v
  simp [ofJson, toJson, Json.field?, Json.member?_cons, Json.required, readWord_ofNat,
    readKeypad_ofNat, readTimers_object, readDisplay_object, hsp, hmemory, hstack, hv]

/-- The value of an image is one that text gives back. -/
theorem kept_toJson {image : Image} (hs : image.sp < UInt64.size) (depth : Nat) :
    Json.Kept (depth + 3) image.toJson := by
  have hbyte : ∀ (b : UInt8) depth, Json.Kept depth (.ofNat b.toNat) := fun b =>
    Json.kept_ofNat (Nat.lt_trans b.toNat_lt (by decide))
  have hword : ∀ (w : UInt16) depth, Json.Kept depth (.ofNat w.toNat) := fun w =>
    Json.kept_ofNat (Nat.lt_trans w.toNat_lt (by decide))
  have hsp := Json.kept_ofNat hs
  have hbytes : ∀ (bytes : List UInt8) depth, Json.KeptItems depth (bytes.map fun b => .ofNat b.toNat) :=
    fun bytes depth => Json.keptItems_map bytes fun b => hbyte b depth
  have hwords : ∀ (words : List UInt16) depth, Json.KeptItems depth (words.map fun w => .ofNat w.toNat) :=
    fun words depth => Json.keptItems_map words fun w => hword w depth
  have hdisplay : Json.Kept (depth + 2) (.object [
      ("dirty", .bool image.dirty), ("pixels", .array (image.pixels.map fun p => .ofNat p.toNat))]) := by
    have hnames : ["dirty", "pixels"].Pairwise (· < ·) := by decide
    exact ⟨hnames, trivial, hbytes _ _, trivial⟩
  have htimers : Json.Kept (depth + 2) (.object [
      ("delay", .ofNat image.timers.delay.toNat), ("sound", .ofNat image.timers.sound.toNat)]) := by
    have hnames : ["delay", "sound"].Pairwise (· < ·) := by decide
    exact ⟨hnames, hbyte _ _, hbyte _ _, trivial⟩
  have hnames : ["display", "i", "keypad", "memory", "pc", "sp", "stack", "timers", "v"].Pairwise
      (· < ·) := by decide
  exact ⟨hnames, hdisplay, hword _ _, hword _ _, hbytes _ _, hword _ _, hsp _, hwords _ _, htimers,
    hbytes _ _, trivial⟩

end Image

namespace Machine

theorem sp_lt_of_valid {m : Machine} (hm : m.Valid) : m.sp < UInt64.size := by
  have hs : m.sp ≤ stackSize := hm
  exact Nat.lt_of_le_of_lt hs (by decide)

theorem valid_of_validate {m : Machine} (h : (Image.ofMachine m).validate = .ok ()) : m.Valid :=
  ((Image.validate_eq_ok_iff _).mp h).2.1

end Machine

namespace Save

variable {m : Machine}

theorem readMachine_toJson (hm : m.Valid) : readMachine (Image.ofMachine m).toJson = .ok m := by
  have hs : (Image.ofMachine m).sp < UInt64.size := Machine.sp_lt_of_valid hm
  rw [readMachine, Image.ofJson_toJson hs]
  simp only [Image.machine_ofMachine hm]

theorem member?_system (m : Machine) (executed : UInt64) :
    (ofMachine m executed).member? "system" = some (.string systemName) := rfl

theorem member?_version (m : Machine) (executed : UInt64) :
    (ofMachine m executed).member? "version" = some (.ofNat version.toNat) := rfl

theorem member?_machine (m : Machine) (executed : UInt64) :
    (ofMachine m executed).member? "machine" = some (Image.ofMachine m).toJson := rfl

theorem member?_instructions (m : Machine) (executed : UInt64) :
    (ofMachine m executed).member? "instructions" = some (.ofNat executed.toNat) := rfl

theorem read_ofMachine (hm : m.Valid) (executed : UInt64) : read (ofMachine m executed) = .ok (m, executed) := by
  refine read_eq_ok_iff.mpr ⟨?_, ?_, ⟨_, member?_machine m executed, readMachine_toJson hm⟩, ?_⟩
  · rw [member?_system]
    rfl
  · rw [member?_version, Option.bind_some, Json.word64?_ofNat]
  · rw [counter, member?_instructions, Option.bind_some, Json.word64?_ofNat, Option.getD_some]

theorem kept_ofMachine (hm : m.Valid) (executed : UInt64) (depth : Nat) :
    Json.Kept (depth + 4) (ofMachine m executed) := by
  have hs : (Image.ofMachine m).sp < UInt64.size := Machine.sp_lt_of_valid hm
  have himage := Image.kept_toJson hs depth
  have hcounter := Json.kept_ofNat executed.toNat_lt (depth + 3)
  have hversion := Json.kept_ofNat version.toNat_lt (depth + 3)
  have hnames : ["instructions", "machine", "system", "version"].Pairwise (· < ·) := by decide
  exact ⟨hnames, hcounter, himage, trivial, hversion, trivial⟩

end Save

namespace Console

/-- The console with the machine and the instruction counter of another one; program, settings and random
source are its own. -/
def takingOver (d c : Console) : Console :=
  { d with processor := { d.processor with machine := c.machine, executed := c.processor.executed } }

@[simp] theorem machine_takingOver (d c : Console) : (d.takingOver c).machine = c.machine := rfl

theorem restore_save {c : Console} (hc : c.machine.Valid) (d : Console) :
    d.restore c.save = (d.takingOver c, .ok ()) := by
  have hread := Save.read_ofMachine hc c.processor.executed
  simp only [restore, save, hread, takingOver]

theorem save_eq_iff {c d : Console} (hc : c.machine.Valid) (hd : d.machine.Valid) :
    c.save = d.save ↔ c.machine = d.machine ∧ c.processor.executed = d.processor.executed := by
  constructor
  · intro h
    have hread := Save.read_ofMachine hd d.processor.executed
    have hsame : Save.read d.save = .ok (c.machine, c.processor.executed) :=
      h ▸ Save.read_ofMachine hc c.processor.executed
    exact Prod.mk.inj (Except.ok.inj (hsame.symm.trans hread))
  · rintro ⟨hm, he⟩
    rw [save, save, hm, he]

/-- The text of a save, compact or laid out, is read back as that save, and restoring it makes any console take
over machine and instruction counter as they were saved, program, settings and random source staying as they
are. Two consoles have the same save exactly if they have the same machine and the same counter. Every reachable
console passes the validation that this asks for. -/
theorem save_text_restores :
    (∀ c : Console, c.Reachable → (Image.ofMachine c.machine).validate = .ok ()) ∧
      ∀ c : Console, (Image.ofMachine c.machine).validate = .ok () →
        (∀ text ∈ [c.save.compact, c.save.laidOut], ∃ v, Json.ofText text = .ok v ∧
          ∀ d : Console, (d.restore v).2 = .ok () ∧
            (d.restore v).1.machine = c.machine ∧
            (d.restore v).1.processor.executed = c.processor.executed ∧
            (d.restore v).1.processor.random = d.processor.random ∧
            (d.restore v).1.settings = d.settings ∧
            (d.restore v).1.program = d.program) ∧
        ∀ d : Console, (Image.ofMachine d.machine).validate = .ok () →
          (c.save = d.save ↔ c.machine = d.machine ∧ c.processor.executed = d.processor.executed) := by
  refine ⟨fun c hc => Image.validate_ofMachine hc.valid, fun c hc => ?_⟩
  refine ⟨fun text htext => ?_, fun d hd => ?_⟩
  · have hv := Machine.valid_of_validate hc
    have hkept : Json.Kept Json.Document.maxDepth c.save :=
      Save.kept_ofMachine hv c.processor.executed (Json.Document.maxDepth - 4)
    refine ⟨c.save, ?_, fun d => ?_⟩
    · simp only [List.mem_cons, List.not_mem_nil, or_false] at htext
      rcases htext with rfl | rfl
      · exact Json.ofText_compact hkept
      · exact Json.ofText_laidOut hkept
    · rw [restore_save hv d]
      exact ⟨rfl, rfl, rfl, rfl, rfl, rfl⟩
  · exact save_eq_iff (Machine.valid_of_validate hc) (Machine.valid_of_validate hd)

/-- A console with a full counter, a return address left in a popped slot and all keys held. -/
def brimful : Console where
  processor :=
    { Processor.powerOn (.ofSeed 0) with
      machine :=
        { Machine.powerOn with
          stack := Machine.powerOn.stack.set 23 0xFFFF (by decide)
          keypad := ⟨0xFFFF⟩ }
      executed := 0xFFFFFFFFFFFFFFFF }
  settings := .default
  program := none

theorem brimful_restores :
    ∃ v, Json.ofText brimful.save.laidOut = .ok v ∧
      ((powerOn .default (.ofSeed 1)).restore v).1.machine = brimful.machine ∧
      ((powerOn .default (.ofSeed 1)).restore v).1.processor.executed = 0xFFFFFFFFFFFFFFFF := by
  have hvalid : brimful.machine.Valid := Nat.zero_le _
  have htexts := (save_text_restores.2 brimful (Image.validate_ofMachine hvalid)).1
  obtain ⟨v, hv, hrestore⟩ := htexts brimful.save.laidOut (List.mem_cons_of_mem _ List.mem_cons_self)
  obtain ⟨-, hmachine, hexecuted, -⟩ := hrestore (powerOn .default (.ofSeed 1))
  exact ⟨v, hv, hmachine, hexecuted⟩

end Console

end Chip8
