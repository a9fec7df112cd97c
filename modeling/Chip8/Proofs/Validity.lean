import Chip8.Console.Command
import Chip8.Proofs.RawContents
import Chip8.Proofs.Step

namespace Chip8

/-- A failure that is no use of the machine outside its definition, the full counter apart. -/
def Failure.Regular : Failure → Prop
  | .crash k => k = .counterFull
  | _ => True

namespace Machine

theorem load_eq_ok {m n : Machine} {program : List UInt8} (h : m.load program = .ok n) :
    n = { m with memory := n.memory } := by
  unfold load at h
  split at h <;> cases h
  rfl

theorem load_eq_error {m : Machine} {program : List UInt8} {e : Failure} (h : m.load program = .error e) :
    e = .programTooLarge program.length maxProgramSize := by
  unfold load at h
  split at h <;> cases h
  rfl

end Machine

theorem Processor.regular_of_failure? {p : Processor} {e : Failure} (h : p.failure? = some e) :
    e.Regular := by
  cases e with
  | crash k => exact crash_of_failure? h
  | _ => trivial

namespace Answer

variable {e : Failure}

theorem ofUnit_eq_failed {r : Except Failure Unit} (h : ofUnit r = .failed e) : r = .error e := by
  cases r <;> cases h
  rfl

theorem ofStep_eq_failed {r : Except Failure Instruction} (h : ofStep r = .failed e) : r = .error e := by
  cases r <;> cases h
  rfl

theorem ofFrame_eq_failed {r : Except Failure Frame} (h : ofFrame r = .failed e) : r = .error e := by
  cases r <;> cases h
  rfl

theorem ofRestore_ne_failed {r : Except Save.Refusal Unit} : ofRestore r ≠ .failed e := by
  cases r <;> exact nofun

end Answer

namespace Console

variable {c d : Console} {e : Failure}

theorem reload_valid (hc : c.machine.Valid) (h : c.reload = .ok d) : d.machine.Valid := by
  unfold reload at h
  split at h
  next program _ =>
    obtain ⟨m, hm, hd⟩ := Outcome.bind_eq_ok_iff.mp h
    cases hd
    change m.Valid
    rw [Machine.load_eq_ok hm]
    exact hc
  next =>
    cases h
    exact hc

theorem reload_regular (h : c.reload = .error e) : e.Regular := by
  unfold reload at h
  split at h
  next program _ =>
    cases hl : c.machine.load program with
    | error f =>
      rw [hl] at h
      cases h
      rw [Machine.load_eq_error hl]
      trivial
    | ok m =>
      rw [hl] at h
      cases h
  next => cases h

theorem cleared_valid (c : Console) : c.cleared.machine.Valid := Machine.valid_powerOn

theorem reset_valid (c : Console) : c.reset.machine.Valid := by
  unfold reset
  split
  next h => exact reload_valid c.cleared_valid h
  next => exact c.cleared_valid

theorem mount_valid (hc : c.machine.Valid) (id : String) (program : List UInt8) :
    (c.mount id program).1.machine.Valid := by
  have hm : { c.cleared with program := some program : Console }.machine.Valid := Machine.valid_powerOn
  unfold mount
  split
  · exact hc
  · split
    · exact hc
    · dsimp only
      split
      next h => exact reload_valid hm h
      next => exact hm

theorem mount_regular {id : String} {program : List UInt8} (h : (c.mount id program).2 = .error e) :
    e.Regular := by
  unfold mount at h
  split at h
  · cases h
    trivial
  · split at h
    · cases h
      trivial
    · dsimp only at h
      split at h
      next => cases h
      next hr =>
        cases h
        exact reload_regular hr

theorem unmount_valid (hc : c.machine.Valid) (id : String) : (c.unmount id).1.machine.Valid := by
  unfold unmount
  split <;> exact hc

theorem unmount_regular {id : String} (h : (c.unmount id).2 = .error e) : e.Regular := by
  unfold unmount at h
  split at h <;> cases h
  trivial

theorem step_valid (hc : c.machine.Valid) : c.step.1.machine.Valid := by
  unfold step
  split
  · exact hc
  · exact Processor.valid_step hc

theorem step_regular (hc : c.machine.Valid) (h : c.step.2 = .error e) : e.Regular := by
  unfold step at h
  split at h
  · cases h
    trivial
  · have hs : c.processor.step = (c.processor.step.1, .error e) := Prod.ext rfl h
    exact Processor.regular_of_failure? ((Processor.step_eq_error_iff hc).mp hs).2

theorem stepFrame_valid (hc : c.machine.Valid) : c.stepFrame.1.machine.Valid := by
  have hr := Processor.valid_run c.settings.instructionsPerFrame.toNat hc
  unfold stepFrame
  split
  · exact hc
  · split
    next h =>
      rw [h] at hr
      exact hr
    next h =>
      rw [h] at hr
      exact hr

theorem stepFrame_regular (hc : c.machine.Valid) (h : c.stepFrame.2 = .error e) : e.Regular := by
  unfold stepFrame at h
  split at h
  · cases h
    trivial
  · split at h
    next hr =>
      cases h
      exact Processor.regular_of_failure? (Processor.exists_step_of_run _ hc hr).2
    next => cases h

theorem restore_valid (hc : c.machine.Valid) (save : Json) : (c.restore save).1.machine.Valid := by
  unfold restore
  split
  next h => exact Save.read_valid h
  next => exact hc

/-- A command leaves the machine valid, whatever it answers. -/
theorem perform_valid (hc : c.machine.Valid) (cmd : Command) : (c.perform cmd).1.machine.Valid := by
  cases cmd with
  | mount id program => exact mount_valid hc id program
  | unmount id => exact unmount_valid hc id
  | reset => exact reset_valid c
  | step => exact step_valid hc
  | stepFrame => exact stepFrame_valid hc
  | restore save => exact restore_valid hc save
  | tick | setKeys mask | press key | release key | takeUpdate | save => exact hc

/-- A failing command fails for a regular cause. -/
theorem perform_regular (hc : c.machine.Valid) {cmd : Command} (h : (c.perform cmd).2 = .failed e) :
    e.Regular := by
  cases cmd with
  | mount id program => exact mount_regular (Answer.ofUnit_eq_failed h)
  | unmount id => exact unmount_regular (Answer.ofUnit_eq_failed h)
  | step => exact step_regular hc (Answer.ofStep_eq_failed h)
  | stepFrame => exact stepFrame_regular hc (Answer.ofFrame_eq_failed h)
  | restore save => exact absurd h Answer.ofRestore_ne_failed
  | reset | tick | setKeys mask | press key | release key | takeUpdate | save => cases h

theorem play_cons (c : Console) (cmd : Command) (rest : List Command) :
    c.play (cmd :: rest) =
      (((c.perform cmd).1.play rest).1, (c.perform cmd).2 :: ((c.perform cmd).1.play rest).2) := rfl

/-- Commands in two parts: the second goes on with what the first leaves. -/
theorem play_append (c : Console) (first second : List Command) :
    c.play (first ++ second) =
      (((c.play first).1.play second).1, (c.play first).2 ++ ((c.play first).1.play second).2) := by
  induction first generalizing c with
  | nil => rfl
  | cons cmd rest ih => simp only [List.cons_append, play_cons, ih]

theorem play_concat (c : Console) (done : List Command) (cmd : Command) :
    c.play (done ++ [cmd]) =
      (((c.play done).1.perform cmd).1, (c.play done).2 ++ [((c.play done).1.perform cmd).2]) :=
  play_append c done [cmd]

/-- Commands leave the machine valid, whatever they answer. -/
theorem play_valid (hc : c.machine.Valid) (commands : List Command) :
    (c.play commands).1.machine.Valid := by
  induction commands generalizing c with
  | nil => exact hc
  | cons cmd rest ih => exact ih (perform_valid hc cmd)

/-- Commands that fail do so for regular causes. -/
theorem play_regular (hc : c.machine.Valid) {commands : List Command}
    (h : .failed e ∈ (c.play commands).2) : e.Regular := by
  induction commands generalizing c with
  | nil => cases h
  | cons cmd rest ih =>
    rw [play_cons] at h
    rcases List.mem_cons.mp h with h | h
    · exact perform_regular hc h.symm
    · exact ih (perform_valid hc cmd) h

theorem length_play (c : Console) (commands : List Command) :
    (c.play commands).2.length = commands.length := by
  induction commands generalizing c with
  | nil => rfl
  | cons cmd rest ih => rw [play_cons, List.length_cons, List.length_cons, ih]

/-- Consoles that commands lead to from power-on. -/
def Reachable (c : Console) : Prop :=
  ∃ settings chance commands, c = ((powerOn settings chance).play commands).1

theorem reachable_play (settings : MachineSettings) (chance : Random) (commands : List Command) :
    ((powerOn settings chance).play commands).1.Reachable := ⟨settings, chance, commands, rfl⟩

theorem powerOn_valid (settings : MachineSettings) (chance : Random) :
    (powerOn settings chance).machine.Valid := Machine.valid_powerOn

/-- A console at power-on with a program in it, which makes a machine of the one at power-on. -/
def started (settings : MachineSettings) (chance : Random) (program : List UInt8) (m : Machine) : Console :=
  ⟨⟨m, source settings chance, 0⟩, settings, some program⟩

theorem mount_powerOn (settings : MachineSettings) (chance : Random) (program : List UInt8) :
    (powerOn settings chance).mount programSlot program =
      match Machine.powerOn.load program with
      | .ok m => (started settings chance program m, .ok ())
      | .error e => (powerOn settings chance, .error e) := by
  have hslot : ¬ programSlot ≠ programSlot := fun h => h rfl
  by_cases hsize : program.length ≤ maxProgramSize
  · have hfits : ¬ maxProgramSize < program.length := Nat.not_lt.mpr hsize
    obtain ⟨m, hm⟩ : ∃ m, Machine.powerOn.load program = .ok m := ⟨_, dif_pos hsize⟩
    have hreload : { (powerOn settings chance).cleared with program := some program : Console }.reload =
        .ok (started settings chance program m) := by
      change (do return Console.withMachine _ (← Machine.powerOn.load program)) = _
      rw [hm]
      rfl
    rw [mount, if_neg hslot, if_neg hfits]
    dsimp only
    rw [hreload, hm]
  · have hlong : maxProgramSize < program.length := Nat.lt_of_not_le hsize
    have hload : Machine.powerOn.load program = .error (.programTooLarge program.length maxProgramSize) :=
      dif_neg hsize
    rw [mount, if_neg hslot, if_pos hlong, hload]

theorem started_valid (settings : MachineSettings) (chance : Random) {program : List UInt8} {m : Machine}
    (h : Machine.powerOn.load program = .ok m) (mask : UInt16) :
    ((started settings chance program m).setKeys mask).machine.Valid := by
  change m.Valid
  rw [Machine.load_eq_ok h]
  exact Machine.valid_powerOn

theorem Reachable.valid (h : c.Reachable) : c.machine.Valid := by
  obtain ⟨settings, chance, commands, rfl⟩ := h
  exact play_valid (powerOn_valid settings chance) commands

theorem Reachable.perform (hc : c.Reachable) (cmd : Command) : (c.perform cmd).1.Reachable := by
  obtain ⟨settings, chance, commands, rfl⟩ := hc
  refine ⟨settings, chance, commands ++ [cmd], ?_⟩
  rw [play_concat]

/-- From power-on, every list of commands is answered command by command; the machine that it leaves passes
validation, with all of memory, a stack pointer within the stack and every cell of the screen zero or one; no
answer is a crash other than the one of the full counter, so no register or stack slot was asked for that is not
there; and on raw bytes that pass validation, those of the machine at whatever point of the run, every access to
memory and every loop of a drawing finds its bytes, does what it does on the machine, and leaves bytes that pass. -/
theorem play_passes_validation (settings : MachineSettings) (chance : Random) (commands : List Command) :
    let played := (powerOn settings chance).play commands
    let image := Image.ofMachine played.1.machine
    image.validate = .ok () ∧
      image.memory.length = 4096 ∧ image.sp ≤ 24 ∧ image.pixels.length = 2048 ∧
      (∀ p ∈ image.pixels, p = 0 ∨ p = 1) ∧
      played.2.length = commands.length ∧
      (∀ k, .failed (.crash k) ∈ played.2 → k = .counterFull) ∧
      image.Mirrors played.1.machine ∧
      ∀ raw : Image, raw.validate = .ok () →
        (∃ m : Machine, m.Valid ∧ raw = .ofMachine m ∧ raw.Mirrors m) ∧
        ∀ x y sprite, ∃ after, raw.draw x y sprite = some after ∧ after.1.validate = .ok () := by
  intro played image
  have hc := powerOn_valid settings chance
  have hv : image.validate = .ok () := Image.validate_ofMachine (play_valid hc commands)
  obtain ⟨hm, hs, hp, hall⟩ := (Image.validate_eq_ok_iff image).mp hv
  refine ⟨hv, hm, hs, hp, fun p hmem => Display.binary_iff.mp (hall p hmem), length_play _ commands,
    fun k hk => play_regular hc hk, Image.mirrors_ofMachine _, fun raw hraw => ⟨?_, Image.draw_validated hraw⟩⟩
  obtain ⟨m, hvalid, rfl⟩ := Image.exists_machine hraw
  exact ⟨m, hvalid, rfl, Image.mirrors_ofMachine m⟩

/-- Digit zero is drawn, then the program runs into zeros; a null is no save. -/
def sketching : List Command := [.mount programSlot [0xD0, 0x05], .step, .step, .restore .null, .takeUpdate]

theorem sketching_passes_validation :
    let image := Image.ofMachine ((powerOn .default (.ofSeed 0)).play sketching).1.machine
    image.validate = .ok () ∧ image.pixels.length = 2048 ∧ (∀ p ∈ image.pixels, p = 0 ∨ p = 1) ∧
      ∃ after, image.draw 62 31 [0xFF, 0x81] = some after ∧ after.1.validate = .ok () := by
  intro image
  obtain ⟨hvalid, -, -, hcount, hcells, -, -, -, hraw⟩ := play_passes_validation .default (.ofSeed 0) sketching
  exact ⟨hvalid, hcount, hcells, (hraw image hvalid).2 62 31 _⟩

end Console

end Chip8
