import Chip8.Proofs.Validity

namespace Chip8

namespace Machine

/-- A machine right after power-on, with a program in memory or without one. -/
structure Fresh (program : Option (List UInt8)) (m : Machine) : Prop where
  memory : ∀ a (h : a < memorySize),
    m.memory[a] = if 0x200 ≤ a then (program.getD []).getD (a - 0x200) 0 else 0
  registers : ∀ x (h : x < registerCount), m.v[x] = 0
  index : m.i = 0
  pc : m.pc = 0x200
  slots : ∀ k (h : k < stackSize), m.stack[k] = 0
  sp : m.sp = 0
  dark : ∀ p, m.display.lit p = false
  dirty : m.display.dirty = true
  delay : m.timers.delay = 0
  sound : m.timers.sound = 0
  keys : m.keypad.mask = 0

variable {m n : Machine} {program : Option (List UInt8)}

theorem Fresh.eq (hm : m.Fresh program) (hn : n.Fresh program) : m = n := by
  have hmemory : m.memory = n.memory := by
    ext a ha
    rw [hm.memory a ha, hn.memory a ha]
  have hregisters : m.v = n.v := by
    ext x hx
    rw [hm.registers x hx, hn.registers x hx]
  have hslots : m.stack = n.stack := by
    ext k hk
    rw [hm.slots k hk, hn.slots k hk]
  have hdisplay : m.display = n.display :=
    Display.eq_of_lit (fun p => (hm.dark p).trans (hn.dark p).symm) (hm.dirty.trans hn.dirty.symm)
  have hdelay : m.timers.delay = n.timers.delay := hm.delay.trans hn.delay.symm
  have hsound : m.timers.sound = n.timers.sound := hm.sound.trans hn.sound.symm
  have hkeys : m.keypad.mask = n.keypad.mask := hm.keys.trans hn.keys.symm
  obtain ⟨memory, v, i, pc, stack, sp, display, ⟨delay, sound⟩, ⟨mask⟩⟩ := m
  obtain ⟨memory', v', i', pc', stack', sp', display', ⟨delay', sound'⟩, ⟨mask'⟩⟩ := n
  simp only [mk.injEq, Timers.mk.injEq, Keypad.mk.injEq]
  exact ⟨hmemory, hregisters, hm.index.trans hn.index.symm, hm.pc.trans hn.pc.symm, hslots,
    hm.sp.trans hn.sp.symm, hdisplay, ⟨hdelay, hsound⟩, hkeys⟩

theorem fresh_powerOn : powerOn.Fresh none := by
  constructor
  case memory =>
    intro a ha
    simp [powerOn]
  case registers =>
    intro x hx
    simp [powerOn]
  case slots =>
    intro k hk
    simp [powerOn]
  case dark => exact Display.lit_blank
  all_goals rfl

theorem exists_load_eq_ok {q : List UInt8} (h : q.length ≤ maxProgramSize) :
    ∃ m, powerOn.load q = .ok m ∧ m.Fresh (some q) := by
  refine ⟨_, dif_pos h, ?_⟩
  have hstart : programStart.toNat = 0x200 := rfl
  refine { fresh_powerOn with memory := ?_ }
  intro a ha
  rw [Memory.getElem_overwrite, hstart]
  simp [powerOn]

end Machine

namespace Console

variable {c d : Console}

/-- A program that is kept fits into memory. -/
def KeepsWhatFits (c : Console) : Prop := ∀ q, c.program = some q → q.length ≤ maxProgramSize

theorem reload_cleared (hc : c.KeepsWhatFits) :
    ∃ m, c.cleared.reload = .ok (c.cleared.withMachine m) ∧ m.Fresh c.program := by
  cases hp : c.program with
  | none =>
    refine ⟨Machine.powerOn, ?_, Machine.fresh_powerOn⟩
    have hcleared : c.cleared.program = none := hp
    rw [reload, hcleared]
    rfl
  | some q =>
    obtain ⟨m, hload, hfresh⟩ := Machine.exists_load_eq_ok (hc q hp)
    refine ⟨m, ?_, hfresh⟩
    have hcleared : c.cleared.program = some q := hp
    have hload' : c.cleared.machine.load q = .ok m := hload
    rw [reload, hcleared]
    dsimp only
    rw [hload']
    rfl

theorem exists_reset_eq (hc : c.KeepsWhatFits) :
    ∃ m, c.reset = c.cleared.withMachine m ∧ m.Fresh c.program := by
  obtain ⟨m, hreload, hfresh⟩ := reload_cleared hc
  refine ⟨m, ?_, hfresh⟩
  rw [reset, hreload]

/-- A mount is refused for its slot or for its size and then changes nothing, or it leaves the machine of
power-on with the new program loaded. -/
theorem mount_cases (c : Console) (id : String) (q : List UInt8) :
    (id ≠ programSlot ∧ c.mount id q = (c, .error (.invalidMountPoint id))) ∨
      (maxProgramSize < q.length ∧
        c.mount id q = (c, .error (.programTooLarge q.length maxProgramSize))) ∨
      (id = programSlot ∧ q.length ≤ maxProgramSize ∧ ∃ m, m.Fresh (some q) ∧
        c.mount id q = (({ c with program := some q } : Console).cleared.withMachine m, .ok ())) := by
  by_cases hid : id = programSlot
  · have hslot : ¬ id ≠ programSlot := fun h => h hid
    by_cases hsize : q.length ≤ maxProgramSize
    · have hfits : ¬ maxProgramSize < q.length := Nat.not_lt.mpr hsize
      have hkeeps : ({ c with program := some q } : Console).KeepsWhatFits := by
        intro r hr
        cases hr
        exact hsize
      obtain ⟨m, hreload, hfresh⟩ := reload_cleared hkeeps
      -- a mount clears the machine before it takes the program, here it is the other way round
      have hreload' : ({ c.cleared with program := some q } : Console).reload =
          .ok (({ c with program := some q } : Console).cleared.withMachine m) := hreload
      refine .inr (.inr ⟨hid, hsize, m, hfresh, ?_⟩)
      rw [mount, if_neg hslot, if_neg hfits]
      dsimp only
      rw [hreload']
    · have hlong : maxProgramSize < q.length := Nat.lt_of_not_le hsize
      refine .inr (.inl ⟨hlong, ?_⟩)
      rw [mount, if_neg hslot, if_pos hlong]
  · refine .inl ⟨hid, ?_⟩
    rw [mount, if_pos hid]

theorem unmount_cases (c : Console) (id : String) :
    (id ≠ programSlot ∧ c.unmount id = (c, .error (.invalidMountPoint id))) ∨
      (id = programSlot ∧ c.unmount id = ({ c with program := none }, .ok ())) := by
  by_cases hid : id = programSlot
  · refine .inr ⟨hid, ?_⟩
    rw [unmount, if_neg (fun h => h hid)]
  · refine .inl ⟨hid, ?_⟩
    rw [unmount, if_pos hid]

theorem KeepsWhatFits.mount (hc : c.KeepsWhatFits) (id : String) (q : List UInt8) :
    (c.mount id q).1.KeepsWhatFits := by
  rcases c.mount_cases id q with ⟨-, h⟩ | ⟨-, h⟩ | ⟨-, hsize, m, -, h⟩
  · rw [h]
    exact hc
  · rw [h]
    exact hc
  · rw [h]
    intro r hr
    cases hr
    exact hsize

theorem KeepsWhatFits.unmount (hc : c.KeepsWhatFits) (id : String) : (c.unmount id).1.KeepsWhatFits := by
  rcases c.unmount_cases id with ⟨-, h⟩ | ⟨-, h⟩
  · rw [h]
    exact hc
  · rw [h]
    intro r hr
    cases hr

theorem KeepsWhatFits.reset (hc : c.KeepsWhatFits) : c.reset.KeepsWhatFits := by
  obtain ⟨m, h, -⟩ := exists_reset_eq hc
  rw [h]
  exact hc

/-- Every command keeps the kept program within its size, for only a mount puts another one into the slot. -/
theorem KeepsWhatFits.perform (hc : c.KeepsWhatFits) (cmd : Command) :
    (c.perform cmd).1.KeepsWhatFits := by
  cases cmd with
  | mount id q => exact hc.mount id q
  | unmount id => exact hc.unmount id
  | reset => exact hc.reset
  | step =>
    change c.step.1.KeepsWhatFits
    unfold Console.step
    split <;> exact hc
  | stepFrame =>
    change c.stepFrame.1.KeepsWhatFits
    unfold Console.stepFrame
    split
    · exact hc
    · split <;> exact hc
  | restore save =>
    change (c.restore save).1.KeepsWhatFits
    unfold Console.restore
    split <;> exact hc
  | tick | setKeys mask | press key | release key | takeUpdate | save => exact hc

theorem KeepsWhatFits.play (hc : c.KeepsWhatFits) (commands : List Command) :
    (c.play commands).1.KeepsWhatFits := by
  induction commands generalizing c with
  | nil => exact hc
  | cons cmd rest ih => exact ih (hc.perform cmd)

theorem keepsWhatFits_powerOn (settings : MachineSettings) (chance : Random) :
    (powerOn settings chance).KeepsWhatFits := by
  intro q hq
  cases hq

theorem Reachable.keepsWhatFits (hc : c.Reachable) : c.KeepsWhatFits := by
  obtain ⟨settings, chance, commands, rfl⟩ := hc
  exact (keepsWhatFits_powerOn settings chance).play commands

theorem exists_mount_eq (c : Console) {q : List UInt8} (hq : q.length ≤ maxProgramSize) :
    ∃ m, c.mount programSlot q = (({ c with program := some q } : Console).cleared.withMachine m, .ok ()) ∧
      m.Fresh (some q) := by
  rcases c.mount_cases programSlot q with ⟨hid, -⟩ | ⟨hlong, -⟩ | ⟨-, -, m, hfresh, h⟩
  · exact absurd rfl hid
  · exact absurd hq (Nat.not_le.mpr hlong)
  · exact ⟨m, h, hfresh⟩

theorem mount_eq_ok_iff (c : Console) (q : List UInt8) :
    (c.mount programSlot q).2 = .ok () ↔ q.length ≤ maxProgramSize := by
  rcases c.mount_cases programSlot q with ⟨hid, -⟩ | ⟨hlong, h⟩ | ⟨-, hsize, m, -, h⟩
  · exact absurd rfl hid
  · simp [h, hlong]
  · simp [h, hsize]

theorem mount_of_error {id : String} {q : List UInt8} {e : Failure} (he : (c.mount id q).2 = .error e) :
    (c.mount id q).1 = c ∧ (id ≠ programSlot ∨ maxProgramSize < q.length) := by
  rcases c.mount_cases id q with ⟨hid, h⟩ | ⟨hlong, h⟩ | ⟨-, -, m, -, h⟩
  · exact ⟨congrArg Prod.fst h, .inl hid⟩
  · exact ⟨congrArg Prod.fst h, .inr hlong⟩
  · rw [h] at he
    cases he

theorem unmount_of_error {id : String} {e : Failure} (he : (c.unmount id).2 = .error e) :
    (c.unmount id).1 = c ∧ id ≠ programSlot := by
  rcases c.unmount_cases id with ⟨hid, h⟩ | ⟨-, h⟩
  · exact ⟨congrArg Prod.fst h, hid⟩
  · rw [h] at he
    cases he

theorem reset_eq_reset (hc : c.KeepsWhatFits) (hd : d.KeepsWhatFits) (h : d.program = c.program) :
    d.reset.machine = c.reset.machine ∧ d.reset.processor.executed = c.reset.processor.executed := by
  obtain ⟨m, hm, hfresh⟩ := exists_reset_eq hc
  obtain ⟨n, hn, hother⟩ := exists_reset_eq hd
  rw [h] at hother
  rw [hm, hn]
  exact ⟨hother.eq hfresh, rfl⟩

/-- Mounting the program that is kept already is a reset. -/
theorem mount_eq_reset (hc : c.KeepsWhatFits) {q : List UInt8} (hq : c.program = some q) :
    (c.mount programSlot q).1.machine = c.reset.machine := by
  obtain ⟨m, hm, hfresh⟩ := c.exists_mount_eq (hc q hq)
  obtain ⟨n, hn, hother⟩ := exists_reset_eq hc
  rw [hq] at hother
  rw [hm, hn]
  exact hfresh.eq hother

theorem reloadFailed_notMem_resetEvents (hc : c.KeepsWhatFits) (e : Failure) :
    Event.reloadFailed e ∉ c.resetEvents := by
  obtain ⟨m, hreload, -⟩ := reload_cleared hc
  have hevents : c.resetEvents = c.cleared.reloadEvents := by rw [resetEvents, hreload]
  rw [hevents]
  unfold reloadEvents
  intro h
  split at h
  · cases List.mem_singleton.mp h
  · cases h

/-- Whatever a console was used for, a program is mounted exactly if it has at most 3584 bytes, and a mount or
an unmount that fails leaves the console as it was. A reset begins again with counter zero and the machine of
power-on, with the kept program in memory if there is one; the same comes of mounting that program. So two
consoles with the same program mounted are reset to the same machine, whatever their histories; and a reset
never fails to load the program again, for what is kept fits. -/
theorem reset_forgets_history (hc : c.Reachable) :
    (∀ q, (c.mount programSlot q).2 = .ok () ↔ q.length ≤ 3584) ∧
      (∀ id q e, (c.mount id q).2 = .error e →
        (c.mount id q).1 = c ∧ (id ≠ programSlot ∨ 3584 < q.length)) ∧
      (∀ id e, (c.unmount id).2 = .error e → (c.unmount id).1 = c ∧ id ≠ programSlot) ∧
      (∀ q, q.length ≤ 3584 →
        let left := (c.mount programSlot q).1
        left.program = some q ∧ left.machine.Fresh (some q) ∧ left.processor.executed = 0) ∧
      (c.reset.program = c.program ∧ c.reset.machine.Fresh c.program ∧ c.reset.processor.executed = 0) ∧
      (∀ d : Console, d.Reachable → d.program = c.program →
        d.reset.machine = c.reset.machine ∧ d.reset.processor.executed = c.reset.processor.executed) ∧
      (∀ q, c.program = some q → q.length ≤ 3584 ∧ (c.mount programSlot q).1.machine = c.reset.machine) ∧
      (∀ e, c.cleared.reload ≠ .error e ∧ .reloadFailed e ∉ c.resetEvents) := by
  have hkeeps := hc.keepsWhatFits
  refine ⟨c.mount_eq_ok_iff, fun id q e => mount_of_error, fun id e => unmount_of_error, fun q hq => ?_, ?_,
    fun d hd => reset_eq_reset hkeeps hd.keepsWhatFits, fun q hq => ?_, fun e => ⟨fun h => ?_, ?_⟩⟩
  · obtain ⟨m, h, hfresh⟩ := c.exists_mount_eq hq
    rw [h]
    exact ⟨rfl, hfresh, rfl⟩
  · obtain ⟨m, h, hfresh⟩ := exists_reset_eq hkeeps
    rw [h]
    exact ⟨rfl, hfresh, rfl⟩
  · exact ⟨hkeeps q hq, mount_eq_reset hkeeps hq⟩
  · obtain ⟨m, hreload, -⟩ := reload_cleared hkeeps
    rw [hreload] at h
    cases h
  · exact reloadFailed_notMem_resetEvents hkeeps e

/-- A console in the middle of a short program, with a key held. -/
def onceUsed : Console :=
  ((powerOn ⟨10, some 1⟩ (.ofSeed 0)).play [.mount programSlot [0x60, 0x05], .press 3, .step]).1

/-- A console with the same program, put in place of a longer one that has faulted. -/
def twiceUsed : Console :=
  ((powerOn ⟨4, some 2⟩ (.ofSeed 0)).play
    [.mount programSlot [0x12, 0x02, 0x00, 0xEE], .stepFrame, .mount programSlot [0x60, 0x05],
      .mount "Cartridge" [0xFF], .stepFrame, .tick]).1

theorem usedConsoles_reset_alike :
    twiceUsed.reset.machine = onceUsed.reset.machine ∧
      onceUsed.reset.machine.Fresh (some [0x60, 0x05]) ∧
      (onceUsed.mount programSlot (List.replicate 3585 0)).2 ≠ .ok () := by
  have honce : onceUsed.Reachable := reachable_play _ _ _
  have htwice : twiceUsed.Reachable := reachable_play _ _ _
  have hprogram : onceUsed.program = some [0x60, 0x05] := by decide +kernel
  have hsame : twiceUsed.program = onceUsed.program := by decide +kernel
  obtain ⟨hmount, -, -, -, ⟨-, hfresh, -⟩, halike, -⟩ := reset_forgets_history honce
  rw [hprogram] at hfresh
  refine ⟨(halike twiceUsed htwice hsame).1, hfresh, fun h => ?_⟩
  have hsize := (hmount _).mp h
  rw [List.length_replicate] at hsize
  omega

end Console

end Chip8
