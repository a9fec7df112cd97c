import Chip8.Proofs.CallStack
import Chip8.Proofs.Faults
import Chip8.Proofs.Moves

namespace Chip8

namespace Machine

/-- Whether an instruction skips the next one. -/
def skips (m : Machine) : Instruction → Bool
  | .skipEqByte x kk => m.value x == kk
  | .skipNeByte x kk => m.value x != kk
  | .skipEqReg x y => m.value x == m.value y
  | .skipNeReg x y => m.value x != m.value y
  | .skipKeyPressed x => m.keypad.holds (m.value x)
  | .skipKeyNotPressed x => !m.keypad.holds (m.value x)
  | _ => false

/-- The address that an instruction goes on at, as a number. -/
def next (m : Machine) : Instruction → Nat
  | .ret => (m.stack[m.sp - 1]?.getD 0).toNat
  | .jump addr | .call addr => addr.toNat
  | .jumpV0 addr => addr.toNat + (m.value 0).toNat
  | .waitKey _ => m.pc.toNat + if m.keypad.lowest?.isSome then 2 else 0
  | i => m.pc.toNat + if m.skips i then 4 else 2

/-- Bounds of the program counter and of the slots of the stack, those in use and those popped. -/
structure Bounded (m : Machine) : Prop where
  pc_le : m.pc.toNat ≤ 0x10FE
  slot_le : ∀ (k : Nat) (addr : UInt16), m.stack[k]? = some addr → addr.toNat ≤ 0x1000
  live_ge : ∀ k < m.sp, ∃ addr, m.stack[k]? = some addr ∧ 2 ≤ addr.toNat

section After

variable {m : Machine} {i : Instruction}

theorem toNat_skipping (hpc : m.pc.toNat < 0xFFF) (condition : Bool) :
    (m.skipping condition).pc.toNat = m.pc.toNat + if condition then 4 else 2 := by
  have h2 : (2 : UInt16).toNat = 2 := rfl
  have h4 : (4 : UInt16).toNat = 4 := rfl
  change (m.pc + _).toNat = _
  cases condition
  · simp only [Bool.false_eq_true, if_false]
    rw [UInt16.toNat_add, h2]
    omega
  · simp only [if_true]
    rw [UInt16.toNat_add, h4]
    omega

theorem toNat_past (hpc : m.pc.toNat < 0xFFF) : m.past.pc.toNat = m.pc.toNat + 2 :=
  toNat_skipping hpc false

/-- An instruction that lies in memory goes on where the sum in natural numbers says. -/
theorem toNat_pc_after (hpc : m.pc.toNat < 0xFFF) (byte : UInt8) (hi : i.Fits) :
    (m.after byte i).pc.toNat = m.next i := by
  cases i with
  | ret | jump addr | call addr => rfl
  | jumpV0 addr =>
    have ha : addr.toNat < 4096 := hi
    have hv := (m.value 0).toNat_lt
    change (addr + (m.value 0).toUInt16).toNat = addr.toNat + (m.value 0).toNat
    rw [UInt16.toNat_add, UInt8.toNat_toUInt16]
    omega
  | waitKey x =>
    simp only [after, next]
    cases m.keypad.lowest? with
    | none => rfl
    | some key => exact toNat_past hpc
  | skipEqByte x kk | skipNeByte x kk | skipEqReg x y | skipNeReg x y | skipKeyPressed x
  | skipKeyNotPressed x => exact toNat_skipping hpc _
  | _ => exact toNat_past hpc

theorem toNat_saved (hpc : m.pc.toNat < 0xFFF) : (m.pc + 2).toNat = m.pc.toNat + 2 := toNat_past hpc

end After

theorem Fresh.bounded {m : Machine} {program : Option (List UInt8)} (h : m.Fresh program) : m.Bounded := by
  have hstart : (0x200 : UInt16).toNat = 0x200 := rfl
  constructor
  case pc_le =>
    rw [h.pc, hstart]
    omega
  case slot_le =>
    intro k addr hk
    obtain ⟨hlt, rfl⟩ := Vector.getElem?_eq_some_iff.mp hk
    rw [h.slots k hlt]
    exact Nat.zero_le _
  case live_ge =>
    intro k hk
    rw [h.sp] at hk
    exact absurd hk (Nat.not_lt_zero k)

namespace Bounded

variable {m : Machine} {i : Instruction}

theorem latched (h : m.Bounded) (timers : Timers) (keypad : Keypad) (dirty : Bool) :
    (m.latched timers keypad dirty).Bounded := ⟨h.pc_le, h.slot_le, h.live_ge⟩

/-- No instruction in memory goes on beyond 0x10FE, which is 0xFFF and the largest value of V0. -/
theorem next_le (h : m.Bounded) (hpc : m.pc.toNat < 0xFFF) (hi : i.Fits) : m.next i ≤ 0x10FE := by
  -- an instruction that moves on from memory stays below 0x1003
  have hskip : m.next i = m.pc.toNat + (if m.skips i then 4 else 2) → m.next i ≤ 0x10FE := by
    intro hnext
    rw [hnext]
    split <;> omega
  cases i with
  | ret =>
    cases hs : m.stack[m.sp - 1]? with
    | none =>
      simp only [next, hs]
      exact Nat.zero_le _
    | some addr =>
      have hslot := h.slot_le _ _ hs
      simp only [next, hs, Option.getD_some]
      omega
  | jump addr | call addr =>
    have ha : addr.toNat < 4096 := hi
    simp only [next]
    omega
  | jumpV0 addr =>
    have ha : addr.toNat < 4096 := hi
    have hv := (m.value 0).toNat_lt
    simp only [next]
    omega
  | waitKey x =>
    simp only [next]
    split <;> omega
  | _ => exact hskip rfl

/-- A call puts an address between 2 and 0x1000 on the stack; no other instruction puts one there. -/
theorem after (h : m.Bounded) (hpc : m.pc.toNat < 0xFFF) (byte : UInt8) (hi : i.Fits)
    (hf : m.fault? i = none) : (m.after byte i).Bounded := by
  have hsaved := toNat_saved hpc
  constructor
  case pc_le =>
    rw [toNat_pc_after hpc byte hi]
    exact h.next_le hpc hi
  case slot_le =>
    intro k addr hk
    rw [stack_after] at hk
    cases hcall : i.isCall with
    | false =>
      rw [hcall] at hk
      exact h.slot_le k addr hk
    | true =>
      rw [hcall, if_pos rfl, Vector.getElem?_setIfInBounds] at hk
      split at hk
      · split at hk
        · cases hk
          omega
        · cases hk
      · exact h.slot_le k addr hk
  case live_ge =>
    intro k hk
    have hsp := sp_after_add byte hf
    by_cases hlive : k < m.sp
    · rw [getElem?_stack_after m byte i hlive]
      exact h.live_ge k hlive
    -- the one slot that comes into use is that of a call
    · cases i with
      | call addr =>
        have hroom := lt_of_fault?_call hf
        have htop : k = m.sp := by
          simp only [Instruction.isCall, Instruction.isReturn, if_true] at hsp
          omega
        rw [htop]
        refine ⟨m.pc + 2, getElem?_stack_call byte addr hroom, ?_⟩
        omega
      | _ =>
        simp only [Instruction.isCall, Bool.false_eq_true, if_false] at hsp
        omega

end Bounded

end Machine

namespace Processor

variable {p : Processor}

theorem pc_lt_of_fetch {word : UInt16} (hw : p.fetch = .ok word) : p.machine.pc.toNat < 0xFFF := by
  by_contra hpc
  rw [fetch_eq_error_iff.mpr ⟨Nat.le_of_not_lt hpc, rfl⟩] at hw
  cases hw

theorem bounded_step (hp : p.machine.Valid) (h : p.machine.Bounded) : p.step.1.machine.Bounded := by
  rcases machine_step_cases hp with hs | ⟨word, byte, hw, hf, hs⟩
  · rw [hs]
    exact h
  · rw [hs]
    exact h.after (pc_lt_of_fetch hw) byte (Instruction.decode_fits word) hf

theorem bounded_run (n : Nat) (hp : p.machine.Valid) (h : p.machine.Bounded) :
    (p.run n).1.machine.Bounded := by
  let Kept (q : Processor) : Prop := q.machine.Valid ∧ q.machine.Bounded
  have hstep (q : Processor) (hq : Kept q) : Kept q.step.1 := ⟨valid_step hq.1, bounded_step hq.1 hq.2⟩
  have hrun : Kept (p.run n).1 := run_keeps hstep n ⟨hp, h⟩
  exact hrun.2

theorem fetchOutOfBounds_bounds (h : p.machine.Bounded) {pc : UInt16}
    (hf : p.failure? = some (.fetchOutOfBounds pc)) : 0x0FFF ≤ pc.toNat ∧ pc.toNat ≤ 0x10FE := by
  obtain ⟨hpc, rfl⟩ := failure?_eq_fetchOutOfBounds_iff.mp hf
  exact ⟨hpc, h.pc_le⟩

end Processor

namespace Console

variable {c : Console}

theorem bounded_perform (hc : c.machine.Valid) (hk : c.KeepsWhatFits) (h : c.machine.Bounded) {cmd : Command}
    (hr : cmd.restores = false) : (c.perform cmd).1.machine.Bounded := by
  rcases perform_moves hk hr with ⟨program, hfresh, -⟩ | ⟨k, -, timers, keypad, dirty, hleft⟩
  · exact hfresh.bounded
  · have hrun := Processor.bounded_run k hc h
    rw [machine, hleft]
    exact hrun.latched timers keypad dirty

/-- Commands other than restoring keep the bounds, and fetches that fail on the way fail within them. -/
theorem bounded_play (hc : c.machine.Valid) (hk : c.KeepsWhatFits) (h : c.machine.Bounded)
    {commands : List Command} (hr : ∀ cmd ∈ commands, cmd.restores = false) :
    (c.play commands).1.machine.Bounded ∧
      ∀ pc, .failed (.fetchOutOfBounds pc) ∈ (c.play commands).2 →
        0x0FFF ≤ pc.toNat ∧ pc.toNat ≤ 0x10FE := by
  induction commands generalizing c with
  | nil => exact ⟨h, fun pc hpc => absurd hpc List.not_mem_nil⟩
  | cons cmd rest ih =>
    obtain ⟨hcmd, hrest⟩ := List.forall_mem_cons.mp hr
    have hnext := bounded_perform hc hk h hcmd
    obtain ⟨hend, hanswers⟩ := ih (perform_valid hc cmd) (hk.perform cmd) hnext hrest
    rw [play_cons]
    refine ⟨hend, fun pc hpc => ?_⟩
    rcases List.mem_cons.mp hpc with hpc | hpc
    · exact Processor.fetchOutOfBounds_bounds hnext (failure?_of_perform hc rfl hpc.symm)
    · exact hanswers pc hpc

/-- From power-on, as long as no save is restored, the program counter is 0x10FE at most, every slot of the
stack holds 0x1000 at most and every slot in use at least 2, also between the steps of a frame. So a fetch that
fails, fails between 0xFFF and 0x10FE. -/
theorem program_counter_bounded (settings : MachineSettings) (chance : Random) {commands : List Command}
    (hr : ∀ cmd ∈ commands, cmd.restores = false) :
    let played := (powerOn settings chance).play commands
    (∀ k,
        let m := (played.1.processor.run k).1.machine
        m.pc.toNat ≤ 0x10FE ∧
          (∀ (k : Nat) (addr : UInt16), m.stack[k]? = some addr → addr.toNat ≤ 0x1000) ∧
          ∀ k < m.sp, ∃ addr, m.stack[k]? = some addr ∧ 2 ≤ addr.toNat) ∧
      ∀ pc, .failed (.fetchOutOfBounds pc) ∈ played.2 → 0x0FFF ≤ pc.toNat ∧ pc.toNat ≤ 0x10FE := by
  intro played
  have hvalid := powerOn_valid settings chance
  have hkeeps := keepsWhatFits_powerOn settings chance
  have hstart : (powerOn settings chance).machine.Bounded := Machine.fresh_powerOn.bounded
  obtain ⟨hend, hanswers⟩ := bounded_play hvalid hkeeps hstart hr
  refine ⟨fun k => ?_, hanswers⟩
  obtain ⟨hpc, hslots, hlive⟩ := Processor.bounded_run k (play_valid hvalid commands) hend
  exact ⟨hpc, hslots, hlive⟩

/-- The longest way out of memory: the largest address and the largest V0. -/
def runaway : List Command := [.mount programSlot [0x60, 0xFF, 0xBF, 0xFF], .step, .step]

theorem runaway_bounded :
    let played := (powerOn .default (.ofSeed 0)).play (runaway ++ [.step])
    .failed (.fetchOutOfBounds 0x10FE) ∈ played.2 ∧ 0x0FFF ≤ (0x10FE : UInt16).toNat ∧
      ∀ k, (played.1.processor.run k).1.machine.pc.toNat ≤ 0x10FE := by
  intro played
  let c := ((powerOn .default (.ofSeed 0)).play runaway).1
  have hr : ∀ cmd ∈ runaway ++ [.step], cmd.restores = false := by decide
  have hvalid : c.machine.Valid := play_valid (powerOn_valid _ _) _
  have hmounted : c.program.isSome := by decide +kernel
  have hfails : c.processor.failure? = some (.fetchOutOfBounds 0x10FE) := by decide +kernel
  have hstep := step_of_failure? hvalid hmounted hfails
  have hanswer : .failed (.fetchOutOfBounds 0x10FE) ∈ played.2 := by
    have hlast := congrArg Prod.snd (play_concat (powerOn .default (.ofSeed 0)) runaway .step)
    unfold played
    rw [hlast, perform, hstep]
    exact List.mem_append_right _ List.mem_cons_self
  obtain ⟨hbounds, hpcs⟩ := program_counter_bounded .default (.ofSeed 0) hr
  exact ⟨hanswer, (hpcs _ hanswer).1, fun k => (hbounds k).1⟩

end Console

end Chip8
