import Chip8.Proofs.ProgramCounter
import Chip8.Proofs.Saves.RoundTrip

namespace Chip8

theorem Word.Accesses.le {word : UInt16} {len : Nat} (h : Accesses word len) : len ≤ 16 := by
  cases h <;> omega

namespace Machine

variable {m : Machine}

theorem toNat_glyph (m : Machine) (byte x : UInt8) :
    (m.after byte (.loadFont x)).i.toNat = (m.value x).toNat * 5 := by
  have hv := (m.value x).toNat_lt
  have hsize : glyphSize.toNat = 5 := rfl
  change ((m.value x).toUInt16 * glyphSize).toNat = _
  rw [UInt16.toNat_mul, UInt8.toNat_toUInt16, hsize]
  omega

theorem range_of_not_raises {word : UInt16} (hf : ∀ f, ¬ m.Raises word f) {len : Nat}
    (ha : Word.Accesses word len) : m.i.toNat + len ≤ 4096 := by
  by_contra hl
  exact hf _ (.outside ha (Nat.lt_of_not_le hl))

end Machine

namespace Processor

/-- A word was executed at `p` and left `q`, and all sums on the way are those of the natural numbers. -/
structure Exact (p : Processor) (word : UInt16) (q : Processor) : Prop where
  pc : q.machine.pc.toNat = p.machine.next (.decode word)
  /-- The longest advance of the program counter has room. -/
  advance : p.machine.pc.toNat + 4 < UInt16.size
  sp : q.machine.sp + (if (Instruction.decode word).isReturn then 1 else 0) =
    p.machine.sp + if (Instruction.decode word).isCall then 1 else 0
  sp_le : q.machine.sp ≤ 24
  saved : ∀ addr, .decode word = Instruction.call addr →
    ∃ slot, q.machine.stack[p.machine.sp]? = some slot ∧ slot.toNat = p.machine.pc.toNat + 2
  glyph : ∀ x, .decode word = Instruction.loadFont x →
    q.machine.i.toNat = (p.machine.value x).toNat * 5
  range : ∀ len, Word.Accesses word len → p.machine.i.toNat + len ≤ 4096
  executed : q.executed.toNat = p.executed.toNat + 1

variable {p q : Processor} {i : Instruction}

theorem exact_of_ok (hp : p.machine.Valid) (h : p.step = (q, .ok i)) :
    ∃ word, p.fetch = .ok word ∧ i = .decode word ∧ p.Exact word q := by
  have hcount := toNat_executed_of_ok hp h
  obtain ⟨hn, rfl, word, hw, rfl⟩ := (step_eq_ok_iff hp).mp h
  have hpc := pc_lt_of_fetch hw
  have hfits := Instruction.decode_fits word
  have hfault := fault?_of_failure? hw hn
  have hraises := (Machine.fault?_decode_eq_none_iff hp).mp hfault
  -- which random byte was on offer is of no account for any sum
  obtain ⟨byte, hbyte⟩ : ∃ byte, (p.after (.decode word)).machine = p.machine.after byte (.decode word) :=
    ⟨_, rfl⟩
  refine ⟨word, hw, rfl, ?_⟩
  constructor
  case pc =>
    rw [hbyte]
    exact Machine.toNat_pc_after hpc byte hfits
  case advance =>
    have hsize : UInt16.size = 65536 := rfl
    omega
  case sp =>
    rw [hbyte]
    exact Machine.sp_after_add byte hfault
  case sp_le =>
    rw [hbyte]
    exact hp.after byte hfault
  case saved =>
    intro addr hcall
    rw [hcall] at hfault
    have hslot := Machine.getElem?_stack_call byte addr (Machine.lt_of_fault?_call hfault)
    rw [hbyte, hcall]
    exact ⟨p.machine.pc + 2, hslot, Machine.toNat_saved hpc⟩
  case glyph =>
    intro x hfont
    rw [hbyte, hfont]
    exact Machine.toNat_glyph p.machine byte x
  case range =>
    intro len ha
    exact Machine.range_of_not_raises hraises ha
  case executed => exact hcount

theorem toNat_executed_run (n : Nat) (hp : p.machine.Valid) :
    (p.run n).1.executed.toNat = p.executed.toNat + (p.trace n).length := by
  induction n generalizing p with
  | zero => rfl
  | succ n ih =>
    cases hs : p.step with
    | mk q result =>
      cases result with
      | ok i =>
        have hcount := toNat_executed_of_ok hp hs
        have hrest := ih (valid_of_step hp hs)
        rw [run_succ_of_ok hs, trace_succ_of_ok hs, List.length_cons]
        omega
      | error e =>
        obtain ⟨rfl, -⟩ := (step_eq_error_iff hp).mp hs
        rw [run_succ_of_error hs, trace_succ_of_error hs]
        rfl

end Processor

namespace Console

variable {c : Console}

/-- A command other than restoring counts the instructions that it executes, or begins again at zero. -/
theorem executed_perform (hc : c.machine.Valid) (hk : c.KeepsWhatFits) {cmd : Command}
    (hr : cmd.restores = false) :
    (c.perform cmd).1.processor.executed.toNat ≤ c.processor.executed.toNat + (c.trace cmd).length := by
  rcases perform_moves hk hr with ⟨program, -, hzero⟩ | ⟨k, htrace, timers, keypad, dirty, hleft⟩
  · rw [hzero]
    exact Nat.zero_le _
  · have hrun := Processor.toNat_executed_run k hc
    rw [hleft, htrace]
    exact Nat.le_of_eq hrun

theorem executed_play (hc : c.machine.Valid) (hk : c.KeepsWhatFits) {commands : List Command}
    (hr : ∀ cmd ∈ commands, cmd.restores = false) :
    (c.play commands).1.processor.executed.toNat ≤
      c.processor.executed.toNat + (c.trail commands).length := by
  induction commands generalizing c with
  | nil => exact Nat.le_refl _
  | cons cmd rest ih =>
    obtain ⟨hcmd, hrest⟩ := List.forall_mem_cons.mp hr
    have hfirst := executed_perform hc hk hcmd
    have hlast := ih (perform_valid hc cmd) (hk.perform cmd) hrest
    rw [play_cons, trail, List.length_append]
    dsimp only
    omega

/-- At every step that a console comes to, whatever the commands and the saves restored among them: if the step
succeeds, then its sums are exact; the end of a memory access always fits in 32 bits; and the one sum that has
no room is that of the instruction counter at its largest number, on an instruction that raises no fault. A
console that restores no save comes there only by executing as many instructions. -/
theorem sums_exact_until_counterFull (settings : MachineSettings) (chance : Random)
    (commands : List Command) (k : Nat) :
    let c := powerOn settings chance
    let p := ((c.play commands).1.processor.run k).1
    (∀ q i, p.step = (q, .ok i) → ∃ word, p.fetch = .ok word ∧ i = .decode word ∧ p.Exact word q) ∧
      (∀ word len, Word.Accesses word len → p.machine.i.toNat + len < UInt32.size) ∧
      (∀ crash, p.step.2 = .error (.crash crash) ↔
        crash = .counterFull ∧ p.executed.toNat + 1 = UInt64.size ∧
          ∃ word, p.fetch = .ok word ∧ ∀ f, ¬ p.machine.Raises word f) ∧
      ((∀ cmd ∈ commands, cmd.restores = false) →
        p.executed.toNat ≤ (c.trail commands).length + k) := by
  intro c p
  have hc : c.machine.Valid := powerOn_valid settings chance
  have hplayed := play_valid hc commands
  have hp : p.machine.Valid := Processor.valid_run k hplayed
  refine ⟨fun q i => Processor.exact_of_ok hp, fun word len ha => ?_, fun crash => ?_, fun hr => ?_⟩
  · have hsize : UInt32.size = 4294967296 := rfl
    have hi := p.machine.i.toNat_lt
    have hlen := ha.le
    omega
  · rw [Processor.step_snd_eq_error_iff hp]
    exact Processor.failure?_eq_crash_iff hp
  · have hkeeps : c.KeepsWhatFits := keepsWhatFits_powerOn settings chance
    have hzero : c.processor.executed.toNat = 0 := rfl
    have hcommands := executed_play hc hkeeps hr
    have hrun : p.executed.toNat = _ := Processor.toNat_executed_run k hplayed
    have hsteps := Processor.length_trace_le (c.play commands).1.processor k
    omega

/-- The console with another instruction counter. -/
def counting (c : Console) (n : UInt64) : Console := { c with processor := { c.processor with executed := n } }

theorem restore_counting (hc : c.machine.Valid) (n : UInt64) :
    c.restore (c.counting n).save = (c.counting n, .ok ()) := by
  have hn : (c.counting n).machine.Valid := hc
  exact restore_save hn c

theorem Reachable.counting (hc : c.Reachable) (n : UInt64) : (c.counting n).Reachable := by
  have hrestored := hc.perform (.restore (c.counting n).save)
  rw [Console.perform, answering, restore_counting hc.valid n] at hrestored
  exact hrestored

/-- A console with a program that jumps to itself. -/
def circling : Console := ((powerOn .default (.ofSeed 0)).play [.mount programSlot [0x12, 0x00]]).1

theorem circling_reachable : circling.Reachable :=
  reachable_play .default (.ofSeed 0) [.mount programSlot [0x12, 0x00]]

/-- The same console with its counter at the largest number. -/
def brimming : Console := circling.counting 0xFFFFFFFFFFFFFFFF

/-- The save is accepted, and the next step executes a jump, which raises no fault, and cannot count it. -/
theorem restored_counter_overflows :
    circling.Reachable ∧ circling.restore brimming.save = (brimming, .ok ()) ∧ brimming.Reachable ∧
      brimming.processor.executed.toNat + 1 = UInt64.size ∧
      brimming.processor.fetch = .ok 0x1200 ∧ (∀ f, ¬ brimming.machine.Raises 0x1200 f) ∧
      brimming.step = (brimming, .error (.crash .counterFull)) := by
  have hreachable : brimming.Reachable := circling_reachable.counting _
  have hrestored : circling.restore brimming.save = (brimming, .ok ()) :=
    restore_counting circling_reachable.valid _
  have hmounted : brimming.program.isSome := by decide +kernel
  have hfetch : brimming.processor.fetch.toOption = some 0x1200 := by decide +kernel
  have hfault : brimming.machine.fault? (.decode 0x1200) = none := rfl
  have hfull : brimming.processor.failure? = some (.crash .counterFull) := by decide +kernel
  have hraises := (Machine.fault?_decode_eq_none_iff hreachable.valid).mp hfault
  have hstep := step_of_failure? hreachable.valid hmounted hfull
  exact ⟨circling_reachable, hrestored, hreachable, rfl, Outcome.eq_ok_of_toOption hfetch, hraises, hstep⟩

end Console

end Chip8
