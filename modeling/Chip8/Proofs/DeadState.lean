import Chip8.Proofs.FrameSteps
import Chip8.Proofs.Overflow

namespace Chip8

namespace Display

/-- The dirty flag has no part in which cells a drawing flips and whether it finds one lit. -/
theorem foldl_hit_congr {a b : Display × Bool} (hcells : b.1.cells = a.1.cells) (hflag : b.2 = a.2)
    (places : List Place) :
    (places.foldl hit b).1.cells = (places.foldl hit a).1.cells ∧
      (places.foldl hit b).2 = (places.foldl hit a).2 := by
  induction places generalizing a b with
  | nil => exact ⟨hcells, hflag⟩
  | cons p rest ih =>
    refine ih ?_ ?_
    · simp only [hit, flip, hcells]
    · simp only [hit, hcells, hflag]

theorem frame_congr {d e : Display} (h : e.cells = d.cells) : e.frame = d.frame := by simp only [frame, h]

end Display

namespace Machine

/-- The machines differ at most in dead state: stack slots that are not in use, sound timer and dirty flag. -/
structure Alike (m n : Machine) : Prop where
  memory : n.memory = m.memory
  v : n.v = m.v
  i : n.i = m.i
  pc : n.pc = m.pc
  sp : n.sp = m.sp
  stack : ∀ j < m.sp, n.stack[j]? = m.stack[j]?
  cells : n.display.cells = m.display.cells
  delay : n.timers.delay = m.timers.delay
  keypad : n.keypad = m.keypad

def withDead (m : Machine) (stack : Vector UInt16 stackSize) (sound : UInt8) (dirty : Bool) : Machine :=
  { m with stack := stack, display.dirty := dirty, timers.sound := sound }

variable {m n : Machine} {stack : Vector UInt16 stackSize}

theorem alike_withDead (h : ∀ j < m.sp, stack[j]? = m.stack[j]?) (sound : UInt8) (dirty : Bool) :
    Alike m (m.withDead stack sound dirty) := ⟨rfl, rfl, rfl, rfl, rfl, h, rfl, rfl, rfl⟩

namespace Alike

theorem exists_eq (h : Alike m n) :
    ∃ stack sound dirty, n = m.withDead stack sound dirty ∧ ∀ j < m.sp, stack[j]? = m.stack[j]? := by
  obtain ⟨memory, v, i, pc, stack, sp, ⟨cells, dirty, _⟩, ⟨delay, sound⟩, keypad⟩ := n
  obtain ⟨rfl, rfl, rfl, rfl, rfl, hstack, rfl, rfl, rfl⟩ := h
  exact ⟨stack, sound, dirty, rfl, hstack⟩

theorem valid (h : Alike m n) (hm : m.Valid) : n.Valid := by
  unfold Valid
  rw [h.sp]
  exact hm

theorem frame (h : Alike m n) : n.display.frame = m.display.frame := Display.frame_congr h.cells

theorem withKeypad (h : Alike m n) (keypad : Keypad) :
    Alike { m with keypad := keypad } { n with keypad := keypad } :=
  { h with keypad := rfl }

theorem tick (h : Alike m n) :
    Alike { m with timers := m.timers.tick } { n with timers := n.timers.tick } :=
  { h with delay := congrArg Timers.countDown h.delay }

theorem getElem?_push (h : ∀ j < m.sp, stack[j]? = m.stack[j]?) (addr : UInt16) :
    ∀ j < m.sp + 1, (stack.setIfInBounds m.sp addr)[j]? = (m.stack.setIfInBounds m.sp addr)[j]? := by
  intro j hj
  rw [Vector.getElem?_setIfInBounds, Vector.getElem?_setIfInBounds]
  rcases Nat.lt_succ_iff_lt_or_eq.mp hj with hlt | rfl
  · rw [h j hlt]
  · rw [if_pos rfl, if_pos rfl]

/-- An instruction that raises no fault reads no dead state into live state: what is popped was in use. -/
theorem after (h : Alike m n) (byte : UInt8) {i : Instruction} (hi : m.fault? i = none) :
    Alike (m.after byte i) (n.after byte i) := by
  obtain ⟨stack, sound, dirty, rfl, hstack⟩ := h.exists_eq
  cases i with
  | ret =>
    have hsp : m.sp ≠ 0 := by
      intro hzero
      simp [fault?, hzero] at hi
    -- what is popped is the highest slot in use
    have htop : stack[m.sp - 1]? = m.stack[m.sp - 1]? := hstack _ (by omega)
    have hbelow : ∀ j < m.sp - 1, stack[j]? = m.stack[j]? := fun j hj => hstack j (by omega)
    exact ⟨rfl, rfl, rfl, congrArg (Option.getD · 0) htop, rfl, hbelow, rfl, rfl, rfl⟩
  | call addr => exact ⟨rfl, rfl, rfl, rfl, rfl, getElem?_push hstack (m.pc + 2), rfl, rfl, rfl⟩
  | draw x y k =>
    let sprite := m.memory.bytes m.i.toNat (spriteHeight k)
    let places := Display.spritePlaces (m.value x).toNat (m.value y).toNat sprite
    obtain ⟨hcells, hflag⟩ :=
      Display.foldl_hit_congr (a := (m.display, false))
        (b := ((m.withDead stack sound dirty).display, false)) rfl rfl places
    have hv : ((m.withDead stack sound dirty).after byte (.draw x y k)).v = (m.after byte (.draw x y k)).v :=
      congrArg (fun on : Bool => m.v.setIfInBounds flag.toNat (if on then 1 else 0)) hflag
    exact ⟨rfl, hv, rfl, rfl, rfl, hstack, hcells, rfl, rfl⟩
  | waitKey x =>
    have hkeypad : (m.withDead stack sound dirty).keypad = m.keypad := rfl
    simp only [Machine.after, hkeypad]
    cases m.keypad.lowest? with
    | some key => exact ⟨rfl, rfl, rfl, rfl, rfl, hstack, rfl, rfl, rfl⟩
    | none => exact h
  | _ => exact ⟨rfl, rfl, rfl, rfl, rfl, hstack, rfl, rfl, rfl⟩

end Alike

end Machine

def CrashFree {α : Type} (r : Except Failure α) : Prop := ∀ k, r ≠ .error (.crash k)

namespace Processor

variable {p q : Processor}

theorem crashFree_step_of_run {n : Nat} (hfree : CrashFree (p.run (n + 1)).2) : CrashFree p.step.2 := by
  intro k hk
  have hs : p.step = (p.step.1, .error (.crash k)) := Prod.ext rfl hk
  rw [run_succ_of_error hs] at hfree
  exact hfree k rfl

theorem run_one_snd (p : Processor) : (p.run 1).2 = p.step.2.map fun _ => () := by
  have hrun := p.run_succ 0
  rw [hrun]
  rfl

/-- The processors differ at most in dead state, the instruction counter included. -/
structure Alike (p q : Processor) : Prop where
  machine : Machine.Alike p.machine q.machine
  random : q.random = p.random

namespace Alike

theorem fetch (h : Alike p q) : q.fetch = p.fetch := by
  simp only [Processor.fetch, Machine.fetch, h.machine.memory, h.machine.pc]

/-- A failure other than the full counter is the failure of both. -/
theorem failure? (h : Alike p q) (hp : ∀ k, p.failure? ≠ some (.crash k))
    (hq : ∀ k, q.failure? ≠ some (.crash k)) : q.failure? = p.failure? := by
  have hfault := Machine.fault?_congr h.machine.sp h.machine.i
  unfold Processor.failure? at hp hq ⊢
  simp only [h.fetch, hfault, h.machine.pc] at hq ⊢
  cases hf : p.fetch with
  | error e => rfl
  | ok word =>
    simp only [hf] at hp hq ⊢
    cases hw : p.machine.fault? (.decode word) with
    | some f => rfl
    | none =>
      -- neither counter is full
      simp only [hw] at hp hq ⊢
      by_cases hroom : p.executed.toNat + 1 < UInt64.size
      · by_cases hroom' : q.executed.toNat + 1 < UInt64.size
        · rw [if_pos hroom, if_pos hroom']
        · rw [if_neg hroom'] at hq
          exact absurd rfl (hq .counterFull)
      · rw [if_neg hroom] at hp
        exact absurd rfl (hp .counterFull)

theorem after (h : Alike p q) {i : Instruction} (hi : p.machine.fault? i = none) :
    Alike (p.after i) (q.after i) := by
  constructor
  case machine =>
    simp only [Processor.after, h.random]
    exact h.machine.after _ hi
  case random => simp only [Processor.after, h.random]

theorem step_cases (h : Alike p q) (hp : p.machine.Valid) (hfree : CrashFree p.step.2)
    (hfree' : CrashFree q.step.2) :
    (∃ e, p.step = (p, .error e) ∧ q.step = (q, .error e)) ∨
      ∃ i, p.step = (p.after i, .ok i) ∧ q.step = (q.after i, .ok i) ∧ Alike (p.after i) (q.after i) := by
  have hq := h.machine.valid hp
  have hsame : q.failure? = p.failure? := by
    refine h.failure? (fun k hk => ?_) (fun k hk => ?_)
    · exact hfree k ((step_snd_eq_error_iff hp).mpr hk)
    · exact hfree' k ((step_snd_eq_error_iff hq).mpr hk)
  rw [step_eq hp, step_eq hq, h.fetch, hsame]
  cases hw : p.fetch with
  | error e => exact .inl ⟨e, rfl, rfl⟩
  | ok word =>
    cases hn : p.failure? with
    | some e => exact .inl ⟨e, rfl, rfl⟩
    | none => exact .inr ⟨.decode word, rfl, rfl, h.after (fault?_of_failure? hw hn)⟩

theorem step (h : Alike p q) (hp : p.machine.Valid) (hfree : CrashFree p.step.2)
    (hfree' : CrashFree q.step.2) : q.step.2 = p.step.2 ∧ Alike p.step.1 q.step.1 := by
  rcases h.step_cases hp hfree hfree' with ⟨e, hs, ht⟩ | ⟨i, hs, ht, hleft⟩
  · rw [hs, ht]
    exact ⟨rfl, h⟩
  · rw [hs, ht]
    exact ⟨rfl, hleft⟩

/-- Runs that do not crash end alike, execute the same instructions and leave processors that are alike. -/
theorem run (n : Nat) (h : Alike p q) (hp : p.machine.Valid) (hfree : CrashFree (p.run n).2)
    (hfree' : CrashFree (q.run n).2) :
    (q.run n).2 = (p.run n).2 ∧ q.trace n = p.trace n ∧ Alike (p.run n).1 (q.run n).1 := by
  induction n generalizing p q with
  | zero => exact ⟨rfl, rfl, h⟩
  | succ n ih =>
    -- if the first step crashed, so would the run
    have hcases := h.step_cases hp (crashFree_step_of_run hfree) (crashFree_step_of_run hfree')
    rcases hcases with ⟨e, hs, ht⟩ | ⟨i, hs, ht, hnext⟩
    · rw [run_succ_of_error hs, run_succ_of_error ht, trace_succ_of_error hs, trace_succ_of_error ht]
      exact ⟨rfl, rfl, h⟩
    · rw [run_succ_of_ok hs] at hfree
      rw [run_succ_of_ok ht] at hfree'
      obtain ⟨hresult, htrace, hleft⟩ := ih hnext (valid_of_step hp hs) hfree hfree'
      rw [run_succ_of_ok hs, run_succ_of_ok ht, trace_succ_of_ok hs, trace_succ_of_ok ht, htrace]
      exact ⟨hresult, rfl, hleft⟩

end Alike

end Processor

/-- Commands that run the program, tick the timers or handle keys. -/
def Command.runs : Command → Bool
  | .step | .stepFrame | .tick | .setKeys _ | .press _ | .release _ => true
  | .mount _ _ | .unmount _ | .reset | .takeUpdate | .save | .restore _ => false

namespace Console

/-- Both consoles have something mounted and frames of the same size, and they differ at most in dead state, the
instruction counter included. -/
structure Alike (c d : Console) : Prop where
  processor : Processor.Alike c.processor d.processor
  frameSize : d.settings.instructionsPerFrame = c.settings.instructionsPerFrame
  mounted : c.program.isSome
  mounted' : d.program.isSome

/-- No command finds the instruction counter full, or crashes for another reason. -/
def Unbroken (c : Console) (commands : List Command) : Prop :=
  ∀ k, .failed (.crash k) ∉ (c.play commands).2

variable {c d : Console} {cmd : Command} {commands rest : List Command}

theorem unbroken_cons :
    c.Unbroken (cmd :: rest) ↔
      (∀ k, (c.perform cmd).2 ≠ .failed (.crash k)) ∧ (c.perform cmd).1.Unbroken rest := by
  unfold Unbroken
  simp only [play_cons, List.mem_cons, not_or, forall_and, ne_eq, eq_comm]

theorem crashFree_run (hm : c.program.isSome) (hfree : CrashFree c.stepFrame.2) :
    CrashFree (c.processor.run c.settings.instructionsPerFrame.toNat).2 := by
  intro k hk
  rw [stepFrame_of_mounted hm] at hfree
  dsimp only at hfree
  rw [hk] at hfree
  exact hfree k rfl

theorem crashFree_of_perform (hm : c.program.isSome) (hfree : ∀ k, (c.perform cmd).2 ≠ .failed (.crash k)) :
    CrashFree (c.processor.run (c.budget cmd)).2 := by
  cases cmd with
  | step =>
    intro k hk
    refine hfree k ?_
    rw [budget, Processor.run_one_snd] at hk
    rw [perform, answering, step_of_mounted hm]
    cases hs : c.processor.step.2 with
    | ok i =>
      rw [hs] at hk
      cases hk
    | error e =>
      rw [hs] at hk
      cases hk
      rfl
  | stepFrame => exact crashFree_run hm fun k hk => hfree k (congrArg Answer.ofFrame hk)
  | _ =>
    intro k hk
    cases hk

/-- A command that runs touches the processor alone, and counts no more instructions than it may execute. -/
theorem exists_perform_runs (hc : c.machine.Valid) (hm : c.program.isSome) (hr : cmd.runs) :
    ∃ p, (c.perform cmd).1 = { c with processor := p } ∧
      p.executed.toNat ≤ c.processor.executed.toNat + c.budget cmd := by
  have hran (n : Nat) : (c.processor.run n).1.executed.toNat ≤ c.processor.executed.toNat + n := by
    rw [Processor.toNat_executed_run n hc]
    exact Nat.add_le_add_left (Processor.length_trace_le c.processor n) _
  cases cmd with
  | step => exact ⟨_, step_fst hm, hran 1⟩
  | stepFrame =>
    obtain ⟨timers, hleft⟩ := exists_stepFrame_eq hm
    exact ⟨_, hleft, hran c.settings.instructionsPerFrame.toNat⟩
  | tick | setKeys _ | press _ | release _ => exact ⟨_, rfl, Nat.le_refl _⟩
  | mount _ _ | unmount _ | reset | takeUpdate | save | restore _ => cases hr

theorem perform_ne_crash (hc : c.machine.Valid) (hm : c.program.isSome) (hr : cmd.runs)
    (hroom : c.processor.executed.toNat + c.budget cmd < UInt64.size) (k : Crash) :
    (c.perform cmd).2 ≠ .failed (.crash k) := by
  intro hcrash
  cases cmd with
  | step =>
    have hs : c.step.2 = .error (.crash k) := Answer.ofStep_eq_failed hcrash
    rw [step_of_mounted hm, Processor.step_snd_eq_error_iff hc, Processor.failure?_eq_crash_iff hc] at hs
    exact Nat.ne_of_lt hroom hs.2.1
  | stepFrame =>
    have hs : c.stepFrame.2 = .error (.crash k) := Answer.ofFrame_eq_failed hcrash
    exact stepFrame_ne_crash hc hm hroom k hs
  | tick | setKeys _ | press _ | release _ => cases hcrash
  | mount _ _ | unmount _ | reset | takeUpdate | save | restore _ => cases hr

/-- The largest number of instructions that commands execute. -/
def demand (c : Console) : List Command → Nat
  | [] => 0
  | cmd :: rest => c.budget cmd + c.demand rest

theorem demand_congr (h : d.settings = c.settings) (commands : List Command) :
    d.demand commands = c.demand commands := by
  induction commands with
  | nil => rfl
  | cons cmd rest ih =>
    have hbudget : d.budget cmd = c.budget cmd := by cases cmd <;> simp only [budget, h]
    rw [demand, demand, hbudget, ih]

/-- A counter with room for all that the commands may execute is never found full. -/
theorem unbroken_of_room (hc : c.machine.Valid) (hm : c.program.isSome) (hr : ∀ cmd ∈ commands, cmd.runs)
    (hroom : c.processor.executed.toNat + c.demand commands < UInt64.size) :
    c.Unbroken commands := by
  induction commands generalizing c with
  | nil => exact fun k hk => absurd hk List.not_mem_nil
  | cons cmd rest ih =>
    obtain ⟨hcmd, hrest⟩ := List.forall_mem_cons.mp hr
    rw [demand] at hroom
    have hvalid := perform_valid hc cmd
    obtain ⟨p, hleft, hcount⟩ := exists_perform_runs hc hm hcmd
    refine unbroken_cons.mpr ⟨perform_ne_crash hc hm hcmd (by omega), ?_⟩
    rw [hleft] at hvalid ⊢
    have hdemand := demand_congr (c := c) (d := { c with processor := p }) rfl rest
    refine ih hvalid hm hrest ?_
    rw [hdemand]
    dsimp only
    omega

namespace Alike

theorem withProcessor (h : Alike c d) {p q : Processor} (hpq : Processor.Alike p q) :
    Alike { c with processor := p } { d with processor := q } :=
  ⟨hpq, h.frameSize, h.mounted, h.mounted'⟩

theorem withMachine (h : Alike c d) {m n : Machine} (hmn : Machine.Alike m n) :
    Alike (c.withMachine m) (d.withMachine n) :=
  h.withProcessor ⟨hmn, h.processor.random⟩

theorem tick (h : Alike c d) : Alike c.tick d.tick := h.withMachine h.processor.machine.tick

theorem step (h : Alike c d) (hc : c.machine.Valid) (hfree : CrashFree c.step.2)
    (hfree' : CrashFree d.step.2) : d.step.2 = c.step.2 ∧ Alike c.step.1 d.step.1 := by
  rw [step_of_mounted h.mounted] at hfree ⊢
  rw [step_of_mounted h.mounted'] at hfree' ⊢
  obtain ⟨hresult, hleft⟩ := h.processor.step hc hfree hfree'
  exact ⟨hresult, h.withProcessor hleft⟩

theorem stepFrame (h : Alike c d) (hc : c.machine.Valid) (hfree : CrashFree c.stepFrame.2)
    (hfree' : CrashFree d.stepFrame.2) :
    d.stepFrame.2 = c.stepFrame.2 ∧ Alike c.stepFrame.1 d.stepFrame.1 := by
  have hrun := crashFree_run h.mounted hfree
  have hrun' := crashFree_run h.mounted' hfree'
  rw [h.frameSize] at hrun'
  obtain ⟨hresult, -, hleft⟩ := h.processor.run _ hc hrun hrun'
  have hleft := h.withProcessor hleft
  rw [stepFrame_of_mounted h.mounted, stepFrame_of_mounted h.mounted', h.frameSize]
  dsimp only
  rw [hresult]
  cases (c.processor.run c.settings.instructionsPerFrame.toNat).2 with
  | error e => exact ⟨rfl, hleft⟩
  | ok _ =>
    have hpicture := hleft.tick.processor.machine.frame
    exact ⟨congrArg Except.ok hpicture, hleft.tick⟩

theorem trace (h : Alike c d) (hc : c.machine.Valid)
    (hfree : ∀ k, (c.perform cmd).2 ≠ .failed (.crash k))
    (hfree' : ∀ k, (d.perform cmd).2 ≠ .failed (.crash k)) : d.trace cmd = c.trace cmd := by
  have hbudget : d.budget cmd = c.budget cmd := by cases cmd <;> simp only [budget, h.frameSize]
  have hrun := crashFree_of_perform h.mounted hfree
  have hrun' := crashFree_of_perform h.mounted' hfree'
  rw [hbudget] at hrun'
  rw [trace_of_mounted h.mounted, trace_of_mounted h.mounted', hbudget]
  exact (h.processor.run _ hc hrun hrun').2.1

theorem perform (h : Alike c d) (hc : c.machine.Valid) (hr : cmd.runs)
    (hfree : ∀ k, (c.perform cmd).2 ≠ .failed (.crash k))
    (hfree' : ∀ k, (d.perform cmd).2 ≠ .failed (.crash k)) :
    (d.perform cmd).2 = (c.perform cmd).2 ∧ Alike (c.perform cmd).1 (d.perform cmd).1 := by
  have hkeys (f : Keypad → Keypad) :
      Alike (c.withKeypad (f c.machine.keypad)) (d.withKeypad (f d.machine.keypad)) := by
    have hkeypad : d.machine.keypad = c.machine.keypad := h.processor.machine.keypad
    rw [hkeypad]
    exact h.withMachine (h.processor.machine.withKeypad _)
  cases cmd with
  | step =>
    have hstep : CrashFree c.step.2 := fun k hk => hfree k (congrArg Answer.ofStep hk)
    have hstep' : CrashFree d.step.2 := fun k hk => hfree' k (congrArg Answer.ofStep hk)
    obtain ⟨hresult, hleft⟩ := h.step hc hstep hstep'
    exact ⟨congrArg Answer.ofStep hresult, hleft⟩
  | stepFrame =>
    have hframe : CrashFree c.stepFrame.2 := fun k hk => hfree k (congrArg Answer.ofFrame hk)
    have hframe' : CrashFree d.stepFrame.2 := fun k hk => hfree' k (congrArg Answer.ofFrame hk)
    obtain ⟨hresult, hleft⟩ := h.stepFrame hc hframe hframe'
    exact ⟨congrArg Answer.ofFrame hresult, hleft⟩
  | tick => exact ⟨rfl, h.tick⟩
  | setKeys mask => exact ⟨rfl, hkeys fun _ => ⟨mask⟩⟩
  | press key => exact ⟨rfl, hkeys (·.press key)⟩
  | release key => exact ⟨rfl, hkeys (·.release key)⟩
  | mount _ _ | unmount _ | reset | takeUpdate | save | restore _ => cases hr

end Alike

/-- Consoles that differ at most in dead state answer all commands alike, errors with their context and pictures
included, execute the same instructions, and still differ at most in dead state. Only a full counter, which is dead
state too, could be told: neither console comes to one. -/
theorem dead_state_is_dead (h : Alike c d) (hc : c.machine.Valid) (hr : ∀ cmd ∈ commands, cmd.runs)
    (hu : c.Unbroken commands) (hu' : d.Unbroken commands) :
    (d.play commands).2 = (c.play commands).2 ∧ d.trail commands = c.trail commands ∧
      Alike (c.play commands).1 (d.play commands).1 := by
  induction commands generalizing c d with
  | nil => exact ⟨rfl, rfl, h⟩
  | cons cmd rest ih =>
    obtain ⟨hcmd, hrest⟩ := List.forall_mem_cons.mp hr
    obtain ⟨hfirst, hlater⟩ := unbroken_cons.mp hu
    obtain ⟨hfirst', hlater'⟩ := unbroken_cons.mp hu'
    obtain ⟨hanswer, hnext⟩ := h.perform hc hcmd hfirst hfirst'
    have htrace := h.trace hc hfirst hfirst'
    obtain ⟨hanswers, htrail, hleft⟩ := ih hnext (perform_valid hc cmd) hrest hlater hlater'
    rw [play_cons, play_cons, trail, trail, hanswer, hanswers, htrace, htrail]
    exact ⟨rfl, rfl, hleft⟩

/-- A program that calls, draws and returns, and then returns once too often. -/
def returningTwice : Console :=
  ((powerOn ⟨3, some 0⟩ (.ofSeed 0)).play
    [.mount programSlot [0x22, 0x04, 0x00, 0xEE, 0xD0, 0x05, 0x00, 0xEE]]).1

/-- A console with other dead state and another counter. -/
def littered (c : Console) : Console where
  processor := { c.processor with
    machine := c.machine.withDead (.replicate stackSize 0x0666) 9 false
    executed := 1000 }
  settings := c.settings
  program := c.program

theorem alike_littered (hm : c.program.isSome) (hsp : c.machine.sp = 0) : Alike c c.littered := by
  have hstack : ∀ j < c.machine.sp,
      (Vector.replicate stackSize (0x0666 : UInt16))[j]? = c.machine.stack[j]? := by
    intro j hj
    rw [hsp] at hj
    exact absurd hj (Nat.not_lt_zero j)
  exact ⟨⟨Machine.alike_withDead hstack 9 false, rfl⟩, rfl, hm, hm⟩

theorem littered_runs_alike :
    let c := returningTwice
    let commands : List Command := [.press 3, .step, .tick, .stepFrame, .setKeys 0, .step]
    c.littered ≠ c ∧ (c.littered.play commands).2 = (c.play commands).2 ∧
      c.littered.trail commands = c.trail commands ∧
      Alike (c.play commands).1 (c.littered.play commands).1 := by
  intro c commands
  have hvalid : c.machine.Valid := (reachable_play _ _ _).valid
  have hmounted : c.program.isSome := by decide +kernel
  have hruns : ∀ cmd ∈ commands, cmd.runs := by decide
  have halike : Alike c c.littered := alike_littered hmounted (by decide +kernel)
  have hroom : c.processor.executed.toNat + c.demand commands < UInt64.size := by decide +kernel
  have hroom' : c.littered.processor.executed.toNat + c.littered.demand commands < UInt64.size := by
    decide +kernel
  have hu := unbroken_of_room hvalid hmounted hruns hroom
  have hu' := unbroken_of_room (halike.processor.machine.valid hvalid) halike.mounted' hruns hroom'
  have hdiffers : c.littered ≠ c := by
    intro heq
    have hcount : c.processor.executed ≠ 1000 := by decide +kernel
    exact hcount (congrArg (fun d : Console => d.processor.executed) heq).symm
  exact ⟨hdiffers, dead_state_is_dead halike hvalid hruns hu hu'⟩

end Console

end Chip8
