import Chip8.Proofs.FailedSteps

namespace Chip8

/-- Instructions none of which draws a random byte. -/
def Quiet (instructions : List Instruction) : Prop := ∀ i ∈ instructions, i.draws = false

instance (instructions : List Instruction) : Decidable (Quiet instructions) :=
  inferInstanceAs (Decidable (∀ i ∈ instructions, i.draws = false))

namespace Quiet

variable {i : Instruction} {first second : List Instruction}

@[simp] theorem nil : Quiet [] := List.forall_mem_nil _

@[simp] theorem cons_iff : Quiet (i :: second) ↔ i.draws = false ∧ Quiet second := List.forall_mem_cons

@[simp] theorem append_iff : Quiet (first ++ second) ↔ Quiet first ∧ Quiet second :=
  List.forall_mem_append

end Quiet

namespace Processor

/-- The instructions that up to `n` steps execute, the first failure being the end. -/
def trace : Nat → Processor → List Instruction
  | 0, _ => []
  | n + 1, p =>
    match p.step with
    | (q, .ok i) => i :: trace n q
    | (_, .error _) => []

section Steps

variable {p q : Processor} {i : Instruction} {e : Failure} {n : Nat}

theorem valid_of_step (hp : p.machine.Valid) (h : p.step = (q, .ok i)) : q.machine.Valid := by
  have hq := valid_step hp
  rwa [h] at hq

theorem run_succ_of_ok (h : p.step = (q, .ok i)) : p.run (n + 1) = q.run n := by rw [run, h]

theorem run_succ_of_error (h : p.step = (q, .error e)) : p.run (n + 1) = (q, .error e) := by rw [run, h]

theorem trace_succ_of_ok (h : p.step = (q, .ok i)) : p.trace (n + 1) = i :: q.trace n := by rw [trace, h]

theorem trace_succ_of_error (h : p.step = (q, .error e)) : p.trace (n + 1) = [] := by rw [trace, h]

theorem take_trace (p : Processor) {k n : Nat} (hk : k ≤ n) : (p.trace n).take k = p.trace k := by
  induction n generalizing p k with
  | zero => rw [Nat.le_zero.mp hk, List.take_zero, trace]
  | succ n ih =>
    cases k with
    | zero => rw [List.take_zero, trace]
    | succ k =>
      cases hs : p.step with
      | mk q result =>
        cases result with
        | ok i => rw [trace_succ_of_ok hs, trace_succ_of_ok hs, List.take_succ_cons,
            ih q (Nat.le_of_succ_le_succ hk)]
        | error e => rw [trace_succ_of_error hs, trace_succ_of_error hs, List.take_nil]

theorem length_trace_le (p : Processor) (n : Nat) : (p.trace n).length ≤ n := by
  rw [← p.take_trace (Nat.le_refl n)]
  exact List.length_take_le n _

end Steps

/-- Same machine, same instruction counter and, where they are in sync, the same random source. -/
structure Twin (synced : Prop) (p q : Processor) : Prop where
  machine : q.machine = p.machine
  executed : q.executed = p.executed
  random : synced → q.random = p.random

namespace Twin

variable {synced : Prop} {p q : Processor}

theorem fetch (h : Twin synced p q) : q.fetch = p.fetch := by simp only [Processor.fetch, h.machine]

theorem failure? (h : Twin synced p q) : q.failure? = p.failure? :=
  failure?_congr (congrArg _ h.machine) (congrArg _ h.machine) (congrArg _ h.machine)
    (congrArg _ h.machine) h.executed

theorem valid (h : Twin synced p q) (hp : p.machine.Valid) : q.machine.Valid := h.machine ▸ hp

theorem eq_of_synced (h : Twin synced p q) (hs : synced) : q = p := by
  obtain ⟨hmachine, hexecuted, hrandom⟩ := h
  cases p
  cases q
  cases hmachine
  cases hexecuted
  cases hrandom hs
  rfl

theorem after (h : Twin synced p q) {i : Instruction} (hi : synced ∨ i.draws = false) :
    Twin synced (p.after i) (q.after i) := by
  refine ⟨?_, ?_, fun hs => ?_⟩
  · rcases hi with hs | hi
    · simp only [Processor.after, h.machine, h.random hs]
    · simp [Processor.after, h.machine, hi]
  · simp only [Processor.after, h.executed]
  · simp only [Processor.after, h.random hs]

theorem step_cases (h : Twin synced p q) (hp : p.machine.Valid) :
    (∃ e, p.step = (p, .error e) ∧ q.step = (q, .error e)) ∨
      ∃ i, p.step = (p.after i, .ok i) ∧ q.step = (q.after i, .ok i) := by
  rw [step_eq hp, step_eq (h.valid hp), h.fetch, h.failure?]
  cases p.fetch with
  | error e => exact .inl ⟨e, rfl, rfl⟩
  | ok word =>
    cases p.failure? with
    | some e => exact .inl ⟨e, rfl, rfl⟩
    | none => exact .inr ⟨.decode word, rfl, rfl⟩

/-- Steps of twins end alike and leave twins as long as they are in sync or no step draws. -/
theorem run (n : Nat) (h : Twin synced p q) (hp : p.machine.Valid) (hq : synced ∨ Quiet (p.trace n)) :
    (q.run n).2 = (p.run n).2 ∧ q.trace n = p.trace n ∧ Twin synced (p.run n).1 (q.run n).1 := by
  induction n generalizing p q with
  | zero => exact ⟨rfl, rfl, h⟩
  | succ n ih =>
    rcases h.step_cases hp with ⟨e, hs, ht⟩ | ⟨i, hs, ht⟩
    · rw [run_succ_of_error hs, run_succ_of_error ht, trace_succ_of_error hs, trace_succ_of_error ht]
      exact ⟨rfl, rfl, h⟩
    · rw [trace_succ_of_ok hs, Quiet.cons_iff] at hq
      have hafter := h.after (hq.imp_right And.left)
      obtain ⟨hrun, htrace, hleft⟩ := ih hafter (valid_of_step hp hs) (hq.imp_right And.right)
      rw [run_succ_of_ok hs, run_succ_of_ok ht, trace_succ_of_ok hs, trace_succ_of_ok ht, htrace]
      exact ⟨hrun, rfl, hleft⟩

/-- Twins execute the same instructions up to and including the first one that draws. -/
theorem take_trace (n k : Nat) (h : Twin synced p q) (hp : p.machine.Valid)
    (hq : Quiet ((p.trace n).take k)) : (q.trace n).take (k + 1) = (p.trace n).take (k + 1) := by
  induction n generalizing p q k with
  | zero => rfl
  | succ n ih =>
    rcases h.step_cases hp with ⟨e, hs, ht⟩ | ⟨i, hs, ht⟩
    · rw [trace_succ_of_error hs, trace_succ_of_error ht]
    · rw [trace_succ_of_ok hs] at hq ⊢
      rw [trace_succ_of_ok ht, List.take_succ_cons, List.take_succ_cons]
      cases k with
      | zero => rw [List.take_zero, List.take_zero]
      | succ k =>
        rw [List.take_succ_cons, Quiet.cons_iff] at hq
        rw [ih k (h.after (.inr hq.1)) (valid_of_step hp hs) hq.2]

end Twin

end Processor

namespace Console

/-- The largest number of instructions that a command executes. -/
def budget (c : Console) : Command → Nat
  | .step => 1
  | .stepFrame => c.settings.instructionsPerFrame.toNat
  | _ => 0

/-- The instructions that a command executes. -/
def trace (c : Console) (cmd : Command) : List Instruction :=
  if c.program.isSome then c.processor.trace (c.budget cmd) else []

/-- The instructions that commands execute one after the other. -/
def trail (c : Console) : List Command → List Instruction
  | [] => []
  | cmd :: rest => c.trace cmd ++ (c.perform cmd).1.trail rest

theorem trace_of_mounted {c : Console} (hc : c.program.isSome) (cmd : Command) :
    c.trace cmd = c.processor.trace (c.budget cmd) := if_pos hc

theorem stepFrame_of_mounted {c : Console} (hc : c.program.isSome) :
    c.stepFrame =
      let ran := c.processor.run c.settings.instructionsPerFrame.toNat
      let left := { c with processor := ran.1 }
      match ran.2 with
      | .error e => (left, .error e)
      | .ok () => (left.tick, .ok left.tick.machine.display.frame) := by
  obtain ⟨program, hs⟩ := Option.isSome_iff_exists.mp hc
  simp only [stepFrame, hs]
  cases c.processor.run c.settings.instructionsPerFrame.toNat with
  | mk p result => cases result <;> rfl

/-- A frame leaves what its run leaves, the timers apart. -/
theorem exists_stepFrame_eq {c : Console} (hc : c.program.isSome) :
    ∃ timers,
      let left := (c.processor.run c.settings.instructionsPerFrame.toNat).1
      c.stepFrame.1 =
        { c with processor := { left with machine := { left.machine with timers := timers } } } := by
  rw [stepFrame_of_mounted hc]
  dsimp only
  cases (c.processor.run c.settings.instructionsPerFrame.toNat).2 with
  | error e => exact ⟨_, rfl⟩
  | ok _ => exact ⟨_, rfl⟩

/-- Consoles with something mounted and frames of the same size whose processors are twins. -/
structure Twin (synced : Prop) (c d : Console) : Prop where
  processor : Processor.Twin synced c.processor d.processor
  frameSize : d.settings.instructionsPerFrame = c.settings.instructionsPerFrame
  mounted : c.program.isSome
  mounted' : d.program.isSome

namespace Twin

variable {synced : Prop} {c d : Console}

theorem machine (h : Twin synced c d) : d.machine = c.machine := h.processor.machine

theorem sounding (h : Twin synced c d) : d.sounding = c.sounding := by
  rw [Console.sounding, Console.sounding, h.machine]

theorem budget (h : Twin synced c d) (cmd : Command) : d.budget cmd = c.budget cmd := by
  cases cmd with
  | stepFrame => exact congrArg UInt32.toNat h.frameSize
  | _ => rfl

theorem withProcessor (h : Twin synced c d) {p q : Processor} (hpq : Processor.Twin synced p q) :
    Twin synced { c with processor := p } { d with processor := q } :=
  ⟨hpq, h.frameSize, h.mounted, h.mounted'⟩

theorem withMachine (h : Twin synced c d) (m : Machine) : Twin synced (c.withMachine m) (d.withMachine m) :=
  h.withProcessor ⟨rfl, h.processor.executed, h.processor.random⟩

theorem trace (h : Twin synced c d) (hc : c.machine.Valid) (cmd : Command)
    (hq : synced ∨ Quiet (c.trace cmd)) : d.trace cmd = c.trace cmd := by
  rw [trace_of_mounted h.mounted] at hq
  rw [trace_of_mounted h.mounted, trace_of_mounted h.mounted', h.budget]
  exact (h.processor.run _ hc hq).2.1

theorem setKeys (h : Twin synced c d) (mask : UInt16) : Twin synced (c.setKeys mask) (d.setKeys mask) := by
  simp only [Console.setKeys, withKeypad, h.machine]
  exact h.withMachine _

theorem takeUpdate (h : Twin synced c d) :
    d.takeUpdate.2 = c.takeUpdate.2 ∧ Twin synced c.takeUpdate.1 d.takeUpdate.1 := by
  simp only [Console.takeUpdate, h.machine]
  exact ⟨trivial, h.withMachine _⟩

theorem step (h : Twin synced c d) (hc : c.machine.Valid) (hq : synced ∨ Quiet (c.trace .step)) :
    d.step.2 = c.step.2 ∧ Twin synced c.step.1 d.step.1 := by
  rw [step_of_mounted h.mounted, step_of_mounted h.mounted']
  rcases h.processor.step_cases hc with ⟨e, hs, ht⟩ | ⟨i, hs, ht⟩
  · rw [hs, ht]
    exact ⟨rfl, h⟩
  · have htrace : c.trace .step = [i] := by
      rw [trace_of_mounted h.mounted]
      exact Processor.trace_succ_of_ok hs
    rw [htrace, Quiet.cons_iff] at hq
    rw [hs, ht]
    exact ⟨rfl, h.withProcessor (h.processor.after (hq.imp_right And.left))⟩

theorem stepFrame (h : Twin synced c d) (hc : c.machine.Valid) (hq : synced ∨ Quiet (c.trace .stepFrame)) :
    d.stepFrame.2 = c.stepFrame.2 ∧ Twin synced c.stepFrame.1 d.stepFrame.1 := by
  rw [trace_of_mounted h.mounted] at hq
  obtain ⟨hresult, -, hleft⟩ := h.processor.run c.settings.instructionsPerFrame.toNat hc hq
  have hleft := h.withProcessor hleft
  rw [stepFrame_of_mounted h.mounted, stepFrame_of_mounted h.mounted', h.frameSize]
  dsimp only
  rw [hresult]
  cases (c.processor.run c.settings.instructionsPerFrame.toNat).2 with
  | error e => exact ⟨rfl, hleft⟩
  | ok _ =>
    have hm := hleft.machine
    simp only [tick, hm]
    exact ⟨rfl, hleft.withMachine _⟩

/-- Ordinary commands on twins are answered alike, execute the same instructions and leave twins, as long as
the twins are in sync or nothing that is executed draws. -/
theorem perform (h : Twin synced c d) (hc : c.machine.Valid) {cmd : Command} (ho : cmd.ordinary)
    (hq : synced ∨ Quiet (c.trace cmd)) :
    (d.perform cmd).2 = (c.perform cmd).2 ∧ d.trace cmd = c.trace cmd ∧
      Twin synced (c.perform cmd).1 (d.perform cmd).1 := by
  have htrace := h.trace hc cmd hq
  have hm := h.machine
  cases cmd with
  | step =>
    obtain ⟨hresult, hleft⟩ := h.step hc hq
    exact ⟨congrArg Answer.ofStep hresult, htrace, hleft⟩
  | stepFrame =>
    obtain ⟨hresult, hleft⟩ := h.stepFrame hc hq
    exact ⟨congrArg Answer.ofFrame hresult, htrace, hleft⟩
  | setKeys mask => exact ⟨rfl, htrace, h.setKeys mask⟩
  | tick | press _ | release _ =>
    refine ⟨rfl, htrace, ?_⟩
    simp only [Console.perform, tick, press, release, withKeypad, hm]
    exact h.withMachine _
  | takeUpdate =>
    obtain ⟨htext, hleft⟩ := h.takeUpdate
    exact ⟨congrArg Answer.update htext, htrace, hleft⟩
  | mount _ _ | unmount _ | reset | save | restore _ => cases ho

theorem play (commands : List Command) (h : Twin synced c d) (hc : c.machine.Valid)
    (ho : ∀ cmd ∈ commands, cmd.ordinary) (hq : synced ∨ Quiet (c.trail commands)) :
    (d.play commands).2 = (c.play commands).2 ∧ d.trail commands = c.trail commands ∧
      Twin synced (c.play commands).1 (d.play commands).1 := by
  induction commands generalizing c d with
  | nil => exact ⟨rfl, rfl, h⟩
  | cons cmd rest ih =>
    obtain ⟨hcmd, hrest⟩ := List.forall_mem_cons.mp ho
    rw [trail, Quiet.append_iff] at hq
    obtain ⟨hanswer, htrace, hleft⟩ := h.perform hc hcmd (hq.imp_right And.left)
    obtain ⟨hanswers, htrail, hend⟩ := ih hleft (perform_valid hc cmd) hrest (hq.imp_right And.right)
    rw [play_cons, play_cons, trail, trail, hanswer, hanswers, htrace, htrail]
    exact ⟨rfl, rfl, hend⟩

/-- In the middle of a command too, twins execute the same instructions up to and including the first one that
draws, and are twins after every step until then. -/
theorem take_trace (h : Twin synced c d) (hc : c.machine.Valid) (cmd : Command) (k : Nat)
    (hq : Quiet ((c.trace cmd).take k)) :
    (d.trace cmd).take (k + 1) = (c.trace cmd).take (k + 1) ∧
      (k ≤ (c.trace cmd).length → Processor.Twin synced (c.processor.run k).1 (d.processor.run k).1) := by
  rw [trace_of_mounted h.mounted] at hq ⊢
  rw [trace_of_mounted h.mounted', h.budget]
  refine ⟨h.processor.take_trace _ k hc hq, fun hk => ?_⟩
  rw [Processor.take_trace _ (Nat.le_trans hk (Processor.length_trace_le _ _))] at hq
  exact (h.processor.run k hc (.inr hq)).2.2

theorem save (h : Twin synced c d) : d.save = c.save := by
  rw [Console.save, Console.save, h.machine, h.processor.executed]

end Twin

theorem twin_started (settings : MachineSettings) (chance chance' : Random) (program : List UInt8)
    (m : Machine) :
    Twin settings.seed.isSome (started settings chance program m) (started settings chance' program m) := by
  refine ⟨⟨rfl, rfl, fun hseed => ?_⟩, rfl, rfl, rfl⟩
  obtain ⟨seed, hs⟩ := Option.isSome_iff_exists.mp hseed
  simp only [started, source, hs]

end Console

end Chip8
