import Chip8.Proofs.Validity
import Mathlib.Logic.Function.Iterate

namespace Chip8

/-- Commands that run the program or handle keys, timers and display, and leave program, power and saves
alone. -/
def Command.ordinary : Command → Bool
  | .step | .stepFrame | .tick | .setKeys _ | .press _ | .release _ | .takeUpdate => true
  | .mount _ _ | .unmount _ | .reset | .save | .restore _ => false

def Command.executes : Command → Bool
  | .step | .stepFrame => true
  | _ => false

def Command.ticks : Command → Bool
  | .tick => true
  | _ => false

/-- The machine with other timers, another keypad and another dirty flag. -/
def Machine.latched (m : Machine) (timers : Timers) (keypad : Keypad) (dirty : Bool) : Machine :=
  { m with timers := timers, keypad := keypad, display := { m.display with dirty := dirty } }

/-- Whether an instruction faults hangs on the stack pointer and the index register alone. -/
theorem Machine.fault?_congr {m n : Machine} (hs : m.sp = n.sp) (hi : m.i = n.i) (i : Instruction) :
    m.fault? i = n.fault? i := by
  cases i <;> simp only [fault?, outside?, hs, hi]

/-- Whether a step fails hangs on the word at the program counter, the stack pointer, the index register and
the instruction counter. -/
theorem Processor.failure?_congr {p q : Processor} (hm : p.machine.memory = q.machine.memory)
    (hpc : p.machine.pc = q.machine.pc) (hs : p.machine.sp = q.machine.sp) (hi : p.machine.i = q.machine.i)
    (he : p.executed = q.executed) : p.failure? = q.failure? := by
  have hf : p.fetch = q.fetch := by simp only [fetch, Machine.fetch, hm, hpc]
  unfold failure?
  rw [hf]
  cases q.fetch with
  | error e => rfl
  | ok word => simp only [Machine.fault?_congr hs hi, hpc, he]

namespace Console

variable {c : Console} {e : Failure}

/-- The console with other timers, another keypad and another dirty flag. -/
def latched (c : Console) (timers : Timers) (keypad : Keypad) (dirty : Bool) : Console :=
  c.withMachine (c.machine.latched timers keypad dirty)

theorem step_of_mounted (hp : c.program.isSome) :
    c.step = ({ c with processor := c.processor.step.1 }, c.processor.step.2) := by
  obtain ⟨program, hs⟩ := Option.isSome_iff_exists.mp hp
  simp only [step, hs]

section Failing

variable (hc : c.machine.Valid) (hp : c.program.isSome) (he : c.processor.failure? = some e)

include hc hp he

theorem step_of_failure? : c.step = (c, .error e) := by
  rw [step_of_mounted hp, (Processor.step_eq_error_iff hc).mpr ⟨rfl, he⟩]

/-- A frame whose first step fails fails with it. -/
theorem stepFrame_of_failure? (hn : 0 < c.settings.instructionsPerFrame.toNat) :
    c.stepFrame = (c, .error e) := by
  obtain ⟨program, hs⟩ := Option.isSome_iff_exists.mp hp
  obtain ⟨n, hn⟩ := Nat.exists_eq_add_of_lt hn
  have hstep := (Processor.step_eq_error_iff hc).mpr ⟨rfl, he⟩
  simp only [stepFrame, hs, hn, Nat.zero_add, Processor.run, hstep]
  rw [← hs]

/-- An ordinary command on a console whose next step fails changes timers by a tick only, keypad and dirty flag
at most, and whatever executes instructions fails as before. -/
theorem perform_latched (timers : Timers) (keypad : Keypad) (dirty : Bool) {cmd : Command}
    (ho : cmd.ordinary) (hn : cmd = .stepFrame → 0 < c.settings.instructionsPerFrame.toNat) :
    (cmd.executes → ((c.latched timers keypad dirty).perform cmd).2 = .failed e) ∧
      ∃ keypad' dirty', ((c.latched timers keypad dirty).perform cmd).1 =
        c.latched (if cmd.ticks then timers.tick else timers) keypad' dirty' := by
  have he' : (c.latched timers keypad dirty).processor.failure? = some e := by
    rw [← he]
    exact Processor.failure?_congr rfl rfl rfl rfl rfl
  cases cmd with
  | step =>
    have hs := step_of_failure? (c := c.latched timers keypad dirty) hc hp he'
    simp only [perform, hs]
    exact ⟨fun _ => rfl, keypad, dirty, rfl⟩
  | stepFrame =>
    have hs := stepFrame_of_failure? (c := c.latched timers keypad dirty) hc hp he' (hn rfl)
    simp only [perform, hs]
    exact ⟨fun _ => rfl, keypad, dirty, rfl⟩
  | tick => exact ⟨nofun, keypad, dirty, rfl⟩
  | setKeys mask => exact ⟨nofun, ⟨mask⟩, dirty, rfl⟩
  | press key => exact ⟨nofun, keypad.press key, dirty, rfl⟩
  | release key => exact ⟨nofun, keypad.release key, dirty, rfl⟩
  | takeUpdate => exact ⟨nofun, keypad, false, rfl⟩
  | mount _ _ | unmount _ | reset | save | restore _ => cases ho

theorem play_latched (commands : List Command) (timers : Timers) (keypad : Keypad) (dirty : Bool)
    (ho : ∀ cmd ∈ commands, cmd.ordinary)
    (hn : .stepFrame ∈ commands → 0 < c.settings.instructionsPerFrame.toNat) :
    (∀ pair ∈ commands.zip ((c.latched timers keypad dirty).play commands).2,
        pair.1.executes → pair.2 = .failed e) ∧
      ∃ keypad' dirty', ((c.latched timers keypad dirty).play commands).1 =
        c.latched (Timers.tick^[commands.countP Command.ticks] timers) keypad' dirty' := by
  induction commands generalizing timers keypad dirty with
  | nil =>
    rw [List.countP_nil, Function.iterate_zero_apply, List.zip_nil_left]
    refine ⟨fun pair hpair => ?_, keypad, dirty, rfl⟩
    exact absurd hpair List.not_mem_nil
  | cons cmd rest ih =>
    have hfirst := perform_latched hc hp he timers keypad dirty (ho cmd List.mem_cons_self)
      (fun h => hn (h ▸ List.mem_cons_self))
    obtain ⟨hanswer, keypad₁, dirty₁, hleft⟩ := hfirst
    have hrest := ih (if cmd.ticks then timers.tick else timers) keypad₁ dirty₁
      (fun d hd => ho d (List.mem_cons_of_mem _ hd)) (fun h => hn (List.mem_cons_of_mem _ h))
    obtain ⟨hanswers, keypad₂, dirty₂, hend⟩ := hrest
    rw [play_cons, hleft]
    refine ⟨?_, keypad₂, dirty₂, ?_⟩
    · intro pair hpair
      rw [List.zip_cons_cons] at hpair
      rcases List.mem_cons.mp hpair with rfl | hpair
      · exact hanswer
      · exact hanswers pair hpair
    · rw [hend, List.countP_cons]
      cases cmd.ticks with
      | false => rfl
      | true => rfl

end Failing

end Console

namespace Processor

/-- A step that fails leaves the processor exactly as it was. On every console with this processor and a
program mounted the step fails alike, and after any ordinary commands, frames of at least one instruction
among them, every step and every frame has failed with the same failure, and nothing has changed but keypad,
dirty flag and, by the ticks alone, the timers. -/
theorem failed_step_leaves_no_trace {p q : Processor} {e : Failure} (hp : p.machine.Valid)
    (h : p.step = (q, .error e)) :
    q = p ∧
      ∀ (settings : MachineSettings) (program : List UInt8) (commands : List Command),
        let c : Console := ⟨q, settings, some program⟩
        let played := c.play commands
        c.step = (c, .error e) ∧
          ((∀ cmd ∈ commands, cmd.ordinary) →
            (.stepFrame ∈ commands → 1 ≤ settings.instructionsPerFrame.toNat) →
            played.2.length = commands.length ∧
              (∀ pair ∈ commands.zip played.2, pair.1.executes → pair.2 = .failed e) ∧
              ∃ keypad dirty, played.1 =
                c.latched (Timers.tick^[commands.countP Command.ticks] c.machine.timers) keypad dirty) := by
  obtain ⟨rfl, he⟩ := (step_eq_error_iff hp).mp h
  refine ⟨rfl, fun settings program commands => ?_⟩
  let c : Console := ⟨q, settings, some program⟩
  have hc : c.machine.Valid := hp
  refine ⟨Console.step_of_failure? hc rfl he, fun ho hn => ?_⟩
  have hplay := Console.play_latched hc rfl he commands c.machine.timers c.machine.keypad
    c.machine.display.dirty ho hn
  exact ⟨Console.length_play c commands, hplay⟩

/-- A processor about to return with nothing on its stack. -/
def aboutToUnderflow : Processor where
  machine := { Machine.powerOn with memory := Machine.powerOn.memory.set 513 0xEE (by decide) }
  random := .ofSeed 0
  executed := 7

theorem underflow_leaves_no_trace :
    let commands : List Command := [.press 3, .step, .tick, .takeUpdate, .stepFrame]
    let c : Console := ⟨aboutToUnderflow, .default, some []⟩
    let underflow : Failure := .fault 0x200 0x00EE .stackUnderflow
    aboutToUnderflow.step = (aboutToUnderflow, .error underflow) ∧
      (∀ pair ∈ commands.zip (c.play commands).2, pair.1.executes → pair.2 = .failed underflow) ∧
      ∃ keypad dirty, (c.play commands).1 = c.latched (Timers.tick^[1] ⟨0, 0⟩) keypad dirty := by
  intro commands c underflow
  have hp : aboutToUnderflow.machine.Valid := Nat.zero_le _
  have hf : aboutToUnderflow.failure? = some underflow := by decide +kernel
  have h := (step_eq_error_iff hp).mpr ⟨rfl, hf⟩
  have hrest := (failed_step_leaves_no_trace hp h).2 .default [] commands
  have hplay := hrest.2 (by decide) (fun _ => by decide)
  obtain ⟨-, hanswers, keypad, dirty, hend⟩ := hplay
  have hcount : commands.countP Command.ticks = 1 := rfl
  rw [hcount] at hend
  exact ⟨h, hanswers, keypad, dirty, hend⟩

end Processor

end Chip8
