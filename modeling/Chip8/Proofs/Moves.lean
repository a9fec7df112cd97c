import Chip8.Proofs.PowerCycle
import Chip8.Proofs.Twins

namespace Chip8

/-- The commands that bring a machine from outside. -/
def Command.restores : Command → Bool
  | .restore _ => true
  | _ => false

/-- The failures of a running program, in contrast to those of a request. -/
def Failure.ofProgram : Failure → Bool
  | .fault _ _ _ | .fetchOutOfBounds _ | .crash _ => true
  | .programTooLarge _ _ | .noProgram | .invalidMountPoint _ => false

theorem Processor.run_one_fst (p : Processor) : (p.run 1).1 = p.step.1 := by
  unfold run run
  split
  next h => rw [h]
  next h => rw [h]

namespace Console

variable {c : Console} {cmd : Command}

theorem trace_of_budget (h : c.budget cmd = 0) : c.trace cmd = c.processor.trace 0 := by
  rw [trace, h]
  split <;> rfl

theorem trace_of_unmounted (h : c.program = none) : c.trace cmd = c.processor.trace 0 := by
  rw [trace, h]
  rfl

/-- What a command leaves that ran `k` steps: timers, keypad and dirty flag may be others. -/
def Ran (c : Console) (cmd : Command) (k : Nat) (p : Processor) : Prop :=
  c.trace cmd = c.processor.trace k ∧
    ∃ timers keypad dirty,
      let left := (c.processor.run k).1
      p = { left with machine := left.machine.latched timers keypad dirty }

theorem ran_run {k : Nat} (h : c.trace cmd = c.processor.trace k) : c.Ran cmd k (c.processor.run k).1 := by
  let m := (c.processor.run k).1.machine
  exact ⟨h, m.timers, m.keypad, m.display.dirty, rfl⟩

theorem ran_latched (h : c.budget cmd = 0) (timers : Timers) (keypad : Keypad) (dirty : Bool) :
    c.Ran cmd 0 (c.latched timers keypad dirty).processor :=
  ⟨trace_of_budget h, timers, keypad, dirty, rfl⟩

theorem step_fst (hm : c.program.isSome) : c.step.1 = { c with processor := (c.processor.run 1).1 } := by
  rw [Processor.run_one_fst, step_of_mounted hm]

theorem exists_ran_step : ∃ k, c.Ran .step k c.step.1.processor := by
  cases hp : c.program with
  | none =>
    have hs : c.step.1 = c := by simp only [step, hp]
    rw [hs]
    exact ⟨0, ran_run (trace_of_unmounted hp)⟩
  | some program =>
    have hmounted : c.program.isSome := Option.isSome_of_eq_some hp
    rw [step_fst hmounted]
    exact ⟨1, ran_run (trace_of_mounted hmounted .step)⟩

theorem exists_ran_stepFrame : ∃ k, c.Ran .stepFrame k c.stepFrame.1.processor := by
  cases hp : c.program with
  | none =>
    have hs : c.stepFrame.1 = c := by simp only [stepFrame, hp]
    rw [hs]
    exact ⟨0, ran_run (trace_of_unmounted hp)⟩
  | some program =>
    have hmounted : c.program.isSome := Option.isSome_of_eq_some hp
    have htrace := trace_of_mounted hmounted .stepFrame
    obtain ⟨timers, hleft⟩ := exists_stepFrame_eq hmounted
    rw [hleft]
    exact ⟨c.settings.instructionsPerFrame.toNat, htrace, timers, _, _, rfl⟩

/-- A command other than restoring leaves a machine fresh from power-on and the counter at zero, or what comes
of running some steps. -/
theorem perform_moves (hc : c.KeepsWhatFits) (hr : cmd.restores = false) :
    (∃ program, (c.perform cmd).1.machine.Fresh program ∧ (c.perform cmd).1.processor.executed = 0) ∨
      ∃ k, c.Ran cmd k (c.perform cmd).1.processor := by
  let m := c.machine
  have hsame (h : c.budget cmd = 0) : ∃ k, c.Ran cmd k c.processor := ⟨0, ran_run (trace_of_budget h)⟩
  cases cmd with
  | mount id q =>
    rcases c.mount_cases id q with ⟨-, h⟩ | ⟨-, h⟩ | ⟨-, -, m, hfresh, h⟩
    · simp only [perform, answering, h]
      exact .inr (hsame rfl)
    · simp only [perform, answering, h]
      exact .inr (hsame rfl)
    · simp only [perform, answering, h]
      exact .inl ⟨some q, hfresh, rfl⟩
  | unmount id =>
    rcases c.unmount_cases id with ⟨-, h⟩ | ⟨-, h⟩
    · simp only [perform, answering, h]
      exact .inr (hsame rfl)
    · simp only [perform, answering, h]
      exact .inr (hsame rfl)
  | reset =>
    obtain ⟨m, h, hfresh⟩ := exists_reset_eq hc
    simp only [perform, h]
    exact .inl ⟨c.program, hfresh, rfl⟩
  | step => exact .inr exists_ran_step
  | stepFrame => exact .inr exists_ran_stepFrame
  | tick => exact .inr ⟨0, ran_latched rfl m.timers.tick m.keypad m.display.dirty⟩
  | setKeys mask => exact .inr ⟨0, ran_latched rfl m.timers ⟨mask⟩ m.display.dirty⟩
  | press key => exact .inr ⟨0, ran_latched rfl m.timers (m.keypad.press key) m.display.dirty⟩
  | release key => exact .inr ⟨0, ran_latched rfl m.timers (m.keypad.release key) m.display.dirty⟩
  | takeUpdate => exact .inr ⟨0, ran_latched rfl m.timers m.keypad false⟩
  | save => exact .inr (hsame rfl)
  | restore save => cases hr

/-- When a command reports a failure of the running program, the next step of what it leaves fails so again. -/
theorem failure?_of_perform (hc : c.machine.Valid) {e : Failure} (he : e.ofProgram = true)
    (h : (c.perform cmd).2 = .failed e) : (c.perform cmd).1.processor.failure? = some e := by
  cases cmd with
  | mount id q =>
    have hm := Answer.ofUnit_eq_failed h
    rcases c.mount_cases id q with ⟨-, heq⟩ | ⟨-, heq⟩ | ⟨-, -, m, -, heq⟩
    · rw [heq] at hm
      cases hm
      cases he
    · rw [heq] at hm
      cases hm
      cases he
    · rw [heq] at hm
      cases hm
  | unmount id =>
    have hu := Answer.ofUnit_eq_failed h
    rcases c.unmount_cases id with ⟨-, heq⟩ | ⟨-, heq⟩
    · rw [heq] at hu
      cases hu
      cases he
    · rw [heq] at hu
      cases hu
  | step =>
    have hs := Answer.ofStep_eq_failed h
    change c.step.1.processor.failure? = some e
    cases hp : c.program with
    | none =>
      simp only [step, hp] at hs
      cases hs
      cases he
    | some program =>
      have hmounted : c.program.isSome := Option.isSome_of_eq_some hp
      rw [step_of_mounted hmounted] at hs ⊢
      have hstep : c.processor.step = (c.processor.step.1, .error e) := Prod.ext rfl hs
      obtain ⟨hleft, hfailure⟩ := (Processor.step_eq_error_iff hc).mp hstep
      rw [hleft]
      exact hfailure
  | stepFrame =>
    have hs := Answer.ofFrame_eq_failed h
    change c.stepFrame.1.processor.failure? = some e
    cases hp : c.program with
    | none =>
      simp only [stepFrame, hp] at hs
      cases hs
      cases he
    | some program =>
      have hmounted : c.program.isSome := Option.isSome_of_eq_some hp
      rw [stepFrame_of_mounted hmounted] at hs ⊢
      dsimp only at hs ⊢
      cases hresult : (c.processor.run c.settings.instructionsPerFrame.toNat).2 with
      | ok _ =>
        rw [hresult] at hs
        cases hs
      | error f =>
        rw [hresult] at hs
        cases hs
        exact (Processor.exists_step_of_run _ hc (Prod.ext rfl hresult)).2
  | restore save => exact absurd h Answer.ofRestore_ne_failed
  | reset | tick | setKeys mask | press key | release key | takeUpdate | save => cases h

end Console

end Chip8
