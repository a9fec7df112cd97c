import Chip8.Proofs.Execution

namespace Chip8

namespace Machine

/-- The stack pointer moves up by a call, down by a return, and not otherwise. -/
theorem sp_after (m : Machine) (byte : UInt8) (i : Instruction) :
    (m.after byte i).sp =
      match i with
      | .call _ => m.sp + 1
      | .ret => m.sp - 1
      | _ => m.sp := by
  cases i with
  | waitKey x =>
    simp only [after]
    split <;> rfl
  | _ => rfl

/-- An instruction that raises no fault keeps the machine valid. -/
theorem Valid.after {m : Machine} (hm : m.Valid) (byte : UInt8) {i : Instruction}
    (hi : m.fault? i = none) : (m.after byte i).Valid := by
  have hs : m.sp ≤ stackSize := hm
  unfold Valid
  rw [sp_after]
  cases i with
  | call addr =>
    by_cases h : m.sp < stackSize
    · exact h
    · simp [fault?, h] at hi
  | ret => exact Nat.le_trans (Nat.sub_le _ _) hs
  | _ => exact hs

end Machine

namespace Processor

/-- The failure of the next step, if any. -/
def failure? (p : Processor) : Option Failure :=
  match p.fetch with
  | .error e => some e
  | .ok word =>
    match p.machine.fault? (.decode word) with
    | some f => some (.fault p.machine.pc word f)
    | none => if p.executed.toNat + 1 < UInt64.size then none else some (.crash .counterFull)

/-- The processor after an instruction that was executed and counted. -/
def after (p : Processor) (i : Instruction) : Processor where
  machine := p.machine.after (if i.draws then p.random.offer else 0) i
  random := if i.draws then p.random.advance else p.random
  executed := p.executed + 1

variable {p q : Processor}

/-- In place, an instruction on a valid machine faults and changes nothing, or does all its work. -/
theorem execute_eq (hp : p.machine.Valid) {i : Instruction} (hi : i.Fits) :
    p.execute i =
      match p.machine.fault? i with
      | some f => ({ p with random := (p.after i).random }, .error (.fault f))
      | none => ({ p.after i with executed := p.executed }, .ok ()) := by
  simp only [execute, Work.run_execute hp _ hi]
  cases p.machine.fault? i <;> rfl

/-- An instruction that faults does not draw. -/
theorem random_of_fault {i : Instruction} {f : Fault} (h : p.machine.fault? i = some f) :
    (p.after i).random = p.random := by
  cases i with
  | random x kk => cases h
  | _ => rfl

/-- A step fails and changes nothing, or leaves the processor after the instruction at the program counter. -/
theorem step_eq (hp : p.machine.Valid) :
    p.step =
      match p.fetch with
      | .error e => (p, .error e)
      | .ok word =>
        match p.failure? with
        | some e => (p, .error e)
        | none => (p.after (.decode word), .ok (.decode word)) := by
  unfold step failure?
  cases p.fetch with
  | error e => rfl
  | ok word =>
    simp only [execute_eq hp (Instruction.decode_fits word)]
    cases hf : p.machine.fault? (.decode word) with
    | some f => simp only [random_of_fault hf]
    | none =>
      by_cases hc : p.executed.toNat + 1 < UInt64.size
      · simp only [count, hc, if_true]
        rfl
      · simp only [count, hc, if_false]

theorem step_eq_error_iff (hp : p.machine.Valid) {e : Failure} :
    p.step = (q, .error e) ↔ q = p ∧ p.failure? = some e := by
  rw [step_eq hp]
  cases hf : p.fetch with
  | error f => simp [failure?, hf, eq_comm]
  | ok word =>
    cases p.failure? with
    | some f => simp [eq_comm]
    | none => simp

theorem step_eq_ok_iff (hp : p.machine.Valid) {i : Instruction} :
    p.step = (q, .ok i) ↔
      p.failure? = none ∧ q = p.after i ∧ ∃ word, p.fetch = .ok word ∧ i = .decode word := by
  rw [step_eq hp]
  cases hf : p.fetch with
  | error f => simp
  | ok word =>
    cases p.failure? with
    | some f => simp
    | none =>
      constructor
      · intro h
        cases h
        exact ⟨rfl, rfl, word, rfl, rfl⟩
      · rintro ⟨-, rfl, w, hw, rfl⟩
        cases hw
        rfl

/-- An instruction that is executed raises no fault. -/
theorem fault?_of_failure? {word : UInt16} (hw : p.fetch = .ok word) (h : p.failure? = none) :
    p.machine.fault? (.decode word) = none := by
  cases hf : p.machine.fault? (.decode word) with
  | none => rfl
  | some f => simp [failure?, hw, hf] at h

/-- The only crash that a valid machine can come to is the full counter. -/
theorem crash_of_failure? {k : Crash} (h : p.failure? = some (.crash k)) : k = .counterFull := by
  unfold failure? fetch at h
  split at h
  next e he =>
    split at he <;> cases he
    cases h
  next word hw =>
    split at h
    · cases h
    · split at h <;> cases h
      rfl

/-- A step leaves the machine as it is, or as the instruction at the program counter leaves it. -/
theorem machine_step_cases (hp : p.machine.Valid) :
    p.step.1.machine = p.machine ∨
      ∃ word byte, p.fetch = .ok word ∧ p.machine.fault? (.decode word) = none ∧
        p.step.1.machine = p.machine.after byte (.decode word) := by
  cases hs : p.step with
  | mk q result =>
    cases result with
    | error e =>
      obtain ⟨rfl, -⟩ := (step_eq_error_iff hp).mp hs
      exact .inl rfl
    | ok i =>
      obtain ⟨hn, rfl, word, hw, rfl⟩ := (step_eq_ok_iff hp).mp hs
      exact .inr ⟨word, _, hw, fault?_of_failure? hw hn, rfl⟩

/-- Whatever a step does, the machine stays valid. -/
theorem valid_step (hp : p.machine.Valid) : p.step.1.machine.Valid := by
  rcases machine_step_cases hp with h | ⟨word, byte, -, hf, h⟩
  · rw [h]
    exact hp
  · rw [h]
    exact hp.after byte hf

/-- What every step keeps, runs of steps keep. -/
theorem run_keeps {P : Processor → Prop} (hstep : ∀ q : Processor, P q → P q.step.1) (n : Nat) (h : P p) :
    P (p.run n).1 := by
  induction n generalizing p with
  | zero => exact h
  | succ n ih =>
    have hnext := hstep p h
    unfold run
    split
    next q i hs =>
      rw [hs] at hnext
      exact ih hnext
    next q e hs =>
      rw [hs] at hnext
      exact hnext

theorem valid_run (n : Nat) (hp : p.machine.Valid) : (p.run n).1.machine.Valid :=
  run_keeps (P := fun q => q.machine.Valid) (fun _ => valid_step) n hp

/-- A run that fails has a failing step at its end. -/
theorem exists_step_of_run (n : Nat) (hp : p.machine.Valid) {e : Failure}
    (h : p.run n = (q, .error e)) : q.machine.Valid ∧ q.failure? = some e := by
  induction n generalizing p with
  | zero => cases h
  | succ n ih =>
    have hq := valid_step hp
    unfold run at h
    split at h
    next r i hs =>
      rw [hs] at hq
      exact ih hq h
    next r f hs =>
      cases h
      obtain ⟨rfl, hf⟩ := (step_eq_error_iff hp).mp hs
      exact ⟨hp, hf⟩

end Processor

end Chip8
