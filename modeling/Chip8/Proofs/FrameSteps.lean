import Chip8.Proofs.Countdown
import Chip8.Proofs.Faults

namespace Chip8

namespace Processor

variable {p : Processor} {k n : Nat} {e : Failure}

def StepsSucceed (p : Processor) (n : Nat) : Prop := ∀ k < n, ∃ i, (p.run k).1.step.2 = .ok i

theorem StepsSucceed.succ {i : Instruction} (h : p.StepsSucceed n) (hs : (p.run n).1.step.2 = .ok i) :
    p.StepsSucceed (n + 1) := by
  intro k hk
  rcases Nat.lt_succ_iff_lt_or_eq.mp hk with hlt | rfl
  · exact h k hlt
  · exact ⟨i, hs⟩

theorem run_succ (p : Processor) (n : Nat) :
    p.run (n + 1) =
      match p.run n with
      | (q, .ok ()) => (q.step.1, q.step.2.map fun _ => ())
      | (q, .error e) => (q, .error e) := by
  induction n generalizing p with
  | zero =>
    cases hs : p.step with
    | mk q result => cases result <;> simp [run, hs]
  | succ n ih =>
    cases hs : p.step with
    | mk q result =>
      cases result with
      | ok i => rw [run_succ_of_ok hs, run_succ_of_ok hs, ih q]
      | error e => rw [run_succ_of_error hs, run_succ_of_error hs]

theorem run_snd_of_succeed (h : p.StepsSucceed n) : (p.run n).2 = .ok () := by
  induction n with
  | zero => rfl
  | succ n ih =>
    have hrun : p.run n = ((p.run n).1, .ok ()) := Prod.ext rfl (ih fun k hk => h k (Nat.lt_succ_of_lt hk))
    obtain ⟨i, hi⟩ := h n (Nat.lt_succ_self n)
    rw [run_succ, hrun]
    dsimp only
    rw [hi]
    rfl

/-- A run stops before the first step that fails. -/
theorem run_of_first_failure (hp : p.machine.Valid) (hk : k < n) (h : p.StepsSucceed k)
    (he : (p.run k).1.step.2 = .error e) : p.run n = ((p.run k).1, .error e) := by
  induction hk with
  | refl =>
    have hrun : p.run k = ((p.run k).1, .ok ()) := Prod.ext rfl (run_snd_of_succeed h)
    have hstep : (p.run k).1.step = ((p.run k).1.step.1, .error e) := Prod.ext rfl he
    have hkept := ((step_eq_error_iff (valid_run k hp)).mp hstep).1
    rw [run_succ, hrun]
    dsimp only
    rw [he, hkept]
    rfl
  | step _ ih => rw [run_succ, ih]

theorem succeed_or_first_failure (p : Processor) (n : Nat) :
    p.StepsSucceed n ∨ ∃ k < n, p.StepsSucceed k ∧ ∃ e, (p.run k).1.step.2 = .error e := by
  induction n with
  | zero => exact .inl fun k hk => absurd hk (Nat.not_lt_zero k)
  | succ n ih =>
    rcases ih with hall | ⟨k, hk, hbefore, hfails⟩
    · cases hs : (p.run n).1.step.2 with
      | ok i => exact .inl (hall.succ hs)
      | error e => exact .inr ⟨n, Nat.lt_succ_self n, hall, e, hs⟩
    · exact .inr ⟨k, Nat.lt_succ_of_lt hk, hbefore, hfails⟩

theorem toNat_executed_of_succeed (hp : p.machine.Valid) (h : p.StepsSucceed n) :
    (p.run n).1.executed.toNat = p.executed.toNat + n := by
  induction n with
  | zero => rfl
  | succ n ih =>
    have hbefore := ih fun k hk => h k (Nat.lt_succ_of_lt hk)
    obtain ⟨i, hi⟩ := h n (Nat.lt_succ_self n)
    have hstep : (p.run n).1.step = ((p.run n).1.step.1, .ok i) := Prod.ext rfl hi
    have hcount := toNat_executed_of_ok (valid_run n hp) hstep
    rw [run_succ_fst n hp, hcount, hbefore]
    exact Nat.add_assoc _ n 1

end Processor

namespace Console

variable {c : Console} {k : Nat} {e : Failure}

/-- The console after `k` single steps. -/
def stepped (c : Console) (k : Nat) : Console := (c.play (List.replicate k .step)).1

theorem stepped_eq (hc : c.machine.Valid) (hm : c.program.isSome) (k : Nat) :
    c.stepped k = { c with processor := (c.processor.run k).1 } := by
  induction k with
  | zero => rfl
  | succ k ih =>
    have hnext : c.stepped (k + 1) = (c.stepped k).step.1 := by
      unfold stepped
      rw [List.replicate_succ', play_concat]
      rfl
    have hm' : (c.stepped k).program.isSome := by
      rw [ih]
      exact hm
    rw [hnext, step_of_mounted hm', ih, Processor.run_succ_fst k hc]

theorem step_snd_stepped (hc : c.machine.Valid) (hm : c.program.isSome) (k : Nat) :
    (c.stepped k).step.2 = (c.processor.run k).1.step.2 := by
  have hm' : (c.stepped k).program.isSome := by
    rw [stepped_eq hc hm]
    exact hm
  rw [step_of_mounted hm', stepped_eq hc hm]

theorem stepsSucceed_iff (hc : c.machine.Valid) (hm : c.program.isSome) :
    c.processor.StepsSucceed k ↔ ∀ j < k, ∃ i, (c.stepped j).step.2 = .ok i := by
  unfold Processor.StepsSucceed
  simp only [step_snd_stepped hc hm]

theorem stepFrame_of_succeed (hc : c.machine.Valid) (hm : c.program.isSome)
    (h : c.processor.StepsSucceed c.settings.instructionsPerFrame.toNat) :
    let left := c.stepped c.settings.instructionsPerFrame.toNat
    c.stepFrame = (left.tick, .ok left.machine.display.frame) := by
  intro left
  have hrun := Processor.run_snd_of_succeed h
  have hleft : left = { c with processor := (c.processor.run _).1 } := stepped_eq hc hm _
  rw [stepFrame_of_mounted hm, hleft]
  dsimp only
  rw [hrun]
  rfl

theorem stepFrame_of_first_failure (hc : c.machine.Valid) (hm : c.program.isSome)
    (hk : k < c.settings.instructionsPerFrame.toNat) (h : c.processor.StepsSucceed k)
    (he : (c.stepped k).step.2 = .error e) : c.stepFrame = (c.stepped k, .error e) := by
  rw [step_snd_stepped hc hm] at he
  rw [stepFrame_of_mounted hm, Processor.run_of_first_failure hc hk h he, stepped_eq hc hm]

theorem toNat_executed_stepped (hc : c.machine.Valid) (hm : c.program.isSome)
    (h : c.processor.StepsSucceed k) :
    (c.stepped k).processor.executed.toNat = c.processor.executed.toNat + k := by
  rw [stepped_eq hc hm]
  exact Processor.toNat_executed_of_succeed hc h

/-- With room in the counter for all of its steps, a frame does not crash. -/
theorem stepFrame_ne_crash (hc : c.machine.Valid) (hm : c.program.isSome)
    (hroom : c.processor.executed.toNat + c.settings.instructionsPerFrame.toNat < UInt64.size) (x : Crash) :
    c.stepFrame.2 ≠ .error (.crash x) := by
  intro hcrash
  rcases c.processor.succeed_or_first_failure c.settings.instructionsPerFrame.toNat with
    hall | ⟨k, hk, hbefore, e, he⟩
  · rw [stepFrame_of_succeed hc hm hall] at hcrash
    cases hcrash
  · rw [← step_snd_stepped hc hm] at he
    rw [stepFrame_of_first_failure hc hm hk hbefore he] at hcrash
    cases hcrash
    have hvalid := Processor.valid_run k hc
    rw [step_snd_stepped hc hm, Processor.step_snd_eq_error_iff hvalid,
      Processor.failure?_eq_crash_iff hvalid] at he
    have hcount := Processor.toNat_executed_of_succeed hc hbefore
    have hfull := he.2.1
    omega

/-- A frame of a valid console with a program in it does what so many single steps do and then one tick. If all
of them succeed, it answers with the picture that they leave. If one fails, the frame fails alike, and leaves the
console as the steps before that one left it, without a tick. Either way the counter has grown by the steps that
succeeded, and no step crashes while there is room for all of them. Without a program, steps and frames fail and
change nothing. -/
theorem stepFrame_refines_steps (hc : c.machine.Valid) :
    let size := c.settings.instructionsPerFrame.toNat
    let executed (d : Console) : Nat := d.processor.executed.toNat
    (c.program.isSome →
      ((∀ k < size, ∃ i, (c.stepped k).step.2 = .ok i) →
        c.stepFrame = ((c.stepped size).tick, .ok (c.stepped size).machine.display.frame) ∧
          executed c.stepFrame.1 = executed c + size) ∧
      (∀ k < size, ∀ e, (∀ j < k, ∃ i, (c.stepped j).step.2 = .ok i) → (c.stepped k).step.2 = .error e →
        c.stepFrame = (c.stepped k, .error e) ∧ executed c.stepFrame.1 = executed c + k) ∧
      (executed c + size < UInt64.size → ∀ x, c.stepFrame.2 ≠ .error (.crash x))) ∧
    ∀ d : Console, d.program = none →
      d.step = (d, .error .noProgram) ∧ d.stepFrame = (d, .error .noProgram) := by
  intro size executed
  refine ⟨fun hm => ⟨fun hall => ?_, fun k hk e hbefore he => ?_, fun hroom => ?_⟩, fun d hnone => ?_⟩
  · rw [← stepsSucceed_iff hc hm] at hall
    have hframe := stepFrame_of_succeed hc hm hall
    have hcount := toNat_executed_stepped hc hm hall
    refine ⟨hframe, ?_⟩
    rw [hframe]
    exact hcount
  · rw [← stepsSucceed_iff hc hm] at hbefore
    have hframe := stepFrame_of_first_failure hc hm hk hbefore he
    have hcount := toNat_executed_stepped hc hm hbefore
    refine ⟨hframe, ?_⟩
    rw [hframe]
    exact hcount
  · exact stepFrame_ne_crash hc hm hroom
  · simp only [step, stepFrame, hnone, and_self]

/-- Frames of three instructions: the first sets the delay timer to five, and in the middle of the second the
program returns with nothing on the stack. -/
def stumbling : Console :=
  ((powerOn ⟨3, some 0⟩ (.ofSeed 0)).play
    [.mount programSlot [0x60, 0x05, 0xF0, 0x15, 0x61, 0x01, 0x62, 0x02, 0x00, 0xEE]]).1

theorem stumbling_refines_steps :
    let next := stumbling.stepFrame.1
    next = (stumbling.stepped 3).tick ∧ next.processor.executed = 3 ∧
      next.stepFrame = (next.stepped 1, .error (.fault 0x208 0x00EE .stackUnderflow)) ∧
      next.stepFrame.1.processor.executed.toNat = 3 + 1 ∧
      next.stepFrame.1.machine.timers.delay = 4 := by
  intro next
  have hvalid : stumbling.machine.Valid := (reachable_play _ _ _).valid
  have hmounted : stumbling.program.isSome := by decide +kernel
  have hok : ∀ k < 3, (stumbling.stepped k).step.2.toOption.isSome := by decide +kernel
  have hall : ∀ k < 3, ∃ i, (stumbling.stepped k).step.2 = .ok i := by
    intro k hk
    obtain ⟨i, hi⟩ := Option.isSome_iff_exists.mp (hok k hk)
    exact ⟨i, Outcome.eq_ok_of_toOption hi⟩
  have hsize : stumbling.settings.instructionsPerFrame.toNat = 3 := by decide +kernel
  obtain ⟨hgood, -⟩ := (stepFrame_refines_steps hvalid).1 hmounted
  rw [hsize] at hgood
  obtain ⟨hframe, -⟩ := hgood hall
  have hnext : next = (stumbling.stepped 3).tick := by
    unfold next
    rw [hframe]
  have hvalid' : next.machine.Valid := stepFrame_valid hvalid
  have hmounted' : next.program.isSome := by decide +kernel
  have hcount : next.processor.executed = 3 := by decide +kernel
  have hfirst : (next.stepped 0).step.2.toOption.isSome := by decide +kernel
  have hfails : (next.stepped 1).step.2 = .error (.fault 0x208 0x00EE .stackUnderflow) := by
    rw [step_snd_stepped hvalid' hmounted', Processor.step_snd_eq_error_iff (Processor.valid_run 1 hvalid')]
    decide +kernel
  have hbefore : ∀ j < 1, ∃ i, (next.stepped j).step.2 = .ok i := by
    intro j hj
    obtain ⟨i, hi⟩ := Option.isSome_iff_exists.mp hfirst
    rw [Nat.lt_one_iff.mp hj]
    exact ⟨i, Outcome.eq_ok_of_toOption hi⟩
  have hsize' : next.settings.instructionsPerFrame.toNat = 3 := by decide +kernel
  obtain ⟨-, hbad, -⟩ := (stepFrame_refines_steps hvalid').1 hmounted'
  rw [hsize'] at hbad
  obtain ⟨hstop, hgrown⟩ := hbad 1 (by decide) _ hbefore hfails
  have hdelay : next.stepFrame.1.machine.timers.delay = 4 := by decide +kernel
  dsimp only at hgrown
  rw [hcount] at hgrown
  exact ⟨hnext, hcount, hstop, hgrown, hdelay⟩

end Console

end Chip8
