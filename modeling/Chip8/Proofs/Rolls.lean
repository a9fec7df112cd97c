import Chip8.Proofs.ProgramCounter

namespace Chip8

namespace Random

def ahead (r : Random) (n : Nat) : Random := { r with taken := r.taken + n }

theorem ahead_advance (r : Random) (n : Nat) : r.advance.ahead n = r.ahead (n + 1) := by
  have hplace : r.taken + 1 + n = r.taken + (n + 1) := by omega
  simp only [ahead, advance, hplace]

end Random

/-- An instruction that was executed, with the processor before it and after it. -/
structure Move where
  before : Processor
  instruction : Instruction
  after : Processor

namespace Move

def draws (m : Move) : Bool := m.instruction.draws

structure Made (m : Move) : Prop where
  valid : m.before.machine.Valid
  step : m.before.step = (m.after, .ok m.instruction)

variable {m : Move}

theorem Made.random (h : m.Made) :
    m.after.random = if m.draws then m.before.random.advance else m.before.random := by
  obtain ⟨-, hafter, -⟩ := (Processor.step_eq_ok_iff h.valid).mp h.step
  rw [hafter]
  rfl

/-- What a roll does: the register gets the next byte of the stream, masked, and the program goes on. -/
theorem Made.roll (h : m.Made) (hd : m.draws = true) :
    ∃ x kk, m.instruction = .random x kk ∧
      m.after.machine.v[x.toNat]? = some (m.before.random.offer &&& kk) ∧
      m.after.machine.pc.toNat = m.before.machine.pc.toNat + 2 := by
  obtain ⟨-, hafter, word, hw, hi⟩ := (Processor.step_eq_ok_iff h.valid).mp h.step
  have hfits : m.instruction.Fits := hi ▸ Instruction.decode_fits word
  have hpc := Processor.pc_lt_of_fetch hw
  unfold draws at hd
  cases hroll : m.instruction with
  | random x kk =>
    rw [hroll] at hfits hafter
    have hx : x.toNat < registerCount := hfits
    refine ⟨x, kk, rfl, ?_, ?_⟩
    · rw [hafter]
      exact Vector.getElem?_setIfInBounds_self_of_lt hx
    · rw [hafter]
      exact Machine.toNat_past hpc
  | _ =>
    rw [hroll] at hd
    cases hd

end Move

/-- Moves in a row bring the random source from one state to another: each finds it as the one before left it,
and takes a byte exactly if it is a roll. -/
inductive Leads : Random → List Move → Random → Prop where
  | nil (r : Random) : Leads r [] r
  | cons (m : Move) {rest : List Move} {s : Random} (made : m.Made) (later : Leads m.after.random rest s) :
    Leads m.before.random (m :: rest) s

namespace Leads

variable {r s t : Random} {first second moves : List Move}

theorem append (h : Leads r first s) (h' : Leads s second t) : Leads r (first ++ second) t := by
  induction h with
  | nil r => exact h'
  | cons m made later ih => exact .cons m made (ih h')

theorem made (h : Leads r moves s) : ∀ m ∈ moves, m.Made := by
  induction h with
  | nil r =>
    intro m hm
    cases hm
  | cons m made later ih =>
    intro m' hm
    rcases List.mem_cons.mp hm with rfl | hm
    · exact made
    · exact ih m' hm

theorem eq_ahead (h : Leads r moves s) : s = r.ahead (moves.filter Move.draws).length := by
  induction h with
  | nil r => rfl
  | cons m made later ih =>
    have hrandom := made.random
    rw [ih]
    cases hd : m.draws with
    | true =>
      rw [hd, if_pos rfl] at hrandom
      rw [List.filter_cons_of_pos hd, List.length_cons, hrandom, Random.ahead_advance]
    | false =>
      have hd' : ¬ m.draws = true := by simp [hd]
      rw [if_neg hd'] at hrandom
      rw [List.filter_cons_of_neg hd', hrandom]

theorem before_eq (h : Leads r moves s) {n : Nat} {m : Move} (hm : (moves.filter Move.draws)[n]? = some m) :
    m.before.random = r.ahead n := by
  induction h generalizing n with
  | nil r => cases hm
  | cons m' made later ih =>
    have hrandom := made.random
    cases hd : m'.draws with
    | true =>
      -- the first roll is this one, and to those after it one byte more is gone
      rw [hd, if_pos rfl] at hrandom
      rw [List.filter_cons_of_pos hd] at hm
      cases n with
      | zero =>
        cases hm
        rfl
      | succ n =>
        rw [List.getElem?_cons_succ] at hm
        rw [ih hm, hrandom, Random.ahead_advance]
    | false =>
      have hd' : ¬ m'.draws = true := by simp [hd]
      rw [if_neg hd'] at hrandom
      rw [List.filter_cons_of_neg hd'] at hm
      rw [ih hm, hrandom]

end Leads

namespace Processor

/-- What up to `n` steps execute, the first failure being the end. -/
def moves : Nat → Processor → List Move
  | 0, _ => []
  | n + 1, p =>
    match p.step with
    | (q, .ok i) => ⟨p, i, q⟩ :: moves n q
    | (_, .error _) => []

variable {p : Processor}

theorem map_moves (p : Processor) (n : Nat) : (p.moves n).map Move.instruction = p.trace n := by
  fun_induction moves n p with
  | case1 p => rfl
  | case2 n p q i hs ih => rw [List.map_cons, ih, trace_succ_of_ok hs]
  | case3 n p q e hs => rw [trace_succ_of_error hs, List.map_nil]

theorem leads_moves (n : Nat) (hp : p.machine.Valid) : Leads p.random (p.moves n) (p.run n).1.random := by
  fun_induction moves n p with
  | case1 p => exact .nil p.random
  | case2 n p q i hs ih =>
    rw [run_succ_of_ok hs]
    exact .cons ⟨p, i, q⟩ ⟨hp, hs⟩ (ih (valid_of_step hp hs))
  | case3 n p q e hs =>
    -- a step that fails takes nothing from the source
    obtain ⟨rfl, -⟩ := (step_eq_error_iff hp).mp hs
    rw [run_succ_of_error hs]
    exact .nil q.random

end Processor

namespace Console

def moves (c : Console) (cmd : Command) : List Move :=
  if c.program.isSome then c.processor.moves (c.budget cmd) else []

/-- What commands execute one after the other. -/
def history (c : Console) : List Command → List Move
  | [] => []
  | cmd :: rest => c.moves cmd ++ (c.perform cmd).1.history rest

variable {c d : Console}

theorem map_history (c : Console) (commands : List Command) :
    (c.history commands).map Move.instruction = c.trail commands := by
  induction commands generalizing c with
  | nil => rfl
  | cons cmd rest ih =>
    have hfirst : (c.moves cmd).map Move.instruction = c.trace cmd := by
      unfold moves trace
      split
      · exact Processor.map_moves _ _
      · rfl
    rw [history, trail, List.map_append, hfirst, ih]

theorem random_reload (h : c.reload = .ok d) : d.processor.random = c.processor.random := by
  unfold reload at h
  split at h
  · obtain ⟨m, -, hd⟩ := Outcome.bind_eq_ok_iff.mp h
    cases hd
    rfl
  · cases h
    rfl

theorem random_reset (c : Console) : c.reset.processor.random = c.processor.random := by
  unfold reset
  split
  next h =>
    have hreload := random_reload h
    exact hreload
  next => rfl

theorem random_mount (c : Console) (id : String) (program : List UInt8) :
    (c.mount id program).1.processor.random = c.processor.random := by
  unfold mount
  split
  · rfl
  · split
    · rfl
    · dsimp only
      split
      next h =>
        have hreload := random_reload h
        exact hreload
      next => rfl

theorem random_unmount (c : Console) (id : String) :
    (c.unmount id).1.processor.random = c.processor.random := by
  unfold unmount
  split <;> rfl

theorem random_restore (c : Console) (save : Json) :
    (c.restore save).1.processor.random = c.processor.random := by
  unfold restore
  split <;> rfl

theorem leads_step (hc : c.machine.Valid) :
    Leads c.processor.random (c.moves .step) c.step.1.processor.random := by
  cases hp : c.program with
  | none =>
    simp only [moves, step, hp]
    exact .nil c.processor.random
  | some program =>
    have hm : c.program.isSome := Option.isSome_of_eq_some hp
    rw [moves, if_pos hm, step_fst hm]
    exact Processor.leads_moves 1 hc

theorem leads_stepFrame (hc : c.machine.Valid) :
    Leads c.processor.random (c.moves .stepFrame) c.stepFrame.1.processor.random := by
  cases hp : c.program with
  | none =>
    simp only [moves, stepFrame, hp]
    exact .nil c.processor.random
  | some program =>
    have hm : c.program.isSome := Option.isSome_of_eq_some hp
    obtain ⟨timers, hleft⟩ := exists_stepFrame_eq hm
    rw [moves, if_pos hm, hleft]
    exact Processor.leads_moves c.settings.instructionsPerFrame.toNat hc

/-- A command takes bytes from the random source only for the rolls that it executes. -/
theorem leads_perform (hc : c.machine.Valid) (cmd : Command) :
    Leads c.processor.random (c.moves cmd) (c.perform cmd).1.processor.random := by
  have hidle (h : c.budget cmd = 0) : c.moves cmd = [] := by
    unfold moves
    rw [h]
    split <;> rfl
  have hkept (h : c.budget cmd = 0) (hr : (c.perform cmd).1.processor.random = c.processor.random) :
      Leads c.processor.random (c.moves cmd) (c.perform cmd).1.processor.random := by
    rw [hidle h, hr]
    exact .nil c.processor.random
  cases cmd with
  | step => exact leads_step hc
  | stepFrame => exact leads_stepFrame hc
  | mount id program => exact hkept rfl (random_mount c id program)
  | unmount id => exact hkept rfl (random_unmount c id)
  | reset => exact hkept rfl (random_reset c)
  | restore save => exact hkept rfl (random_restore c save)
  | tick | setKeys mask | press key | release key | takeUpdate | save => exact hkept rfl rfl

theorem leads_history (hc : c.machine.Valid) (commands : List Command) :
    Leads c.processor.random (c.history commands) (c.play commands).1.processor.random := by
  induction commands generalizing c with
  | nil => exact .nil c.processor.random
  | cons cmd rest ih =>
    have hfirst := leads_perform hc cmd
    have hrest := ih (perform_valid hc cmd)
    exact hfirst.append hrest

/-- Over any history of a console with a seed, mounts, resets, failures and restored saves included, the place in
the stream of the seed is the number of `Cxkk` executed. So the one with number `n`, counted from zero, finds the
stream at byte `n`, puts that byte, masked, into its register and moves on; every other instruction leaves the
source as it finds it. -/
theorem rolls_follow_stream {settings : MachineSettings} {seed : UInt64} (hseed : settings.seed = some seed)
    (chance : Random) (commands : List Command) :
    let start := powerOn settings chance
    let byte := (Random.Stream.seeded seed).byte
    let rolls := (start.history commands).filter Move.draws
    (start.play commands).1.processor.random = ⟨.seeded seed, rolls.length⟩ ∧
      (∀ n m, rolls[n]? = some m →
        ∃ x kk, m.instruction = .random x kk ∧
          m.before.random = ⟨.seeded seed, n⟩ ∧ m.after.random = ⟨.seeded seed, n + 1⟩ ∧
          m.after.machine.v[x.toNat]? = some (byte n &&& kk) ∧
          m.after.machine.pc.toNat = m.before.machine.pc.toNat + 2) ∧
      (start.history commands).map Move.instruction = start.trail commands ∧
      ∀ m ∈ start.history commands, m.before.step = (m.after, .ok m.instruction) ∧
        (m.instruction.draws = false → m.after.random = m.before.random) := by
  intro start byte rolls
  have hsource : start.processor.random = .ofSeed seed := by
    change source settings chance = _
    rw [source, hseed]
  have hplace (n : Nat) : (Random.ofSeed seed).ahead n = ⟨.seeded seed, n⟩ :=
    congrArg (Random.mk _) (Nat.zero_add n)
  have hleads := leads_history (powerOn_valid settings chance) commands
  change Leads start.processor.random (start.history commands) _ at hleads
  rw [hsource] at hleads
  refine ⟨?_, fun n m hm => ?_, map_history start commands, fun m hm => ?_⟩
  · rw [hleads.eq_ahead, hplace]
  · obtain ⟨hmem, hd⟩ := List.mem_filter.mp (List.mem_of_getElem? hm)
    have hmade := hleads.made m hmem
    have hbefore := hleads.before_eq hm
    have hafter := hmade.random
    obtain ⟨x, kk, hroll, hvalue, hpc⟩ := hmade.roll hd
    rw [hplace] at hbefore
    rw [if_pos hd, hbefore] at hafter
    rw [hbefore] at hvalue
    exact ⟨x, kk, hroll, hbefore, hafter, hvalue, hpc⟩
  · have hmade := hleads.made m hm
    refine ⟨hmade.step, fun hd => ?_⟩
    have hd' : ¬ m.draws = true := by
      unfold Move.draws
      simp [hd]
    rw [hmade.random, if_neg hd']

/-- A program that rolls and then returns from nowhere. -/
def rollingOnce : List UInt8 := [0xC1, 0x0F, 0x00, 0xEE]

theorem rollingOnce_follows_stream :
    let start := powerOn ⟨3, some 7⟩ (.ofSeed 0)
    let commands : List Command :=
      [.mount programSlot rollingOnce, .step, .stepFrame, .reset, .stepFrame, .tick,
        .mount programSlot rollingOnce, .step, .restore start.save]
    let rolls := (start.history commands).filter Move.draws
    start.trail commands = [.random 1 0x0F, .random 1 0x0F, .random 1 0x0F] ∧
      (start.play commands).1.processor.random = ⟨.seeded 7, 3⟩ ∧
      ∃ m, rolls[2]? = some m ∧ m.before.random = ⟨.seeded 7, 2⟩ ∧
        m.after.machine.v[1]? = some ((Random.Stream.seeded 7).byte 2 &&& 0x0F) := by
  intro start commands rolls
  have htrail : start.trail commands = [.random 1 0x0F, .random 1 0x0F, .random 1 0x0F] := by
    decide +kernel
  have hcount : rolls.length = 3 := by decide +kernel
  have hthird : rolls[2]?.map Move.instruction = some (.random 1 0x0F) := by decide +kernel
  -- no step below looks into the commands
  clear_value commands
  have hseed : (⟨3, some 7⟩ : MachineSettings).seed = some 7 := rfl
  obtain ⟨hplace, hrolls, -⟩ := rolls_follow_stream hseed (.ofSeed 0) commands
  obtain ⟨m, hm, hi⟩ := Option.map_eq_some_iff.mp hthird
  obtain ⟨x, kk, hroll, hbefore, -, hvalue, -⟩ := hrolls 2 m hm
  rw [hcount] at hplace
  rw [hi] at hroll
  cases hroll
  exact ⟨htrail, hplace, m, hm, hbefore, hvalue⟩

end Console

end Chip8
