import Chip8.Proofs.Film
import Chip8.Proofs.Moves

namespace Chip8

/-- One of the two timers. -/
inductive Timer where
  | delay
  | sound
  deriving DecidableEq

namespace Timer

def get (timers : Timers) : Timer → UInt8
  | .delay => timers.delay
  | .sound => timers.sound

/-- What an instruction puts into a timer: `Fx15` and `Fx18` put the value of their register. -/
def put? (m : Machine) : Timer → Instruction → Option UInt8
  | .delay, .setDelay x => some (m.value x)
  | .sound, .setSound x => some (m.value x)
  | _, _ => none

theorem toNat_get_tick (timers : Timers) (t : Timer) : (t.get timers.tick).toNat = (t.get timers).toNat - 1 := by
  cases t with
  | delay => exact Timers.toNat_countDown timers.delay
  | sound => exact Timers.toNat_countDown timers.sound

/-- An instruction leaves in a timer what it puts there, and otherwise what was there. -/
theorem get_after (m : Machine) (byte : UInt8) (i : Instruction) (t : Timer) :
    t.get (m.after byte i).timers = (t.put? m i).getD (t.get m.timers) := by
  cases i with
  | waitKey x =>
    have hkept : (m.after byte (.waitKey x)).timers = m.timers := by
      simp only [Machine.after]
      split <;> rfl
    rw [hkept]
    cases t <;> rfl
  | _ => cases t <;> rfl

end Timer

namespace Processor

variable {p : Processor} {t : Timer}

/-- What the next step puts into a timer, if it executes an instruction that does so. -/
def puts? (t : Timer) (p : Processor) : Option UInt8 :=
  match p.step.2 with
  | .ok i => t.put? p.machine i
  | .error _ => none

theorem timer_step (hp : p.machine.Valid) (t : Timer) :
    t.get p.step.1.machine.timers = (p.puts? t).getD (t.get p.machine.timers) := by
  cases hs : p.step with
  | mk q result =>
    cases result with
    | error e =>
      obtain ⟨rfl, -⟩ := (step_eq_error_iff hp).mp hs
      simp only [puts?, hs, Option.getD_none]
    | ok i =>
      obtain ⟨-, rfl, -⟩ := (step_eq_ok_iff hp).mp hs
      simp only [puts?, hs]
      exact Timer.get_after p.machine _ i t

/-- A run goes one step on. Where it has failed already, that step fails too and changes nothing. -/
theorem run_succ_fst (n : Nat) (hp : p.machine.Valid) : (p.run (n + 1)).1 = (p.run n).1.step.1 := by
  induction n generalizing p with
  | zero => exact p.run_one_fst
  | succ n ih =>
    cases hs : p.step with
    | mk q result =>
      cases result with
      | ok i => rw [run_succ_of_ok hs, run_succ_of_ok hs, ih (valid_of_step hp hs)]
      | error e =>
        obtain ⟨rfl, -⟩ := (step_eq_error_iff hp).mp hs
        rw [run_succ_of_error hs, run_succ_of_error hs, hs]

/-- Steps that put nothing into a timer leave it alone. -/
theorem timer_run_of_none {a b : Nat} (hab : a ≤ b) (hp : p.machine.Valid)
    (hnone : ∀ j, a ≤ j → j < b → (p.run j).1.puts? t = none) :
    t.get (p.run b).1.machine.timers = t.get (p.run a).1.machine.timers := by
  induction hab with
  | refl => rfl
  | @step b hab ih =>
    have hkept := ih fun j hj hjb => hnone j hj (Nat.lt_succ_of_lt hjb)
    have hstep := timer_step (valid_run b hp) t
    rw [hnone b hab (Nat.lt_succ_self b), Option.getD_none] at hstep
    rw [run_succ_fst b hp, hstep, hkept]

/-- The last value that is put into a timer stays in it. -/
theorem timer_run_of_some {j n : Nat} (hj : j < n) (hp : p.machine.Valid) {d : UInt8}
    (hput : (p.run j).1.puts? t = some d) (hlast : ∀ i, j < i → i < n → (p.run i).1.puts? t = none) :
    t.get (p.run n).1.machine.timers = d := by
  have hstep := timer_step (valid_run j hp) t
  rw [hput, Option.getD_some, ← run_succ_fst j hp] at hstep
  rw [← hstep]
  exact timer_run_of_none hj hp hlast

end Processor

/-- Commands that hold keys down and let them go. -/
def Command.handlesKeys : Command → Bool
  | .setKeys _ | .press _ | .release _ => true
  | _ => false

namespace Console

variable {c d : Console} {t : Timer}

/-- `n` frames in a row from `s 0`, none of which fails, with any handling of keys after each: `s k` is the
console before frame `k`, counted from zero. -/
def Frames (n : Nat) (s : Nat → Console) : Prop :=
  ∀ k < n, ∃ f keys, (s k).stepFrame.2 = .ok f ∧ (∀ cmd ∈ keys, cmd.handlesKeys) ∧
    s (k + 1) = ((s k).stepFrame.1.play keys).1

/-- What step `j` of the frame that begins here puts into a timer. -/
def puts? (t : Timer) (c : Console) (j : Nat) : Option UInt8 := (c.processor.run j).1.puts? t

theorem exists_play_keys (c : Console) {keys : List Command} (hk : ∀ cmd ∈ keys, cmd.handlesKeys) :
    ∃ keypad, (c.play keys).1 = c.withKeypad keypad := by
  induction keys generalizing c with
  | nil => exact ⟨c.machine.keypad, rfl⟩
  | cons cmd rest ih =>
    obtain ⟨hcmd, hrest⟩ := List.forall_mem_cons.mp hk
    obtain ⟨keypad, hplay⟩ := ih (c.perform cmd).1 hrest
    refine ⟨keypad, ?_⟩
    rw [play_cons, hplay]
    cases cmd with
    | setKeys mask | press key | release key => rfl
    | _ => cases hcmd

/-- A frame leaves the timers that its steps leave, and ticks them once if it does not fail. -/
theorem timers_stepFrame (hm : c.program.isSome) :
    let ran := (c.processor.run c.settings.instructionsPerFrame.toNat).1.machine.timers
    (∀ f, c.stepFrame.2 = .ok f → c.stepFrame.1.machine.timers = ran.tick) ∧
      ∀ e, c.stepFrame.2 = .error e → c.stepFrame.1.machine.timers = ran := by
  rw [stepFrame_of_mounted hm]
  dsimp only
  cases (c.processor.run c.settings.instructionsPerFrame.toNat).2 with
  | ok _ => exact ⟨fun f _ => rfl, nofun⟩
  | error e => exact ⟨nofun, fun e _ => rfl⟩

/-- What all frames of a row keep, and the handling of keys between them. -/
theorem frames_keep {n : Nat} {s : Nat → Console} (h₀ : (s 0).machine.Valid) (hs : Frames n s) :
    ∀ k ≤ n, (s k).machine.Valid ∧ (s k).settings = (s 0).settings ∧ (s k).program = (s 0).program := by
  intro k hk
  induction k with
  | zero => exact ⟨h₀, rfl, rfl⟩
  | succ k ih =>
    obtain ⟨hvalid, hsettings, hprogram⟩ := ih (Nat.le_of_succ_le hk)
    obtain ⟨f, keys, hok, hkeys, hnext⟩ := hs k hk
    have hframe := kept_stepFrame hvalid (Prod.ext rfl hok)
    obtain ⟨keypad, hplay⟩ := (s k).stepFrame.1.exists_play_keys hkeys
    rw [hnext, hplay]
    exact ⟨stepFrame_valid hvalid, hframe.settings.trans hsettings, hframe.program.trans hprogram⟩

section Row

variable {n : Nat} {s : Nat → Console} (h₀ : (s 0).machine.Valid) (hm : (s 0).program.isSome)
  (hs : Frames n s)

include h₀ hm hs

/-- Keys do not matter to the timers, so the next frame finds those of this one after their tick. -/
theorem toNat_timer_succ {k : Nat} (hk : k < n) (t : Timer) :
    (t.get (s (k + 1)).machine.timers).toNat =
      (t.get ((s k).processor.run (s 0).settings.instructionsPerFrame.toNat).1.machine.timers).toNat - 1 := by
  obtain ⟨-, hsettings, hprogram⟩ := frames_keep h₀ hs k (Nat.le_of_lt hk)
  obtain ⟨f, keys, hok, hkeys, hnext⟩ := hs k hk
  obtain ⟨keypad, hplay⟩ := (s k).stepFrame.1.exists_play_keys hkeys
  have hmounted : (s k).program.isSome := hprogram ▸ hm
  have hticked := (timers_stepFrame hmounted).1 f hok
  rw [hsettings] at hticked
  have hkept : (s (k + 1)).machine.timers = (s k).stepFrame.1.machine.timers := by
    rw [hnext, hplay]
    rfl
  rw [hkept, hticked, Timer.toNat_get_tick]

/-- Frames that put nothing into a timer count it down. -/
theorem toNat_timer_of_none {t : Timer} {a b : Nat} (hab : a ≤ b) (hb : b ≤ n)
    (hnone : ∀ k, a ≤ k → k < b → ∀ j < (s 0).settings.instructionsPerFrame.toNat, (s k).puts? t j = none) :
    (t.get (s b).machine.timers).toNat = (t.get (s a).machine.timers).toNat - (b - a) := by
  induction hab with
  | refl => rw [Nat.sub_self, Nat.sub_zero]
  | @step b hab ih =>
    have hle : b ≤ n := Nat.le_of_succ_le hb
    have hcount := ih hle fun k hk hkb => hnone k hk (Nat.lt_succ_of_lt hkb)
    have hvalid := (frames_keep h₀ hs b hle).1
    have hquiet := hnone b hab (Nat.lt_succ_self b)
    have hframe : _ = t.get (s b).machine.timers :=
      Processor.timer_run_of_none (Nat.zero_le _) hvalid fun j _ hj => hquiet j hj
    have hnext := toNat_timer_succ h₀ hm hs hb t
    have hlength : b + 1 - a = b - a + 1 := Nat.succ_sub hab
    rw [hnext, hframe, hcount, hlength, Nat.sub_sub]

end Row

/-- Over `n` frames in a row, with any handling of keys in between, a timer that nothing is put into counts down
by one for each frame, to zero at the least. Where the last value is put into it in frame `k`, counted from
zero, it holds that value less one for this frame and for each frame after it. A frame that fails does not tick:
it leaves in a timer what its steps last put there, or what was there before. And a step changes a timer only
by executing the instruction that puts a value there. -/
theorem timers_count_frames {n : Nat} {s : Nat → Console} (h₀ : (s 0).Reachable)
    (hm : (s 0).program.isSome) (hs : Frames n s) (t : Timer) :
    let size := (s 0).settings.instructionsPerFrame.toNat
    let value (c : Console) : UInt8 := t.get c.machine.timers
    ((∀ k < n, ∀ j < size, (s k).puts? t j = none) → (value (s n)).toNat = (value (s 0)).toNat - n) ∧
      (∀ k < n, ∀ j < size, ∀ v, (s k).puts? t j = some v →
        (∀ i, j < i → i < size → (s k).puts? t i = none) →
        (∀ l, k < l → l < n → ∀ i < size, (s l).puts? t i = none) →
        (value (s n)).toNat = v.toNat - (n - k)) ∧
      (∀ e, (s n).stepFrame.2 = .error e →
        ((∀ j < size, (s n).puts? t j = none) → value (s n).stepFrame.1 = value (s n)) ∧
          ∀ j < size, ∀ v, (s n).puts? t j = some v →
            (∀ i, j < i → i < size → (s n).puts? t i = none) → value (s n).stepFrame.1 = v) ∧
      ∀ p : Processor, p.machine.Valid →
        t.get p.step.1.machine.timers = (p.puts? t).getD (t.get p.machine.timers) := by
  intro size value
  have hvalid := h₀.valid
  refine ⟨fun hnone => ?_, fun k hk j hj v hput hlast hlater => ?_, fun e he => ?_,
    fun p hp => Processor.timer_step hp t⟩
  · exact toNat_timer_of_none hvalid hm hs (Nat.zero_le n) (Nat.le_refl n) fun k _ hk => hnone k hk
  · have hk' := (frames_keep hvalid hs k (Nat.le_of_lt hk)).1
    have hframe := Processor.timer_run_of_some hj hk' hput hlast
    have hnext := toNat_timer_succ hvalid hm hs hk t
    have hrest := toNat_timer_of_none hvalid hm hs hk (Nat.le_refl n) hlater
    change (value (s n)).toNat = _ at hrest
    rw [hrest, hnext, hframe]
    omega
  · obtain ⟨hn, hsettings, hprogram⟩ := frames_keep hvalid hs n (Nat.le_refl n)
    have hmounted : (s n).program.isSome := hprogram ▸ hm
    have hleft := (timers_stepFrame hmounted).2 e he
    rw [hsettings] at hleft
    refine ⟨fun hnone => ?_, fun j hj v hput hlast => ?_⟩
    · have hframe := Processor.timer_run_of_none (Nat.zero_le size) hn fun j _ hj => hnone j hj
      exact (congrArg t.get hleft).trans hframe
    · have hframe := Processor.timer_run_of_some hj hn hput hlast
      exact (congrArg t.get hleft).trans hframe

/-- Frames of two instructions: the first sets the delay timer to five, the next two pass, and the fourth sets
the timer again and then returns with nothing on the stack. Keys change after each. -/
def countingDown : Nat → Console
  | 0 =>
    ((powerOn ⟨2, some 0⟩ (.ofSeed 0)).play
      [.mount programSlot
        [0x60, 0x05, 0xF0, 0x15, 0x61, 0, 0x61, 0, 0x61, 0, 0x61, 0, 0xF0, 0x15, 0x00, 0xEE]]).1
  | k + 1 => ((countingDown k).stepFrame.1.play [.press 3, .setKeys 0x8001, .release 0]).1

theorem countingDown_counts :
    Frames 3 countingDown ∧ (countingDown 3).machine.timers.delay.toNat = 5 - 3 ∧
      (∃ e, (countingDown 3).stepFrame.2 = .error e) ∧
      (countingDown 3).stepFrame.1.machine.timers.delay = 5 := by
  have hreachable : (countingDown 0).Reachable := reachable_play _ _ _
  have hmounted : (countingDown 0).program.isSome := by decide +kernel
  have hs : Frames 3 countingDown := by
    intro k hk
    have hok : ∀ k < 3, (countingDown k).stepFrame.2.toOption.isSome := by decide +kernel
    obtain ⟨f, hf⟩ := Option.isSome_iff_exists.mp (hok k hk)
    exact ⟨f, _, Outcome.eq_ok_of_toOption hf, by decide, rfl⟩
  obtain ⟨-, hcount, hfails, -⟩ := timers_count_frames hreachable hmounted hs .delay
  have hset : (countingDown 0).puts? .delay 1 = some 5 := by decide +kernel
  have hrest : ∀ l < 3, 0 < l → ∀ i < 2, (countingDown l).puts? .delay i = none := by decide +kernel
  have hagain : (countingDown 3).puts? .delay 0 = some 5 := by decide +kernel
  have hfault : (countingDown 3).puts? .delay 1 = none := by decide +kernel
  have hbad : (countingDown 3).stepFrame.2.toOption.isNone := by decide +kernel
  have hbetween : ∀ i, 1 < i → i < 2 → (countingDown 0).puts? .delay i = none := by
    intro i hi hi'
    omega
  refine ⟨hs, hcount 0 (by decide) 1 (by decide) 5 hset hbetween fun l hl hl' => hrest l hl' hl, ?_⟩
  cases he : (countingDown 3).stepFrame.2 with
  | ok f =>
    rw [he] at hbad
    cases hbad
  | error e =>
    refine ⟨⟨e, rfl⟩, (hfails e he).2 0 (by decide) 5 hagain fun i hi hi' => ?_⟩
    have hone : i = 1 := Nat.le_antisymm (Nat.le_of_lt_succ hi') hi
    rw [hone]
    exact hfault

end Console

end Chip8
