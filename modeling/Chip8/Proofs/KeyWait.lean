import Chip8.Proofs.Completion
import Chip8.Proofs.FrameSteps
import Chip8.Proofs.Registers

namespace Chip8

open Word (digit)

theorem Word.decode_waitKey (x : Fin 16) : Instruction.decode (ofDigits 0xF x 0x0 0xA) = .waitKey (digit x) := by
  have hw := Means.waitKey (group_ofDigits 0xF x 0x0 0xA) (low_ofDigits 0xF x 0x0 0xA)
  rw [hw.decode_eq, x_ofDigits]

/-- There is a lowest key as soon as a key is held. -/
theorem Keypad.exists_lowest {k : Keypad} (h : k.mask ≠ 0) :
    ∃ key : Fin 16, k.lowest? = some (digit key) ∧ k.holds (digit key) ∧
      ∀ other < key, ¬ k.holds (digit other) := by
  obtain ⟨b, hb⟩ := Option.ne_none_iff_exists'.mp (mt k.lowest?_eq_none_iff.mp h)
  have hfind := hb
  rw [lowest?, keys, List.find?_map, Option.map_eq_some_iff] at hfind
  obtain ⟨n, hn, rfl⟩ := hfind
  obtain ⟨hheld, hlt, hfree⟩ := List.find?_range_eq_some.mp hn
  refine ⟨⟨n, List.mem_range.mp hlt⟩, hb, hheld, fun other hother => ?_⟩
  have hnot : (!k.holds (digit other)) = true := hfree other.val hother
  simpa using hnot

namespace Machine

variable {m : Machine}

theorem after_waitKey_of_released (h : m.keypad.mask = 0) (byte a : UInt8) : m.after byte (.waitKey a) = m := by
  simp only [after, (Keypad.lowest?_eq_none_iff m.keypad).mpr h]

theorem after_waitKey_of_held (h : m.keypad.mask ≠ 0) (byte : UInt8) (x : Fin 16) :
    ∃ key : Fin 16, m.keypad.holds (digit key) ∧ (∀ other < key, ¬ m.keypad.holds (digit other)) ∧
      m.after byte (.waitKey (digit x)) =
        { m with v := m.v.setIfInBounds x.val (digit key), pc := m.pc + 2 } := by
  obtain ⟨key, hlowest, hheld, hfree⟩ := Keypad.exists_lowest h
  refine ⟨key, hheld, hfree, ?_⟩
  simp only [after, hlowest, loaded, withValue, Word.toNat_digit, past, goto]

end Machine

namespace Processor

/-- The processor stands at `Fx0A`. -/
structure AwaitsKey (p : Processor) (x : Fin 16) : Prop where
  valid : p.machine.Valid
  fetch : p.fetch = .ok (Word.ofDigits 0xF x 0x0 0xA)

/-- The processor with so many more instructions counted. -/
def counted (p : Processor) (n : Nat) : Processor := { p with executed := p.executed + .ofNat n }

variable {p : Processor} {x : Fin 16}

theorem toNat_executed_counted {n : Nat} (h : p.executed.toNat + n < UInt64.size) :
    (p.counted n).executed.toNat = p.executed.toNat + n := by
  have hn : n < 2 ^ 64 := Nat.lt_of_le_of_lt (Nat.le_add_left n _) h
  have hvalue : (UInt64.ofNat n).toNat = n := by rw [UInt64.toNat_ofNat', Nat.mod_eq_of_lt hn]
  rw [counted, UInt64.toNat_add, hvalue]
  exact Nat.mod_eq_of_lt h

theorem counted_counted (p : Processor) (n k : Nat) : (p.counted n).counted k = p.counted (n + k) := by
  simp only [counted, UInt64.ofNat_add, UInt64.add_assoc]

namespace AwaitsKey

variable (h : p.AwaitsKey x)
include h

/-- Waiting does not fail as long as there is room in the counter. -/
theorem step_eq (hroom : p.executed.toNat + 1 < UInt64.size) :
    p.step = (p.after (.waitKey (digit x)), .ok (.waitKey (digit x))) := by
  have hnone : p.failure? = none := by
    simp only [failure?, h.fetch, Word.decode_waitKey, Machine.fault?, hroom, if_true]
  exact (step_eq_ok_iff h.valid).mpr ⟨hnone, rfl, _, h.fetch, (Word.decode_waitKey x).symm⟩

theorem step_waiting (hkeys : p.machine.keypad.mask = 0) (hroom : p.executed.toNat + 1 < UInt64.size) :
    p.step = (p.counted 1, .ok (.waitKey (digit x))) := by
  have hstays : p.after (.waitKey (digit x)) = p.counted 1 := by
    rw [after, Machine.after_waitKey_of_released hkeys]
    rfl
  rw [h.step_eq hroom, hstays]

theorem run_waiting (hkeys : p.machine.keypad.mask = 0) {n : Nat} (hroom : p.executed.toNat + n < UInt64.size) :
    p.run n = (p.counted n, .ok ()) := by
  induction n with
  | zero => simp [run, counted]
  | succ n ih =>
    have hbefore : p.executed.toNat + n < UInt64.size := Nat.lt_of_succ_lt hroom
    -- only the counter has moved, so the processor still awaits its key
    have hcounted : (p.counted n).AwaitsKey x := ⟨h.valid, h.fetch⟩
    have hlast : (p.counted n).executed.toNat + 1 < UInt64.size := by
      rw [toNat_executed_counted hbefore]
      exact hroom
    rw [run_succ, ih hbefore]
    dsimp only
    rw [hcounted.step_waiting hkeys hlast, counted_counted]
    rfl

/-- A step that finds keys held takes the lowest one. -/
theorem step_resuming (hkeys : p.machine.keypad.mask ≠ 0) (hroom : p.executed.toNat + 1 < UInt64.size) :
    ∃ key : Fin 16, p.machine.keypad.holds (digit key) ∧ (∀ other < key, ¬ p.machine.keypad.holds (digit other)) ∧
      p.step.2 = .ok (.waitKey (digit x)) ∧
      p.step.1.machine =
        { p.machine with v := p.machine.v.setIfInBounds x.val (digit key), pc := p.machine.pc + 2 } := by
  obtain ⟨key, hheld, hfree, htaken⟩ := Machine.after_waitKey_of_held hkeys 0 x
  rw [h.step_eq hroom]
  exact ⟨key, hheld, hfree, rfl, htaken⟩

end AwaitsKey

end Processor

namespace Console

open Processor (AwaitsKey)

/-- The console after so many frames in which it only waited. -/
def waited (c : Console) (n : Nat) : Console :=
  let p := c.processor.counted (n * c.settings.instructionsPerFrame.toNat)
  { c with processor := { p with machine := { p.machine with timers := Timers.tick^[n] p.machine.timers } } }

/-- The counter has room for so many frames. -/
def Room (c : Console) (n : Nat) : Prop :=
  c.processor.executed.toNat + n * c.settings.instructionsPerFrame.toNat < UInt64.size

variable {c : Console} {x : Fin 16} {n : Nat}

theorem toNat_executed_waited (h : c.Room n) :
    (c.waited n).processor.executed.toNat =
      c.processor.executed.toNat + n * c.settings.instructionsPerFrame.toNat :=
  Processor.toNat_executed_counted h

theorem room_succ_iff : c.Room (n + 1) ↔ c.Room n ∧ (c.waited n).Room 1 := by
  have hsettings : (c.waited n).settings = c.settings := rfl
  constructor
  · intro h
    have hbefore : c.Room n := by
      unfold Room at *
      rw [Nat.succ_mul] at h
      omega
    refine ⟨hbefore, ?_⟩
    rwa [Room, toNat_executed_waited hbefore, hsettings, Nat.add_assoc, ← Nat.add_mul]
  · rintro ⟨hbefore, hlast⟩
    rwa [Room, toNat_executed_waited hbefore, hsettings, Nat.add_assoc, ← Nat.add_mul] at hlast

theorem waited_succ (c : Console) (n : Nat) : (c.waited n).waited 1 = c.waited (n + 1) := by
  simp only [waited, Processor.counted, Function.iterate_succ_apply', Function.iterate_zero_apply, Nat.add_mul,
    UInt64.ofNat_add, UInt64.add_assoc]

theorem toNat_timer_waited (c : Console) (n : Nat) (t : Timer) :
    (t.get (c.waited n).machine.timers).toNat = (t.get c.machine.timers).toNat - n := by
  induction n with
  | zero => rfl
  | succ n ih =>
    have hticked : (c.waited (n + 1)).machine.timers = (c.waited n).machine.timers.tick :=
      Function.iterate_succ_apply' _ _ _
    rw [hticked, Timer.toNat_get_tick, ih, Nat.sub_sub]

/-- A frame in which every step succeeds leaves room. -/
theorem room_of_stepFrame (hc : c.machine.Valid) (hm : c.program.isSome) {f : Frame} (h : c.stepFrame.2 = .ok f) :
    c.Room 1 := by
  unfold Room
  rw [Nat.one_mul]
  rcases c.processor.succeed_or_first_failure c.settings.instructionsPerFrame.toNat with
    hall | ⟨k, hk, hbefore, e, he⟩
  · rw [← toNat_executed_stepped hc hm hall]
    exact UInt64.toNat_lt_size _
  · rw [← step_snd_stepped hc hm] at he
    rw [stepFrame_of_first_failure hc hm hk hbefore he] at h
    cases h

section Waiting

variable (h : c.processor.AwaitsKey x) (hm : c.program.isSome) (hkeys : c.machine.keypad.mask = 0)
include h hm hkeys

theorem stepFrame_waiting (hroom : c.Room 1) : c.stepFrame = (c.waited 1, .ok c.machine.display.frame) := by
  rw [Room, Nat.one_mul] at hroom
  have hrun := h.run_waiting hkeys hroom
  rw [stepFrame_of_mounted hm, hrun, waited, Nat.one_mul]
  rfl

theorem play_waiting (hroom : c.Room n) :
    c.play (List.replicate n .stepFrame) = (c.waited n, List.replicate n (.frame c.machine.display.frame)) := by
  induction n with
  | zero => simp [play, waited, Processor.counted]
  | succ n ih =>
    obtain ⟨hbefore, hlast⟩ := room_succ_iff.mp hroom
    have hwaits : (c.waited n).processor.AwaitsKey x := ⟨h.valid, h.fetch⟩
    have hframe := stepFrame_waiting hwaits hm hkeys hlast
    rw [List.replicate_succ', List.replicate_succ', play_concat, ih hbefore]
    simp only [perform, answering, hframe, Answer.ofFrame, waited_succ]
    rfl

theorem room_of_succeeded (hall : ∀ a ∈ (c.play (List.replicate n .stepFrame)).2, a.succeeded) : c.Room n := by
  induction n with
  | zero =>
    rw [Room, Nat.zero_mul]
    exact c.processor.executed.toNat_lt_size
  | succ n ih =>
    rw [List.replicate_succ', play_concat] at hall
    -- with room for the frames before the last one, that one begins where they leave the console
    have hbefore := ih fun a ha => hall a (List.mem_append_left _ ha)
    have hlast := hall _ (List.mem_append_right _ (List.mem_singleton_self _))
    rw [play_waiting h hm hkeys hbefore] at hlast
    refine room_succ_iff.mpr ⟨hbefore, ?_⟩
    cases hframe : (c.waited n).stepFrame.2 with
    | ok f => exact room_of_stepFrame h.valid hm hframe
    | error e =>
      simp only [perform, answering, hframe] at hlast
      cases hlast

end Waiting

/-- Keys are all that handling them changes, so the next step finds the machine otherwise as it was. -/
theorem step_after_keys (h : c.processor.AwaitsKey x) (hm : c.program.isSome)
    (hroom : c.processor.executed.toNat + 1 < UInt64.size) {keys : List Command} (hk : ∀ cmd ∈ keys, cmd.handlesKeys) :
    let woken := (c.play keys).1
    let keypad := woken.machine.keypad
    keypad.mask ≠ 0 →
      ∃ key : Fin 16, keypad.holds (digit key) ∧ (∀ other < key, ¬ keypad.holds (digit other)) ∧
        woken.step.2 = .ok (.waitKey (digit x)) ∧
        woken.step.1.machine =
          { c.machine with
            v := c.machine.v.setIfInBounds x.val (digit key)
            pc := c.machine.pc + 2
            keypad := keypad } := by
  intro woken keypad hheld
  obtain ⟨pressed, hplay⟩ := c.exists_play_keys hk
  have hwoken : woken = c.withKeypad pressed := hplay
  have hwaits : woken.processor.AwaitsKey x := by
    rw [hwoken]
    exact ⟨h.valid, h.fetch⟩
  have hmounted : woken.program.isSome := by
    rw [hwoken]
    exact hm
  have hroom' : woken.processor.executed.toNat + 1 < UInt64.size := by
    rw [hwoken]
    exact hroom
  have hkept : woken.processor.machine = { c.machine with keypad := keypad } := by
    unfold keypad
    rw [hwoken]
    rfl
  obtain ⟨key, hkey, hfree, hanswer, hmachine⟩ := hwaits.step_resuming hheld hroom'
  rw [step_of_mounted hmounted]
  rw [hkept] at hmachine
  exact ⟨key, hkey, hfree, hanswer, hmachine⟩

/-- A valid console with a program in it that stands at `Fx0A` while no key is held waits, however many frames it runs:
they all succeed as long as there is room in the counter, and change nothing but the timers, which count down by one
for each frame, and the counter, which grows by the instructions of each frame. Once keys are held, the next step puts
the lowest of them into the register, moves past the instruction and changes nothing else. -/
theorem key_wait_resumes (hc : c.machine.Valid) (hm : c.program.isSome)
    (hfetch : c.processor.fetch = .ok (Word.ofDigits 0xF x 0x0 0xA)) (hkeys : c.machine.keypad.mask = 0) (n : Nat) :
    let played := c.play (List.replicate n .stepFrame)
    let left := played.1
    let executed := c.processor.executed.toNat + n * c.settings.instructionsPerFrame.toNat
    ((∀ a ∈ played.2, a.succeeded) ↔ executed < UInt64.size) ∧
      (executed < UInt64.size →
        left =
          { c with
            processor :=
              { c.processor with
                machine := { c.machine with timers := left.machine.timers }
                executed := left.processor.executed } } ∧
          (∀ t : Timer, (t.get left.machine.timers).toNat = (t.get c.machine.timers).toNat - n) ∧
          left.processor.executed.toNat = executed ∧
          ∀ keys : List Command, (∀ cmd ∈ keys, cmd.handlesKeys) →
            let woken := (left.play keys).1
            let keypad := woken.machine.keypad
            keypad.mask ≠ 0 → executed + 1 < UInt64.size →
              ∃ key : Fin 16, keypad.holds (digit key) ∧ (∀ other < key, ¬ keypad.holds (digit other)) ∧
                woken.step.2 = .ok (.waitKey (digit x)) ∧
                woken.step.1.machine =
                  { left.machine with
                    v := left.machine.v.setIfInBounds x.val (digit key)
                    pc := left.machine.pc + 2
                    keypad := keypad }) := by
  intro played left executed
  have h : c.processor.AwaitsKey x := ⟨hc, hfetch⟩
  refine ⟨⟨room_of_succeeded h hm hkeys, fun hroom a ha => ?_⟩, fun hroom => ?_⟩
  · have hanswers : played.2 = _ := congrArg Prod.snd (play_waiting h hm hkeys hroom)
    rw [hanswers] at ha
    rw [List.eq_of_mem_replicate ha]
    rfl
  · have hleft : left = c.waited n := congrArg Prod.fst (play_waiting h hm hkeys hroom)
    rw [hleft]
    have hcount : _ = executed := toNat_executed_waited hroom
    have hwaits : (c.waited n).processor.AwaitsKey x := ⟨hc, hfetch⟩
    refine ⟨rfl, toNat_timer_waited c n, hcount, fun keys hkeys => ?_⟩
    intro woken keypad hheld hlast
    rw [← hcount] at hlast
    exact step_after_keys hwaits hm hlast hkeys hheld

/-- Frames of two instructions: the first sets the delay timer to three, and then V3 awaits a key. -/
def awaitingKey : Console :=
  ((powerOn ⟨2, some 0⟩ (.ofSeed 0)).play
    [.mount programSlot [0x60, 0x03, 0xF0, 0x15, 0xF3, 0x0A], .stepFrame]).1

theorem awaitingKey_resumes :
    let played := awaitingKey.play (List.replicate 4 .stepFrame)
    let left := played.1
    let woken := (left.play [.press 0x7, .setKeys 0x0210, .release 0xF]).1
    (∀ a ∈ played.2, a.succeeded) ∧ (Timer.delay.get awaitingKey.machine.timers).toNat = 2 ∧
      (Timer.delay.get left.machine.timers).toNat = 2 - 4 ∧ left.processor.executed.toNat = 2 + 4 * 2 ∧
      woken.step.2 = .ok (.waitKey 0x3) ∧
      woken.step.1.machine =
        { left.machine with
          v := left.machine.v.setIfInBounds 3 0x4
          pc := left.machine.pc + 2
          keypad := ⟨0x0210⟩ } := by
  have hvalid : awaitingKey.machine.Valid := (reachable_play _ _ _).valid
  have hmounted : awaitingKey.program.isSome := by decide +kernel
  have hfetch : awaitingKey.processor.fetch = .ok (Word.ofDigits 0xF 0x3 0x0 0xA) := by
    rw [Processor.fetch_eq_ok_iff]
    exact ⟨0xF3, 0x0A, by decide +kernel, by decide +kernel, by decide⟩
  have hreleased : awaitingKey.machine.keypad.mask = 0 := by decide +kernel
  have hcount : awaitingKey.processor.executed.toNat = 2 := by decide +kernel
  have hsize : awaitingKey.settings.instructionsPerFrame.toNat = 2 := by decide +kernel
  have hdelay : (Timer.delay.get awaitingKey.machine.timers).toNat = 2 := by decide +kernel
  obtain ⟨hsucceed, hwaited⟩ := key_wait_resumes hvalid hmounted hfetch hreleased 4
  rw [hcount, hsize] at hsucceed hwaited
  obtain ⟨-, htimers, hexecuted, hresumes⟩ := hwaited (by decide)
  have hdelay' := htimers .delay
  obtain ⟨key, hheld, hfree, hanswer, hmachine⟩ :=
    hresumes [.press 0x7, .setKeys 0x0210, .release 0xF] (by decide) (by decide +kernel) (by decide)
  have hkeypad : ((awaitingKey.play (List.replicate 4 .stepFrame)).1.play
      [.press 0x7, .setKeys 0x0210, .release 0xF]).1.machine.keypad = ⟨0x0210⟩ := by decide +kernel
  have hlowest : ∀ key : Fin 16, (⟨0x0210⟩ : Keypad).holds (digit key) →
      (∀ other < key, ¬ (⟨0x0210⟩ : Keypad).holds (digit other)) → key = 0x4 := by decide +kernel
  rw [hkeypad] at hheld hfree hmachine
  obtain rfl := hlowest key hheld hfree
  rw [hdelay] at hdelay'
  exact ⟨hsucceed.mpr (by decide), hdelay, hdelay', hexecuted, hanswer, hmachine⟩

end Console

end Chip8
