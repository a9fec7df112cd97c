import Chip8.Proofs.KeyWait
import Mathlib.Data.List.Induction
import Mathlib.Order.Bounds.Basic

namespace Chip8

open Word (digit ofDigits)

namespace Command

/-- The commands that bring another machine in the place of the one at hand. -/
def replacesMachine : Command → Bool
  | .mount _ _ | .reset | .restore _ => true
  | _ => false

/-- Whether a command leaves a key down or up; it may not concern the key at all. -/
def sets? (key : UInt8) : Command → Option Bool
  | .setKeys mask => some (mask.toNat.testBit key.toNat)
  | .press pressed => if pressed = key ∧ pressed.toNat < Keypad.keyCount then some true else none
  | .release released => if released = key ∧ released.toNat < Keypad.keyCount then some false else none
  | _ => none

end Command

/-- The last of the commands that concern a key put it down. -/
def PutDown (commands : List Command) (key : UInt8) : Prop :=
  ∃ before cmd after, commands = before ++ cmd :: after ∧ cmd.sets? key = some true ∧
    ∀ later ∈ after, later.sets? key = none

/-- The keys that are down after some commands. -/
def keysDown (commands : List Command) : Set UInt8 :=
  {key | key.toNat < Keypad.keyCount ∧ PutDown commands key}

section Histories

variable {commands : List Command} {cmd : Command} {key : UInt8}

theorem not_putDown_nil : ¬ PutDown [] key := by
  rintro ⟨before, cmd, after, hsplit, -⟩
  exact List.append_ne_nil_of_right_ne_nil before (List.cons_ne_nil cmd after) hsplit.symm

/-- The last command decides, if it concerns the key. -/
theorem putDown_concat_iff :
    PutDown (commands ++ [cmd]) key ↔
      cmd.sets? key = some true ∨ cmd.sets? key = none ∧ PutDown commands key := by
  constructor
  · rintro ⟨before, decisive, after, hsplit, hdown, hlater⟩
    rcases after.eq_nil_or_concat with rfl | ⟨earlier, last, rfl⟩
    · obtain ⟨-, hlast⟩ := List.append_inj' hsplit rfl
      cases hlast
      exact .inl hdown
    · rw [List.concat_eq_append, ← List.cons_append, ← List.append_assoc] at hsplit
      obtain ⟨rfl, hlast⟩ := List.append_inj' hsplit rfl
      cases hlast
      simp only [List.concat_eq_append, List.mem_append, List.mem_singleton] at hlater
      exact .inr ⟨hlater cmd (.inr rfl), before, decisive, earlier, rfl, hdown, fun c hc => hlater c (.inl hc)⟩
  · rintro (hdown | ⟨hnone, before, decisive, after, rfl, hdown, hlater⟩)
    · exact ⟨commands, cmd, [], rfl, hdown, fun _ h => absurd h List.not_mem_nil⟩
    · refine ⟨before, decisive, after ++ [cmd], by simp, hdown, fun c hc => ?_⟩
      rcases List.mem_append.mp hc with h | h
      · exact hlater c h
      · rwa [List.mem_singleton.mp h]

end Histories

/-- Numbers beyond the last key have no bit in a mask. -/
theorem Keypad.holds_mk (mask : UInt16) (key : UInt8) :
    (⟨mask⟩ : Keypad).holds key = mask.toNat.testBit key.toNat := by
  unfold holds
  by_cases hkey : key.toNat < keyCount
  · rw [decide_eq_true hkey, Bool.true_and]
  · have hpow : 2 ^ keyCount ≤ 2 ^ key.toNat := Nat.pow_le_pow_right (by decide) (Nat.le_of_not_lt hkey)
    rw [Nat.testBit_lt_two_pow (Nat.lt_of_lt_of_le mask.toNat_lt hpow), Bool.and_false]

theorem Keypad.lt_of_holds {k : Keypad} {key : UInt8} (h : k.holds key) : key.toNat < keyCount := by
  simp only [holds, Bool.and_eq_true, decide_eq_true_eq] at h
  exact h.1

namespace Console

variable {c : Console} {cmd : Command} {commands : List Command} {key : UInt8}

theorem keypad_step (hc : c.machine.Valid) : c.step.1.machine.keypad = c.machine.keypad := by
  cases hp : c.program with
  | none => simp only [step, hp]
  | some program =>
    rw [step_fst (Option.isSome_of_eq_some hp)]
    exact Processor.keypad_run hc 1

theorem keypad_stepFrame (hc : c.machine.Valid) : c.stepFrame.1.machine.keypad = c.machine.keypad := by
  cases hp : c.program with
  | none => simp only [stepFrame, hp]
  | some program =>
    obtain ⟨timers, hleft⟩ := exists_stepFrame_eq (Option.isSome_of_eq_some hp)
    rw [hleft]
    exact Processor.keypad_run hc _

/-- One command: what it says about a key counts, and otherwise the key stays as it is. -/
theorem holds_perform (hc : c.machine.Valid) (hr : cmd.replacesMachine = false) (key : UInt8) :
    (c.perform cmd).1.machine.keypad.holds key = (cmd.sets? key).getD (c.machine.keypad.holds key) := by
  cases cmd with
  | mount id program | reset | restore save => cases hr
  | unmount id =>
    rcases c.unmount_cases id with ⟨-, h⟩ | ⟨-, h⟩
    all_goals
      simp only [perform, answering, h]
      rfl
  | step => exact congrArg (Keypad.holds · key) (keypad_step hc)
  | stepFrame => exact congrArg (Keypad.holds · key) (keypad_stepFrame hc)
  | setKeys mask => exact Keypad.holds_mk mask key
  | press pressed =>
    change (c.machine.keypad.press pressed).holds key = _
    rw [Keypad.holds_press, Command.sets?]
    split
    next h => simp only [h.1, h.1 ▸ h.2, decide_true, beq_self_eq_true, Bool.and_self, Bool.or_true, Option.getD_some]
    next h =>
      have hother : (decide (pressed.toNat < Keypad.keyCount) && pressed == key) = false := by
        simpa using fun hlt heq => h ⟨heq, hlt⟩
      rw [hother, Bool.or_false, Option.getD_none]
  | release released =>
    change (c.machine.keypad.release released).holds key = _
    rw [Keypad.holds_release, Command.sets?]
    split
    next h => simp only [h.1, bne_self_eq_false, Bool.and_false, Option.getD_some]
    next h =>
      rw [Option.getD_none, Bool.and_eq_left_iff_imp]
      intro hheld
      rw [bne_iff_ne]
      rintro rfl
      exact h ⟨rfl, Keypad.lt_of_holds hheld⟩
  | tick | takeUpdate | save => rfl

/-- A whole history: the last command that concerns a key decides, and where there is none the key is as it was. -/
theorem holds_play_iff (hc : c.machine.Valid) (hcommands : ∀ cmd ∈ commands, cmd.replacesMachine = false)
    (key : UInt8) :
    (c.play commands).1.machine.keypad.holds key ↔
      PutDown commands key ∨ (∀ cmd ∈ commands, cmd.sets? key = none) ∧ c.machine.keypad.holds key := by
  induction commands using List.reverseRecOn with
  | nil => simp [play, not_putDown_nil]
  | append_singleton commands cmd ih =>
    have hbefore : ∀ cmd ∈ commands, cmd.replacesMachine = false := fun d hd =>
      hcommands d (List.mem_append_left _ hd)
    have hlast := hcommands cmd (List.mem_append_right _ (List.mem_singleton_self cmd))
    rw [play_concat, holds_perform (play_valid hc commands) hlast, putDown_concat_iff, List.forall_mem_append,
      List.forall_mem_singleton]
    cases hsets : cmd.sets? key with
    | none => simpa using ih hbefore
    | some down => simp

/-- From a released keypad, the keys that are down are those that the commands put down. -/
theorem holds_play_of_released (hc : c.machine.Valid) (hkeys : c.machine.keypad = .released)
    (hcommands : ∀ cmd ∈ commands, cmd.replacesMachine = false) (key : UInt8) :
    (c.play commands).1.machine.keypad.holds key ↔ key ∈ keysDown commands := by
  have hplay := holds_play_iff hc hcommands key
  rw [hkeys, Keypad.holds_released] at hplay
  constructor
  · intro hheld
    have hdown : PutDown commands key := by simpa using hplay.mp hheld
    exact ⟨Keypad.lt_of_holds hheld, hdown⟩
  · rintro ⟨-, hdown⟩
    exact hplay.mpr (.inl hdown)

end Console

namespace Processor

/-- An instruction ends well and does nothing but move the program counter by so many bytes. -/
def MovesOn (p : Processor) (word distance : UInt16) : Prop :=
  p.Executes (.decode word) { p.machine with pc := p.machine.pc + distance }

/-- An instruction skips the next one, and does nothing else. -/
def Skips (p : Processor) (word : UInt16) : Prop := p.MovesOn word 4

/-- An instruction does not skip the next one, and does nothing else either. -/
def Passes (p : Processor) (word : UInt16) : Prop := p.MovesOn word 2

/-- An instruction puts a key into a register and moves on. -/
def Takes (p : Processor) (word : UInt16) (x : Fin 16) (key : UInt8) : Prop :=
  p.Executes (.decode word) { p.machine with v := p.machine.v.setIfInBounds x.val key, pc := p.machine.pc + 2 }

/-- An instruction leaves everything as it is, so that it comes up again. -/
def Blocks (p : Processor) (word : UInt16) : Prop := p.Executes (.decode word) p.machine

variable {p : Processor} {word : UInt16} {x : Fin 16}

/-- An instruction leaves one machine only. -/
theorem Executes.eq {i : Instruction} {m n : Machine} (h : p.Executes i m) (h' : p.Executes i n) : m = n :=
  congrArg machine (congrArg Prod.fst (Eq.trans (Eq.symm h) h'))

/-- An instruction moves on by one distance only. -/
theorem MovesOn.eq {distance distance' : UInt16} (h : p.MovesOn word distance) (h' : p.MovesOn word distance') :
    distance = distance' :=
  (UInt16.add_right_inj p.machine.pc).mp (congrArg Machine.pc (Executes.eq h h'))

theorem MovesOn.skips_iff {condition : Bool} (h : p.MovesOn word (if condition then 4 else 2)) :
    p.Skips word ↔ condition := by
  cases condition with
  | true => exact iff_of_true h rfl
  | false => exact iff_of_false (fun h' => absurd (h.eq h') (by decide)) Bool.false_ne_true

theorem MovesOn.passes_iff {condition : Bool} (h : p.MovesOn word (if condition then 4 else 2)) :
    p.Passes word ↔ ¬ condition := by
  cases condition with
  | true => exact iff_of_false (fun h' => absurd (h.eq h') (by decide)) (not_not_intro rfl)
  | false => exact iff_of_true h Bool.false_ne_true

theorem movesOn_skipKeyPressed (p : Processor) (x : Fin 16) :
    p.MovesOn (ofDigits 0xE x 0x9 0xE) (if p.machine.keypad.holds (p.machine.v.get x) then 4 else 2) := by
  have hw := Word.Means.skipKeyPressed (Word.group_ofDigits 0xE x 0x9 0xE) (Word.low_ofDigits 0xE x 0x9 0xE)
  have hexecutes := executes_of_means (p := p) hw rfl rfl rfl
  rw [Word.x_ofDigits, Machine.after, Machine.value_digit] at hexecutes
  exact hexecutes

theorem movesOn_skipKeyNotPressed (p : Processor) (x : Fin 16) :
    p.MovesOn (ofDigits 0xE x 0xA 0x1) (if !p.machine.keypad.holds (p.machine.v.get x) then 4 else 2) := by
  have hw := Word.Means.skipKeyNotPressed (Word.group_ofDigits 0xE x 0xA 0x1) (Word.low_ofDigits 0xE x 0xA 0x1)
  have hexecutes := executes_of_means (p := p) hw rfl rfl rfl
  rw [Word.x_ofDigits, Machine.after, Machine.value_digit] at hexecutes
  exact hexecutes

theorem executes_waitKey (p : Processor) (x : Fin 16) :
    p.Executes (.decode (ofDigits 0xF x 0x0 0xA)) (p.machine.after 0 (.waitKey (digit x))) := by
  have hw := Word.Means.waitKey (Word.group_ofDigits 0xF x 0x0 0xA) (Word.low_ofDigits 0xF x 0x0 0xA)
  have hexecutes := executes_of_means (p := p) hw rfl rfl rfl
  rwa [Word.x_ofDigits] at hexecutes

/-- Whatever the number in its register, one of the two key instructions skips and the other one does not. -/
theorem one_key_instruction_skips (p : Processor) (x : Fin 16) :
    p.Skips (ofDigits 0xE x 0x9 0xE) ∧ p.Passes (ofDigits 0xE x 0xA 0x1) ∨
      p.Passes (ofDigits 0xE x 0x9 0xE) ∧ p.Skips (ofDigits 0xE x 0xA 0x1) := by
  have hpressed := p.movesOn_skipKeyPressed x
  have hreleased := p.movesOn_skipKeyNotPressed x
  cases hheld : p.machine.keypad.holds (p.machine.v.get x) with
  | true =>
    rw [hheld] at hpressed hreleased
    exact .inl ⟨hpressed, hreleased⟩
  | false =>
    rw [hheld] at hpressed hreleased
    exact .inr ⟨hpressed, hreleased⟩

theorem not_blocks_of_takes {key : UInt8} (h : p.Takes word x key) : ¬ p.Blocks word := fun h' => by
  have hpc : p.machine.pc + 2 = p.machine.pc := congrArg Machine.pc (Executes.eq h h')
  rw [UInt16.add_eq_left] at hpc
  exact absurd hpc (by decide)

theorem Takes.eq {key other : UInt8} (h : p.Takes word x key) (h' : p.Takes word x other) : key = other := by
  have hv := congrArg Machine.v (Executes.eq h h')
  have hx : some key = some other := by
    have hlt : x.val < registerCount := x.isLt
    have hread := congrArg (fun v => v[x.val]?) hv
    simpa [hlt] using hread
  exact Option.some.inj hx

section Waiting

variable {keys : Set UInt8} (hkeys : ∀ key, p.machine.keypad.holds key ↔ key ∈ keys)
include hkeys

theorem blocks_of_empty (x : Fin 16) (hempty : keys = ∅) : p.Blocks (ofDigits 0xF x 0x0 0xA) := by
  have hreleased : p.machine.keypad.mask = 0 := by
    by_contra hheld
    obtain ⟨key, -, hheld, -⟩ := Keypad.exists_lowest hheld
    rw [hkeys, hempty] at hheld
    exact hheld
  have hexecutes := p.executes_waitKey x
  rwa [Machine.after_waitKey_of_released hreleased] at hexecutes

theorem exists_takes_of_nonempty (x : Fin 16) (hsome : keys.Nonempty) :
    ∃ key, IsLeast keys key ∧ p.Takes (ofDigits 0xF x 0x0 0xA) x key := by
  obtain ⟨other, hother⟩ := hsome
  have hheld : p.machine.keypad.mask ≠ 0 := by
    intro hzero
    rw [← hkeys] at hother
    simp [Keypad.holds, hzero] at hother
  obtain ⟨key, hkey, hfree, hafter⟩ := Machine.after_waitKey_of_held hheld 0 x
  have hexecutes := p.executes_waitKey x
  rw [hafter] at hexecutes
  refine ⟨digit key, ⟨(hkeys _).mp hkey, fun other hother => ?_⟩, hexecutes⟩
  rw [← hkeys] at hother
  have hlt : other.toNat < 16 := Keypad.lt_of_holds hother
  by_contra hbelow
  have hdigit : digit ⟨other.toNat, hlt⟩ = other := UInt8.ofNat_toNat
  refine hfree ⟨other.toNat, hlt⟩ ?_ (by rwa [hdigit])
  rw [Fin.lt_def, ← Word.toNat_digit key]
  exact UInt8.lt_iff_toNat_lt.mp (UInt8.not_le.mp hbelow)

theorem blocks_iff (x : Fin 16) : p.Blocks (ofDigits 0xF x 0x0 0xA) ↔ keys = ∅ := by
  refine ⟨fun hblocks => ?_, blocks_of_empty hkeys x⟩
  by_contra hsome
  obtain ⟨key, -, htakes⟩ := exists_takes_of_nonempty hkeys x (Set.nonempty_iff_ne_empty.mpr hsome)
  exact not_blocks_of_takes htakes hblocks

theorem takes_iff (x : Fin 16) (key : UInt8) : p.Takes (ofDigits 0xF x 0x0 0xA) x key ↔ IsLeast keys key := by
  constructor
  · intro htakes
    have hsome : keys.Nonempty := by
      rw [Set.nonempty_iff_ne_empty]
      exact fun hempty => not_blocks_of_takes htakes (blocks_of_empty hkeys x hempty)
    obtain ⟨least, hleast, htakes'⟩ := exists_takes_of_nonempty hkeys x hsome
    rwa [htakes.eq htakes']
  · intro hleast
    obtain ⟨least, hleast', htakes⟩ := exists_takes_of_nonempty hkeys x ⟨key, hleast.1⟩
    have heq : key = least := UInt8.le_antisymm (hleast.2 hleast'.1) (hleast'.2 hleast.1)
    rwa [heq]

end Waiting

end Processor

namespace Console

/-- From a released keypad, without another machine being brought in, the keys that are held are those that the last
command that concerns them put down, whatever else happens in between and whether it fails. At every instruction of
the frame that follows, the program sees exactly this set: of the two key instructions one skips if the register
names a key in the set and the other if it does not, so that in any state exactly one of them skips; the third takes
the least key of the set, and stays where it is if and only if the set is empty. -/
theorem keys_down_and_seen {c : Console} (hc : c.machine.Valid) (hkeys : c.machine.keypad = .released)
    {commands : List Command} (hcommands : ∀ cmd ∈ commands, cmd.replacesMachine = false) :
    let left := (c.play commands).1
    let down := keysDown commands
    (∀ key, left.machine.keypad.holds key ↔ key ∈ down) ∧
      (∀ (n : Nat) (x : Fin 16),
        let p := (left.processor.run n).1
        let named := p.machine.v.get x
        (p.Skips (ofDigits 0xE x 0x9 0xE) ↔ named ∈ down) ∧ (p.Passes (ofDigits 0xE x 0x9 0xE) ↔ named ∉ down) ∧
          (p.Skips (ofDigits 0xE x 0xA 0x1) ↔ named ∉ down) ∧ (p.Passes (ofDigits 0xE x 0xA 0x1) ↔ named ∈ down) ∧
          (∀ key, p.Takes (ofDigits 0xF x 0x0 0xA) x key ↔ IsLeast down key) ∧
          (p.Blocks (ofDigits 0xF x 0x0 0xA) ↔ down = ∅)) ∧
      ∀ (p : Processor) (x : Fin 16),
        p.Skips (ofDigits 0xE x 0x9 0xE) ∧ p.Passes (ofDigits 0xE x 0xA 0x1) ∨
          p.Passes (ofDigits 0xE x 0x9 0xE) ∧ p.Skips (ofDigits 0xE x 0xA 0x1) := by
  intro left down
  have hheld := holds_play_of_released hc hkeys hcommands
  refine ⟨hheld, fun n x => ?_, Processor.one_key_instruction_skips⟩
  intro p named
  have hsame : p.machine.keypad = left.machine.keypad := Processor.keypad_run (play_valid hc commands) n
  have hseen (key : UInt8) : p.machine.keypad.holds key ↔ key ∈ down := by
    rw [hsame]
    exact hheld key
  have hpressed := p.movesOn_skipKeyPressed x
  have hreleased := p.movesOn_skipKeyNotPressed x
  refine ⟨?_, ?_, ?_, ?_, Processor.takes_iff hseen x, Processor.blocks_iff hseen x⟩
  · rw [hpressed.skips_iff, hseen]
  · rw [hpressed.passes_iff, hseen]
  · rw [hreleased.skips_iff, Bool.not_eq_true', ← Bool.not_eq_true, hseen]
  · rw [hreleased.passes_iff, Bool.not_eq_true', Bool.not_eq_false, hseen]

/-- V0 names key 9 and V1 no key; the third instruction returns with nothing on the stack. -/
def naming : Console :=
  ((powerOn ⟨4, some 0⟩ (.ofSeed 0)).play [.mount programSlot [0x60, 0x09, 0x61, 0x20, 0x00, 0xEE]]).1

/-- Keys 4 and 9 go down together and key 4 up again; the frame in between fails, and so does the step. -/
def handling : List Command :=
  [.press 0x3, .stepFrame, .setKeys 0x0210, .press 0x20, .step, .release 0x4, .tick]

theorem naming_sees_handled :
    let left := (naming.play handling).1
    let p := left.processor
    (∃ a ∈ (naming.play handling).2, a.succeeded = false) ∧ keysDown handling = {0x9} ∧
      (∀ key, left.machine.keypad.holds key ↔ key = 0x9) ∧
      p.Skips (ofDigits 0xE 0x0 0x9 0xE) ∧ p.Passes (ofDigits 0xE 0x0 0xA 0x1) ∧
      p.Passes (ofDigits 0xE 0x1 0x9 0xE) ∧ p.Skips (ofDigits 0xE 0x1 0xA 0x1) ∧
      p.Takes (ofDigits 0xF 0x2 0x0 0xA) 0x2 0x9 ∧ ¬ p.Blocks (ofDigits 0xF 0x2 0x0 0xA) := by
  intro left p
  have hvalid : naming.machine.Valid := (reachable_play _ _ _).valid
  have hreleased : naming.machine.keypad = .released := by decide +kernel
  have hkeypad : left.machine.keypad = ⟨0x0200⟩ := by decide +kernel
  have hfails : ∃ a ∈ (naming.play handling).2, a.succeeded = false := by decide +kernel
  have hv0 : p.machine.v.get (0 : Fin 16) = 0x9 := by decide +kernel
  have hv1 : p.machine.v.get (1 : Fin 16) = 0x20 := by decide +kernel
  have hcommands : ∀ cmd ∈ handling, cmd.replacesMachine = false := by decide
  obtain ⟨hheld, hseen, -⟩ := keys_down_and_seen hvalid hreleased hcommands
  have hholds (key : UInt8) : left.machine.keypad.holds key ↔ key = 0x9 := by
    rw [hkeypad, Keypad.holds_mk]
    change (2 ^ 9).testBit key.toNat ↔ _
    rw [Nat.testBit_two_pow, decide_eq_true_iff, ← UInt8.toNat_inj]
    exact eq_comm
  have hdown : keysDown handling = {0x9} := Set.ext fun key => (hheld key).symm.trans (hholds key)
  rw [hdown] at hseen
  have hleast : IsLeast ({0x9} : Set UInt8) 0x9 := ⟨rfl, fun key hkey => by rw [Set.mem_singleton_iff.mp hkey]; decide⟩
  have hsome : ({0x9} : Set UInt8) ≠ ∅ := Set.singleton_ne_empty _
  have hnamed : p.machine.v.get (0 : Fin 16) ∈ ({0x9} : Set UInt8) := hv0
  have hunnamed : p.machine.v.get (1 : Fin 16) ∉ ({0x9} : Set UInt8) := by
    rw [hv1]
    decide
  obtain ⟨hskips, -, -, hpasses, -⟩ := hseen 0 0x0
  obtain ⟨-, hpasses', hskips', -⟩ := hseen 0 0x1
  obtain ⟨-, -, -, -, htakes, hblocks⟩ := hseen 0 0x2
  exact ⟨hfails, hdown, hholds, hskips.mpr hnamed, hpasses.mpr hnamed, hpasses'.mpr hunnamed, hskips'.mpr hunnamed,
    (htakes 0x9).mpr hleast, fun hblocked => hsome (hblocks.mp hblocked)⟩

end Console

end Chip8
