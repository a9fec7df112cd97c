import Chip8.Proofs.InstructionTable
import Chip8.Proofs.Step

namespace Chip8

/-- Words that read or write memory at the index register, with the number of bytes. -/
inductive Word.Accesses (word : UInt16) : Nat → Prop
  | sprite (hg : group word = 0xD) : Accesses word (word.toNat % 16)
  | digits (hg : group word = 0xF) (hk : word.toNat % 256 = 0x33) : Accesses word 3
  | storing (hg : group word = 0xF) (hk : word.toNat % 256 = 0x55) :
    Accesses word (word.toNat / 256 % 16 + 1)
  | loading (hg : group word = 0xF) (hk : word.toNat % 256 = 0x65) :
    Accesses word (word.toNat / 256 % 16 + 1)

/-- The fault that a word raises: a return with an empty stack, a call with a full one, or an access that
reaches beyond memory. -/
inductive Machine.Raises (m : Machine) (word : UInt16) : Fault → Prop
  | underflow (hw : word = 0x00EE) (hs : m.sp = 0) : Raises m word .stackUnderflow
  | overflow (hg : Word.group word = 0x2) (hs : m.sp = 24) : Raises m word (.stackOverflow 24)
  | outside {len : Nat} (ha : Word.Accesses word len) (hl : 4096 < m.i.toNat + len) :
    Raises m word (.memoryOutOfBounds (max m.i.toNat 4096))

theorem spriteHeight_n (word : UInt16) : spriteHeight (Word.n word) = word.toNat % 16 := by
  rw [spriteHeight, Word.toNat_n]
  omega

namespace Machine

variable {m : Machine} {word : UInt16} {f : Fault}

theorem outside?_eq_some_iff {len : Nat} :
    m.outside? len = some f ↔ 4096 < m.i.toNat + len ∧ f = .memoryOutOfBounds (max m.i.toNat 4096) := by
  unfold outside? Memory.outside memorySize
  by_cases h : m.i.toNat + len ≤ 4096
  · simp [h, Nat.not_lt.mpr h]
  · simp [h, Nat.lt_of_not_le h, eq_comm]

theorem raises_of_fault? (hm : m.Valid) (h : m.fault? (.decode word) = some f) : m.Raises word f := by
  have hs : m.sp ≤ stackSize := hm
  have hx := Word.toNat_x word
  have hrow := Word.means_decode word
  generalize Instruction.decode word = i at h hrow
  cases hrow with
  | ret hw =>
    by_cases hempty : m.sp = 0
    · rw [fault?, if_pos hempty] at h
      cases h
      exact .underflow hw hempty
    · rw [fault?, if_neg hempty] at h
      cases h
  | call hg =>
    by_cases hl : m.sp < stackSize
    · rw [fault?, if_pos hl] at h
      cases h
    · have hfull : m.sp = 24 := Nat.le_antisymm hs (Nat.le_of_not_lt hl)
      rw [fault?, if_neg hl] at h
      cases h
      rw [hfull]
      exact .overflow hg hfull
  | draw hg =>
    rw [fault?, spriteHeight_n] at h
    obtain ⟨hl, rfl⟩ := outside?_eq_some_iff.mp h
    exact .outside (.sprite hg) hl
  | storeBcd hg hk =>
    obtain ⟨hl, rfl⟩ := outside?_eq_some_iff.mp h
    exact .outside (.digits hg hk) hl
  | storeRegs hg hk =>
    rw [fault?, hx] at h
    obtain ⟨hl, rfl⟩ := outside?_eq_some_iff.mp h
    exact .outside (.storing hg hk) hl
  | loadRegs hg hk =>
    rw [fault?, hx] at h
    obtain ⟨hl, rfl⟩ := outside?_eq_some_iff.mp h
    exact .outside (.loading hg hk) hl
  -- no other row can fault
  | _ => cases h

theorem fault?_of_raises (h : m.Raises word f) : m.fault? (.decode word) = some f := by
  cases h with
  | underflow hw hs => rw [(Word.Means.ret hw).decode_eq, fault?, if_pos hs]
  | overflow hg hs =>
    have hl : ¬ m.sp < stackSize := Nat.not_lt.mpr (Nat.le_of_eq hs.symm)
    rw [(Word.Means.call hg).decode_eq, fault?, if_neg hl, hs]
  | outside ha hl =>
    have hx := Word.toNat_x word
    have hout := outside?_eq_some_iff.mpr ⟨hl, rfl⟩
    cases ha with
    | sprite hg =>
      rw [(Word.Means.draw hg).decode_eq, fault?, spriteHeight_n]
      exact hout
    | digits hg hk =>
      rw [(Word.Means.storeBcd hg hk).decode_eq]
      exact hout
    | storing hg hk =>
      rw [(Word.Means.storeRegs hg hk).decode_eq, fault?, hx]
      exact hout
    | loading hg hk =>
      rw [(Word.Means.loadRegs hg hk).decode_eq, fault?, hx]
      exact hout

theorem fault?_decode_eq_some_iff (hm : m.Valid) :
    m.fault? (.decode word) = some f ↔ m.Raises word f :=
  ⟨raises_of_fault? hm, fault?_of_raises⟩

theorem fault?_decode_eq_none_iff (hm : m.Valid) :
    m.fault? (.decode word) = none ↔ ∀ f, ¬ m.Raises word f := by
  rw [Option.eq_none_iff_forall_ne_some]
  exact forall_congr' fun f => not_congr (fault?_decode_eq_some_iff hm)

end Machine

namespace Processor

variable {p q : Processor}

theorem fetch_eq_error_iff {e : Failure} :
    p.fetch = .error e ↔ 0xFFF ≤ p.machine.pc.toNat ∧ e = .fetchOutOfBounds p.machine.pc := by
  unfold fetch Machine.fetch memorySize
  by_cases h : p.machine.pc.toNat + 2 ≤ 4096
  · have hlow : ¬ 0xFFF ≤ p.machine.pc.toNat := by omega
    simp [h, hlow]
  · have hhigh : 0xFFF ≤ p.machine.pc.toNat := by omega
    simp [h, hhigh, eq_comm]

theorem fetch_eq_ok_iff {word : UInt16} :
    p.fetch = .ok word ↔ ∃ hi lo, p.machine.memory[p.machine.pc.toNat]? = some hi ∧
      p.machine.memory[p.machine.pc.toNat + 1]? = some lo ∧ word = Word.ofBytes hi lo := by
  unfold fetch Machine.fetch
  by_cases h : p.machine.pc.toNat + 2 ≤ memorySize
  · have h₀ : p.machine.pc.toNat < memorySize := by omega
    have h₁ : p.machine.pc.toNat + 1 < memorySize := by omega
    simp [h, h₀, h₁, eq_comm]
  · have h₁ : memorySize ≤ p.machine.pc.toNat + 1 := by omega
    simp [h, Vector.getElem?_eq_none h₁]

theorem step_snd_eq_error_iff (hp : p.machine.Valid) {e : Failure} :
    p.step.2 = .error e ↔ p.failure? = some e := by
  constructor
  · intro h
    have hs : p.step = (p.step.1, .error e) := Prod.ext rfl h
    exact ((step_eq_error_iff hp).mp hs).2
  · intro h
    rw [(step_eq_error_iff hp).mpr ⟨rfl, h⟩]

theorem failure?_eq_fetchOutOfBounds_iff {pc : UInt16} :
    p.failure? = some (.fetchOutOfBounds pc) ↔ 0xFFF ≤ p.machine.pc.toNat ∧ pc = p.machine.pc := by
  unfold failure?
  cases hf : p.fetch with
  | error e =>
    obtain ⟨hpc, rfl⟩ := fetch_eq_error_iff.mp hf
    simp [hpc, eq_comm]
  | ok word =>
    have hpc : ¬ 0xFFF ≤ p.machine.pc.toNat := by
      intro h
      rw [fetch_eq_error_iff.mpr ⟨h, rfl⟩] at hf
      cases hf
    dsimp only
    split
    · simp [hpc]
    · split <;> simp [hpc]

theorem failure?_eq_fault_iff (hp : p.machine.Valid) {pc word : UInt16} {f : Fault} :
    p.failure? = some (.fault pc word f) ↔
      p.fetch = .ok word ∧ pc = p.machine.pc ∧ p.machine.Raises word f := by
  unfold failure?
  cases hf : p.fetch with
  | error e =>
    obtain ⟨-, rfl⟩ := fetch_eq_error_iff.mp hf
    simp
  | ok w =>
    dsimp only
    cases hr : p.machine.fault? (.decode w) with
    | some g =>
      have hg := (Machine.fault?_decode_eq_some_iff hp).mp hr
      constructor
      · intro h
        cases h
        exact ⟨rfl, rfl, hg⟩
      -- what the word raises is what the decoder finds, so there is no second fault
      · rintro ⟨hw, rfl, hraises⟩
        cases hw
        have hsame := Machine.fault?_of_raises hraises
        rw [hr] at hsame
        cases hsame
        rfl
    | none =>
      have hnone := (Machine.fault?_decode_eq_none_iff hp).mp hr
      constructor
      · intro h
        dsimp only at h
        split at h <;> cases h
      · rintro ⟨hw, -, hraises⟩
        cases hw
        exact absurd hraises (hnone f)

/-- The one crash is of an instruction that raises no fault, at the last number that the counter holds. -/
theorem failure?_eq_crash_iff (hp : p.machine.Valid) {k : Crash} :
    p.failure? = some (.crash k) ↔
      k = .counterFull ∧ p.executed.toNat + 1 = UInt64.size ∧
        ∃ word, p.fetch = .ok word ∧ ∀ f, ¬ p.machine.Raises word f := by
  have hlt := p.executed.toNat_lt_size
  unfold failure?
  cases hf : p.fetch with
  | error e =>
    obtain ⟨-, rfl⟩ := fetch_eq_error_iff.mp hf
    simp
  | ok w =>
    dsimp only
    cases hr : p.machine.fault? (.decode w) with
    | some g =>
      have hg := (Machine.fault?_decode_eq_some_iff hp).mp hr
      simp only [Option.some.injEq, reduceCtorEq, false_iff, not_and]
      rintro - - ⟨word, hw, hnone⟩
      cases hw
      exact hnone g hg
    | none =>
      have hnone := (Machine.fault?_decode_eq_none_iff hp).mp hr
      dsimp only
      by_cases hroom : p.executed.toNat + 1 < UInt64.size
      · have hne : p.executed.toNat + 1 ≠ UInt64.size := Nat.ne_of_lt hroom
        rw [if_pos hroom]
        constructor
        · intro h
          cases h
        · rintro ⟨-, he, -⟩
          exact absurd he hne
      · have he : p.executed.toNat + 1 = UInt64.size := Nat.le_antisymm hlt (Nat.le_of_not_lt hroom)
        rw [if_neg hroom]
        constructor
        · intro h
          cases h
          exact ⟨rfl, he, w, rfl, hnone⟩
        · rintro ⟨rfl, -⟩
          rfl

theorem failure?_eq_none_iff (hp : p.machine.Valid) {word : UInt16} (hw : p.fetch = .ok word) :
    p.failure? = none ↔ p.executed.toNat + 1 < UInt64.size ∧ ∀ f, ¬ p.machine.Raises word f := by
  unfold failure?
  rw [← Machine.fault?_decode_eq_none_iff hp, hw]
  dsimp only
  cases p.machine.fault? (.decode word) with
  | some f => simp
  | none => simp

theorem exists_fetch (hpc : p.machine.pc.toNat < 0xFFF) : ∃ word, p.fetch = .ok word := by
  cases hf : p.fetch with
  | ok word => exact ⟨word, rfl⟩
  | error e =>
    have hhigh := (fetch_eq_error_iff.mp hf).1
    omega

theorem step_snd_eq_ok_iff (hp : p.machine.Valid) {word : UInt16} (hw : p.fetch = .ok word)
    {i : Instruction} :
    p.step.2 = .ok i ↔
      i = .decode word ∧ p.executed.toNat + 1 < UInt64.size ∧ ∀ f, ¬ p.machine.Raises word f := by
  rw [← failure?_eq_none_iff hp hw]
  constructor
  · intro h
    have hs : p.step = (p.step.1, .ok i) := Prod.ext rfl h
    obtain ⟨hn, -, w, hw', rfl⟩ := (step_eq_ok_iff hp).mp hs
    rw [hw] at hw'
    cases hw'
    exact ⟨rfl, hn⟩
  · rintro ⟨rfl, hn⟩
    rw [(step_eq_ok_iff hp).mpr ⟨hn, rfl, word, hw, rfl⟩]

theorem toNat_executed_of_ok (hp : p.machine.Valid) {i : Instruction} (h : p.step = (q, .ok i)) :
    q.executed.toNat = p.executed.toNat + 1 := by
  obtain ⟨hn, rfl, word, hw, -⟩ := (step_eq_ok_iff hp).mp h
  have hroom := ((failure?_eq_none_iff hp hw).mp hn).1
  have hone : (1 : UInt64).toNat = 1 := rfl
  change (p.executed + 1).toNat = _
  rw [UInt64.toNat_add, hone]
  exact Nat.mod_eq_of_lt hroom

/-- A step on a valid machine fails to fetch exactly if no whole word lies at the program counter. Otherwise it
faults exactly as the digits of the word there say, with the word and its place; and in all other cases, while
the counter has room, it executes the instruction of the word and counts it. -/
theorem step_fails_exactly (hp : p.machine.Valid) :
    (∀ pc, p.step.2 = .error (.fetchOutOfBounds pc) ↔
        0xFFF ≤ p.machine.pc.toNat ∧ pc = p.machine.pc) ∧
      (p.machine.pc.toNat < 0xFFF →
        ∃ hi lo, p.machine.memory[p.machine.pc.toNat]? = some hi ∧
          p.machine.memory[p.machine.pc.toNat + 1]? = some lo ∧
          let word := Word.ofBytes hi lo
          (∀ pc opcode f, p.step.2 = .error (.fault pc opcode f) ↔
              pc = p.machine.pc ∧ opcode = word ∧ p.machine.Raises word f) ∧
            (∀ i, p.step.2 = .ok i ↔
              i = .decode word ∧ p.executed.toNat + 1 < UInt64.size ∧ ∀ f, ¬ p.machine.Raises word f) ∧
            (∀ i, p.step.2 = .ok i → p.step.1.executed.toNat = p.executed.toNat + 1)) := by
  refine ⟨fun pc => ?_, fun hpc => ?_⟩
  · rw [step_snd_eq_error_iff hp]
    exact failure?_eq_fetchOutOfBounds_iff
  · obtain ⟨word, hw⟩ := exists_fetch hpc
    obtain ⟨hi, lo, hhi, hlo, rfl⟩ := fetch_eq_ok_iff.mp hw
    refine ⟨hi, lo, hhi, hlo, fun pc opcode f => ?_, fun i => ?_, fun i hi => ?_⟩
    · rw [step_snd_eq_error_iff hp, failure?_eq_fault_iff hp, hw]
      constructor
      · rintro ⟨hword, hplace, hf⟩
        cases hword
        exact ⟨hplace, rfl, hf⟩
      · rintro ⟨hplace, rfl, hf⟩
        exact ⟨rfl, hplace, hf⟩
    · exact step_snd_eq_ok_iff hp hw
    · exact toNat_executed_of_ok hp (Prod.ext rfl hi)

/-- A processor about to draw a sprite, as high as `n` says, from the last five bytes of memory. -/
def drawingAtEnd (n : UInt8) : Processor :=
  { powerOn (.ofSeed 0) with
    machine :=
      { Machine.powerOn with memory := Machine.powerOn.memory.put 0x200 [0xD0, 0x10 + n], i := 0xFFB } }

theorem drawingAtEnd_fails_exactly :
    (drawingAtEnd 5).step.2 = .ok (.draw 0 1 5) ∧
      (drawingAtEnd 6).step.2 = .error (.fault 0x200 0xD016 (.memoryOutOfBounds 0x1000)) := by
  have hvalid (n : UInt8) : (drawingAtEnd n).machine.Valid := Nat.zero_le _
  constructor
  · obtain ⟨hi, lo, hhi, hlo, -, hok, -⟩ := (step_fails_exactly (hvalid 5)).2 (by decide)
    have hhi' : (drawingAtEnd 5).machine.memory[0x200]? = some 0xD0 := by decide +kernel
    have hlo' : (drawingAtEnd 5).machine.memory[0x201]? = some 0x15 := by decide +kernel
    cases hhi.symm.trans hhi'
    cases hlo.symm.trans hlo'
    refine (hok _).mpr ⟨by decide, by decide, fun f hf => ?_⟩
    have hnone : (drawingAtEnd 5).machine.fault? (.decode 0xD015) = none := by decide
    exact (Machine.fault?_decode_eq_none_iff (hvalid 5)).mp hnone f hf
  · obtain ⟨hi, lo, hhi, hlo, hfault, -⟩ := (step_fails_exactly (hvalid 6)).2 (by decide)
    have hhi' : (drawingAtEnd 6).machine.memory[0x200]? = some 0xD0 := by decide +kernel
    have hlo' : (drawingAtEnd 6).machine.memory[0x201]? = some 0x16 := by decide +kernel
    cases hhi.symm.trans hhi'
    cases hlo.symm.trans hlo'
    exact (hfault _ _ _).mpr ⟨rfl, rfl, .outside (.sprite rfl) (by decide)⟩

end Processor

end Chip8
