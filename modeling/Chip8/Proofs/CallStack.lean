import Chip8.Proofs.Outcome
import Chip8.Proofs.Step

namespace Chip8

namespace Instruction

def isCall : Instruction → Bool
  | .call _ => true
  | _ => false

def isReturn : Instruction → Bool
  | .ret => true
  | _ => false

/-- What an instruction at `pc`, after which the program goes on at `next`, makes of a list of at most 24
return addresses: a call puts one before the others, a return takes the first off and goes on there. -/
def Nests (i : Instruction) (pc next : UInt16) (addresses rest : List UInt16) : Prop :=
  match i with
  | .call addr => addresses.length < stackSize ∧ rest = (pc + 2) :: addresses ∧ next = addr
  | .ret => addresses = next :: rest
  | _ => rest = addresses

end Instruction

namespace Machine

variable {m : Machine}

/-- The return addresses in use, the latest first. -/
def returnAddresses (m : Machine) : List UInt16 := (m.stack.toList.take m.sp).reverse

theorem length_returnAddresses (hm : m.Valid) : m.returnAddresses.length = m.sp := by
  have hs : m.sp ≤ stackSize := hm
  rw [returnAddresses, List.length_reverse, List.length_take, Vector.length_toList]
  exact Nat.min_eq_left hs

theorem pos_of_fault?_ret (h : m.fault? .ret = none) : 0 < m.sp := by
  rcases Nat.eq_zero_or_pos m.sp with hz | hz
  · simp [fault?, hz] at h
  · exact hz

theorem lt_of_fault?_call {addr : UInt16} (h : m.fault? (.call addr) = none) : m.sp < stackSize := by
  rcases Nat.lt_or_ge m.sp stackSize with hl | hl
  · exact hl
  · simp [fault?, Nat.not_lt.mpr hl] at h

/-- A call adds one to the stack pointer and a return takes one off. -/
theorem sp_after_add (byte : UInt8) {i : Instruction} (hi : m.fault? i = none) :
    (m.after byte i).sp + (if i.isReturn then 1 else 0) = m.sp + if i.isCall then 1 else 0 := by
  rw [sp_after]
  cases i with
  | ret => exact Nat.sub_add_cancel (pos_of_fault?_ret hi)
  | _ => rfl

/-- A call writes the slot at the stack pointer, and nothing else writes the stack. -/
theorem stack_after (m : Machine) (byte : UInt8) (i : Instruction) :
    (m.after byte i).stack = if i.isCall then m.stack.setIfInBounds m.sp (m.pc + 2) else m.stack := by
  cases i with
  | waitKey x =>
    simp only [after]
    split <;> rfl
  | _ => rfl

/-- The slots below the stack pointer outlast every instruction. -/
theorem getElem?_stack_after (m : Machine) (byte : UInt8) (i : Instruction) {j : Nat} (hj : j < m.sp) :
    (m.after byte i).stack[j]? = m.stack[j]? := by
  rw [stack_after]
  cases i.isCall with
  | false => rfl
  | true =>
    have hne : m.sp ≠ j := by omega
    simp [Vector.getElem?_setIfInBounds_ne hne]

/-- A call leaves its return address in the slot that it takes. -/
theorem getElem?_stack_call (byte : UInt8) (addr : UInt16) (h : m.sp < stackSize) :
    (m.after byte (.call addr)).stack[m.sp]? = some (m.pc + 2) :=
  Vector.getElem?_setIfInBounds_self_of_lt h

theorem returnAddresses_call (byte : UInt8) (addr : UInt16) (h : m.sp < stackSize) :
    (m.after byte (.call addr)).returnAddresses = (m.pc + 2) :: m.returnAddresses := by
  have hl : m.sp < (m.stack.toList.set m.sp (m.pc + 2)).length := by
    rw [List.length_set, Vector.length_toList]
    exact h
  have ht : (m.stack.toList.set m.sp (m.pc + 2)).take (m.sp + 1) =
      m.stack.toList.take m.sp ++ [m.pc + 2] := by
    rw [List.take_succ_eq_append_getElem hl, List.getElem_set_self, List.take_set_of_le (Nat.le_refl _)]
  simp only [returnAddresses, after, goto, Vector.toList_setIfInBounds, ht, List.reverse_append]
  rfl

theorem returnAddresses_ret (byte : UInt8) (hm : m.Valid) (h : 0 < m.sp) :
    m.returnAddresses = (m.after byte .ret).pc :: (m.after byte .ret).returnAddresses := by
  obtain ⟨d, hd⟩ := Nat.exists_eq_add_of_lt h
  have hs : m.sp ≤ stackSize := hm
  have hl : d < stackSize := by omega
  have hpc : (m.after byte .ret).pc = m.stack[d] := by
    simp [after, goto, hd, hl]
  have hsp : (m.after byte .ret).sp = d := by
    simp [after, goto, hd]
  have ht : m.stack.toList.take (d + 1) = m.stack.toList.take d ++ [m.stack[d]] := by
    rw [List.take_succ_eq_append_getElem (by rw [Vector.length_toList]; exact hl), Vector.getElem_toList]
  have hstack : (m.after byte .ret).stack = m.stack := rfl
  have hm' : m.sp = d + 1 := by omega
  rw [returnAddresses, returnAddresses, hsp, hstack, hpc, hm', ht, List.reverse_append]
  rfl

theorem returnAddresses_other (byte : UInt8) {i : Instruction} (hc : i.isCall = false)
    (hr : i.isReturn = false) : (m.after byte i).returnAddresses = m.returnAddresses := by
  have hsp : (m.after byte i).sp = m.sp := by
    rw [sp_after]
    cases i with
    | call addr => cases hc
    | ret => cases hr
    | _ => rfl
  have hstack : (m.after byte i).stack = m.stack := by
    rw [stack_after, hc]
    rfl
  rw [returnAddresses, returnAddresses, hsp, hstack]

/-- One instruction that raises no fault treats the return addresses as a list. -/
theorem nests_after (hm : m.Valid) (byte : UInt8) {i : Instruction} (hi : m.fault? i = none) :
    i.Nests m.pc (m.after byte i).pc m.returnAddresses (m.after byte i).returnAddresses := by
  cases i with
  | call addr =>
    have h := lt_of_fault?_call hi
    refine ⟨?_, returnAddresses_call byte addr h, rfl⟩
    rw [length_returnAddresses hm]
    exact h
  | ret => exact returnAddresses_ret byte hm (pos_of_fault?_ret hi)
  | _ => exact returnAddresses_other byte rfl rfl

end Machine

namespace Processor

/-- `n` steps on from `s 0`, none of which fails: `s k` is the processor after `k` of them and `ins k` the
instruction that it executes next. -/
def IsRun (n : Nat) (s : Nat → Processor) (ins : Nat → Instruction) : Prop :=
  ∀ k < n, (s k).step = (s (k + 1), .ok (ins k))

namespace IsRun

variable {n : Nat} {s : Nat → Processor} {ins : Nat → Instruction}

/-- A run without its first step. -/
theorem tail (h : IsRun (n + 1) s ins) : IsRun n (fun k => s (k + 1)) (fun k => ins (k + 1)) :=
  fun k hk => h (k + 1) (Nat.succ_lt_succ hk)

theorem valid (h : IsRun n s ins) (h₀ : (s 0).machine.Valid) : ∀ k ≤ n, (s k).machine.Valid := by
  intro k hk
  induction k with
  | zero => exact h₀
  | succ k ih =>
    have hv := valid_step (ih (Nat.le_of_succ_le hk))
    rw [h k hk] at hv
    exact hv

/-- What one step of a run does: the instruction raises no fault and leaves its machine. -/
theorem machine_succ (h : IsRun n s ins) (h₀ : (s 0).machine.Valid) {k : Nat} (hk : k < n) :
    (s k).machine.fault? (ins k) = none ∧
      ∃ byte, (s (k + 1)).machine = (s k).machine.after byte (ins k) := by
  have hv := h.valid h₀ k (Nat.le_of_lt hk)
  obtain ⟨hf, hq, word, hw, hi⟩ := (step_eq_ok_iff hv).mp (h k hk)
  refine ⟨?_, _, congrArg machine hq⟩
  rw [hi]
  exact fault?_of_failure? hw hf

/-- Every instruction of a run lies in memory with both its bytes. -/
theorem pc_add_two_le (h : IsRun n s ins) (h₀ : (s 0).machine.Valid) {k : Nat} (hk : k < n) :
    (s k).machine.pc.toNat + 2 ≤ memorySize := by
  have hv := h.valid h₀ k (Nat.le_of_lt hk)
  obtain ⟨-, -, word, hw, -⟩ := (step_eq_ok_iff hv).mp (h k hk)
  by_cases hin : (s k).machine.pc.toNat + 2 ≤ memorySize
  · exact hin
  · simp [fetch, Machine.fetch, hin] at hw

/-- Along a run, the stack pointer is where it was plus the calls less the returns. -/
theorem sp_add_returns (h : IsRun n s ins) (h₀ : (s 0).machine.Valid) : ∀ k ≤ n,
    (s k).machine.sp + (List.range k).countP (fun j => (ins j).isReturn) =
      (s 0).machine.sp + (List.range k).countP (fun j => (ins j).isCall) := by
  intro k hk
  induction k with
  | zero => rfl
  | succ k ih =>
    have hk' := ih (Nat.le_of_succ_le hk)
    obtain ⟨hf, byte, hm⟩ := h.machine_succ h₀ hk
    have hsp := Machine.sp_after_add byte hf
    rw [← hm] at hsp
    rw [List.range_succ, List.countP_append, List.countP_append, List.countP_singleton,
      List.countP_singleton]
    omega

/-- A run that keeps the stack pointer at `d` or above leaves the slots below `d` alone. -/
theorem stack_below (h : IsRun n s ins) (h₀ : (s 0).machine.Valid) {d : Nat}
    (hd : ∀ k < n, d ≤ (s k).machine.sp) : ∀ k ≤ n, ∀ j < d,
      (s k).machine.stack[j]? = (s 0).machine.stack[j]? := by
  intro k hk j hj
  induction k with
  | zero => rfl
  | succ k ih =>
    obtain ⟨-, byte, hm⟩ := h.machine_succ h₀ hk
    have hlt : j < (s k).machine.sp := Nat.lt_of_lt_of_le hj (hd k hk)
    calc (s (k + 1)).machine.stack[j]?
        = ((s k).machine.after byte (ins k)).stack[j]? := by rw [hm]
      _ = (s k).machine.stack[j]? := Machine.getElem?_stack_after _ byte _ hlt
      _ = (s 0).machine.stack[j]? := ih (Nat.le_of_succ_le hk)

/-- What follows a call, while it has not returned: the slot that it took holds its return address. -/
theorem stack_of_call (h : IsRun n s ins) (h₀ : (s 0).machine.Valid) {target : UInt16}
    (hc : ins 0 = .call target) (hd : ∀ k, 1 ≤ k → k < n → (s 0).machine.sp + 1 ≤ (s k).machine.sp) :
    ∀ k, 1 ≤ k → k ≤ n →
      (s k).machine.stack[(s 0).machine.sp]? = some ((s 0).machine.pc + 2) := by
  intro k hk hkn
  obtain ⟨n, rfl⟩ : ∃ n', n = n' + 1 := Nat.exists_eq_add_one.mpr (Nat.lt_of_lt_of_le hk hkn)
  obtain ⟨k, rfl⟩ : ∃ k', k = k' + 1 := Nat.exists_eq_add_one.mpr hk
  have h₁ := h.valid h₀ 1 (Nat.le_add_left 1 n)
  -- after the call, the slot that it took lies below the stack pointer for good
  have hbelow := h.tail.stack_below h₁ (fun j hj => hd (j + 1) (Nat.le_add_left 1 j) (Nat.succ_lt_succ hj))
  obtain ⟨hf, byte, hm⟩ := h.machine_succ h₀ (Nat.succ_pos n)
  rw [hc] at hf hm
  calc (s (k + 1)).machine.stack[(s 0).machine.sp]?
      = (s 1).machine.stack[(s 0).machine.sp]? :=
        hbelow k (Nat.le_of_succ_le_succ hkn) _ (Nat.lt_succ_self _)
    _ = ((s 0).machine.after byte (.call target)).stack[(s 0).machine.sp]? := by rw [hm]
    _ = some ((s 0).machine.pc + 2) :=
        Machine.getElem?_stack_call byte target (Machine.lt_of_fault?_call hf)

/-- A return takes the program counter from the slot that it frees. -/
theorem pc_of_ret (h : IsRun (n + 1) s ins) (h₀ : (s 0).machine.Valid) (hr : ins n = .ret) :
    (s (n + 1)).machine.sp + 1 = (s n).machine.sp ∧
      (s (n + 1)).machine.pc = (s n).machine.stack[(s (n + 1)).machine.sp]?.getD 0 := by
  obtain ⟨hf, byte, hm⟩ := h.machine_succ h₀ (Nat.lt_succ_self n)
  rw [hr] at hf hm
  rw [hm]
  exact ⟨Nat.sub_add_cancel (Machine.pos_of_fault?_ret hf), rfl⟩

/-- A run that begins with a call, stays above its depth and ends with the return to that depth goes on past
the call, and the slots below have never changed. -/
theorem call_then_return (h : IsRun n s ins) (h₀ : (s 0).machine.Valid) (hn : 2 ≤ n) {target : UInt16}
    (hc : ins 0 = .call target) (hd : ∀ k, 1 ≤ k → k < n → (s 0).machine.sp + 1 ≤ (s k).machine.sp)
    (hr : ins (n - 1) = .ret) (he : (s n).machine.sp = (s 0).machine.sp) :
    (s n).machine.pc.toNat = (s 0).machine.pc.toNat + 2 ∧
      ∀ k ≤ n, ∀ j < (s 0).machine.sp, (s k).machine.stack[j]? = (s 0).machine.stack[j]? := by
  obtain ⟨n, rfl⟩ : ∃ n', n = n' + 1 := Nat.exists_eq_add_one.mpr (Nat.lt_of_lt_of_le Nat.two_pos hn)
  refine ⟨?_, h.stack_below h₀ fun k hk => ?_⟩
  -- the return reads the slot of the call, and the call lay in memory, so its address does not wrap
  · obtain ⟨-, hpc⟩ := h.pc_of_ret h₀ hr
    have hslot := h.stack_of_call h₀ hc hd n (Nat.le_of_succ_le_succ hn) (Nat.le_succ n)
    have hin := h.pc_add_two_le h₀ (Nat.succ_pos n)
    unfold memorySize at hin
    rw [hpc, he, hslot, Option.getD_some, UInt16.toNat_add]
    have h2 : (2 : UInt16).toNat = 2 := rfl
    omega
  · rcases Nat.eq_zero_or_pos k with rfl | hk₀
    · exact Nat.le_refl _
    · exact Nat.le_of_succ_le (hd k hk₀ hk)

end IsRun

/-- In every run of steps that all succeed, the stack is a list of at most 24 return addresses, on which calls
push and from which returns pop, and the stack pointer is where it was plus the calls less the returns. And
where the run begins with a call and ends with the return that first comes back to the depth before it, the
program goes on at the instruction after the call, and no slot below that depth changed on the way. -/
theorem calls_and_returns_nest {n : Nat} {s : Nat → Processor} {ins : Nat → Instruction}
    (h₀ : (s 0).machine.Valid) (h : IsRun n s ins) :
    (∀ k ≤ n, (s k).machine.sp ≤ 24 ∧
        (s k).machine.returnAddresses.length = (s k).machine.sp ∧
        (s k).machine.sp + (List.range k).countP (fun j => (ins j).isReturn) =
          (s 0).machine.sp + (List.range k).countP (fun j => (ins j).isCall)) ∧
      (∀ k < n, (ins k).Nests (s k).machine.pc (s (k + 1)).machine.pc
        (s k).machine.returnAddresses (s (k + 1)).machine.returnAddresses) ∧
      (∀ target, 2 ≤ n → ins 0 = .call target →
        (∀ k, 1 ≤ k → k < n → (s 0).machine.sp + 1 ≤ (s k).machine.sp) →
        ins (n - 1) = .ret → (s n).machine.sp = (s 0).machine.sp →
        (s n).machine.pc.toNat = (s 0).machine.pc.toNat + 2 ∧
          ∀ k ≤ n, ∀ j < (s 0).machine.sp, (s k).machine.stack[j]? = (s 0).machine.stack[j]?) := by
  refine ⟨fun k hk => ?_, fun k hk => ?_, fun target hn hc hd hr he => ?_⟩
  · have hv := h.valid h₀ k hk
    exact ⟨hv, Machine.length_returnAddresses hv, h.sp_add_returns h₀ k hk⟩
  · have hv := h.valid h₀ k (Nat.le_of_lt hk)
    obtain ⟨hf, byte, hm⟩ := h.machine_succ h₀ hk
    rw [hm]
    exact Machine.nests_after hv byte hf
  · exact h.call_then_return h₀ hn hc hd hr he

/-- The instructions of a call, a second call within it, and their two returns. -/
def nestedCalls : Nat → Instruction
  | 0 => .call 0x204
  | 1 => .call 0x206
  | _ => .ret

/-- A processor with `nestedCalls` before it, and the processors after each of them. -/
def nestedRun : Nat → Processor
  | 0 =>
    { powerOn (.ofSeed 0) with
      machine :=
        { Machine.powerOn with
          memory := Machine.powerOn.memory.put 0x200 [0x22, 0x04, 0, 0, 0x22, 0x06, 0x00, 0xEE] } }
  | k + 1 => (nestedRun k).after (nestedCalls k)

theorem nestedRun_nests :
    IsRun 4 nestedRun nestedCalls ∧
      (nestedRun 4).machine.sp + 2 = (nestedRun 0).machine.sp + 2 ∧
      (nestedRun 4).machine.pc.toNat = (nestedRun 0).machine.pc.toNat + 2 := by
  have h₀ : (nestedRun 0).machine.Valid := Nat.zero_le _
  have h : IsRun 4 nestedRun nestedCalls := by
    intro k hk
    have hv : ∀ k < 4, (nestedRun k).machine.Valid ∧ (nestedRun k).failure? = none ∧
        (nestedRun k).fetch.toOption.map Instruction.decode = some (nestedCalls k) := by decide +kernel
    obtain ⟨hv, hf, hw⟩ := hv k hk
    obtain ⟨word, hw, hi⟩ := Option.map_eq_some_iff.mp hw
    exact (step_eq_ok_iff hv).mpr ⟨hf, rfl, word, Outcome.eq_ok_of_toOption hw, hi.symm⟩
  have hd : ∀ k < 4, 1 ≤ k → (nestedRun 0).machine.sp + 1 ≤ (nestedRun k).machine.sp := by decide +kernel
  obtain ⟨hcount, -, hreturn⟩ := calls_and_returns_nest h₀ h
  obtain ⟨hpc, -⟩ := hreturn 0x204 (by decide) rfl (fun k h₁ h₄ => hd k h₄ h₁) rfl (by decide +kernel)
  exact ⟨h, (hcount 4 (Nat.le_refl 4)).2.2, hpc⟩

end Processor

end Chip8
