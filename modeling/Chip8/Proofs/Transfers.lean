import Chip8.Proofs.Registers

namespace Chip8

theorem Memory.eq_of_getElem? {m n : Memory} (h : ∀ a : Nat, m[a]? = n[a]?) : m = n := by
  ext a ha
  have hbyte := h a
  rw [Vector.getElem?_eq_getElem ha, Vector.getElem?_eq_getElem ha, Option.some_inj] at hbyte
  rw [hbyte]

namespace Machine

/-- The registers from the first one to register `x`. -/
def registersTo (m : Machine) (x : Fin 16) : List UInt8 := m.v.toList.take (x.val + 1)

/-- The second machine is the first one with bytes put into memory at the index register, and one instruction
further. -/
structure Puts (m : Machine) (bytes : List UInt8) (s : Machine) : Prop where
  inside : ∀ k < bytes.length, s.memory[m.i.toNat + k]? = bytes[k]?
  outside : ∀ a, ¬ (m.i.toNat ≤ a ∧ a < m.i.toNat + bytes.length) → s.memory[a]? = m.memory[a]?
  rest : s = { m with memory := s.memory, pc := m.pc + 2 }

/-- The second machine is the first one with the registers up to `x` taken from memory at the index register, and
one instruction further. -/
structure Takes (m : Machine) (x : Fin 16) (l : Machine) : Prop where
  taken : ∀ k ≤ x, some (l.v.get k) = m.memory[m.i.toNat + k.val]?
  others : ∀ k, x < k → l.v.get k = m.v.get k
  rest : l = { m with v := l.v, pc := m.pc + 2 }

section Specs

variable (m : Machine) {x k : Fin 16}

theorem length_registersTo : (m.registersTo x).length = x.val + 1 := by
  have hx := x.isLt
  rw [registersTo, List.length_take, Vector.length_toList]
  exact Nat.min_eq_left hx

theorem getElem?_registersTo (hk : k ≤ x) : (m.registersTo x)[k.val]? = some (m.v.get k) := by
  have hlt : k.val < x.val + 1 := Nat.lt_succ_of_le hk
  rw [registersTo, List.getElem?_take_of_lt hlt, Vector.getElem?_toList, getElem?_v]

theorem puts_stored {bytes : List UInt8} (h : m.i.toNat + bytes.length ≤ memorySize) :
    m.Puts bytes (m.stored bytes) := by
  have hmemory (a : Nat) : (m.stored bytes).memory[a]? = (m.memory.put m.i.toNat bytes)[a]? := rfl
  constructor
  case inside =>
    intro k hk
    rw [hmemory, Memory.getElem?_put, if_pos (by omega), Nat.add_sub_cancel_left]
  case outside =>
    intro a ha
    rw [hmemory, Memory.getElem?_put, if_neg fun hin => ha ⟨hin.1, hin.2.1⟩]
  case rest => rfl

theorem get_v_loadRegs (k : Fin 16) :
    (m.after 0 (.loadRegs (Word.digit x))).v.get k =
      (m.memory.bytes m.i.toNat (x.val + 1)).getD k.val (m.v.get k) := by
  have hx := Word.toNat_digit x
  simp only [after, past, goto, hx]
  exact Vector.getElem_mapFinIdx k.isLt

theorem takes_loadRegs (h : m.i.toNat + x.val < memorySize) :
    m.Takes x (m.after 0 (.loadRegs (Word.digit x))) := by
  constructor
  case taken =>
    intro k hk
    have hlt : k.val < x.val + 1 := Nat.lt_succ_of_le hk
    have hbyte := m.memory.getElem?_bytes m.i.toNat hlt
    have hthere := m.memory.getElem?_bytes_of_le h hlt
    rw [get_v_loadRegs, List.getD_eq_getElem?_getD, hbyte, Option.getD_some, ← hbyte, hthere]
  case others =>
    intro k hk
    have hbeyond : (m.memory.bytes m.i.toNat (x.val + 1)).length ≤ k.val := by
      rw [Memory.length_bytes]
      exact hk
    rw [get_v_loadRegs, List.getD_eq_getElem?_getD, List.getElem?_eq_none hbeyond, Option.getD_none]
  case rest => rfl

end Specs

variable {m q s l t : Machine} {bytes : List UInt8} {x : Fin 16}

/-- What was put into memory is what is taken from it. -/
theorem Puts.taken_back (hs : m.Puts bytes s) (hl : q.Takes x l) (hmemory : q.memory = s.memory)
    (hi : q.i = m.i) {k : Fin 16} (hk : k ≤ x) (hlen : k.val < bytes.length) :
    some (l.v.get k) = bytes[k.val]? := by
  rw [hl.taken k hk, hmemory, hi, hs.inside k.val hlen]

/-- A second store over the first leaves nothing else changed. -/
theorem Puts.outside_again {second : List UInt8} (hs : m.Puts bytes s) (ht : q.Puts second t)
    (hmemory : q.memory = s.memory) (hi : q.i = m.i) (hlen : second.length = bytes.length) {a : Nat}
    (ha : ¬ (m.i.toNat ≤ a ∧ a < m.i.toNat + bytes.length)) : t.memory[a]? = m.memory[a]? := by
  rw [← hs.outside a ha, ← hmemory]
  apply ht.outside
  rw [hi, hlen]
  exact ha

/-- Putting back what was taken changes nothing. -/
theorem Takes.put_back (hl : m.Takes x l) (hs : l.Puts (l.registersTo x) s) : s.memory = m.memory := by
  have hi : l.i = m.i := by rw [hl.rest]
  have hmemory : l.memory = m.memory := by rw [hl.rest]
  have hlen := l.length_registersTo (x := x)
  apply Memory.eq_of_getElem?
  intro a
  by_cases ha : m.i.toNat ≤ a ∧ a < m.i.toNat + (l.registersTo x).length
  · obtain ⟨k, rfl⟩ := Nat.exists_eq_add_of_le ha.1
    have hk : k < x.val + 1 := by omega
    let register : Fin 16 := ⟨k, Nat.lt_of_lt_of_le hk x.isLt⟩
    have hin : register ≤ x := Nat.le_of_lt_succ hk
    have hput := hs.inside k (by omega)
    rw [hi] at hput
    rw [hput, ← hl.taken register hin]
    exact l.getElem?_registersTo hin
  · rw [hs.outside a (hi ▸ ha), hmemory]

end Machine

/-- The digits of a byte are digits, and its own. -/
theorem bcd_digits (b : UInt8) :
    (b / 100).toNat ≤ 9 ∧ (b / 10 % 10).toNat ≤ 9 ∧ (b % 10).toNat ≤ 9 ∧
      100 * (b / 100).toNat + 10 * (b / 10 % 10).toNat + (b % 10).toNat = b.toNat := by
  have hb := b.toNat_lt
  have hhundred : (100 : UInt8).toNat = 100 := rfl
  have hten : (10 : UInt8).toNat = 10 := rfl
  rw [UInt8.toNat_mod, UInt8.toNat_mod, UInt8.toNat_div, UInt8.toNat_div, hhundred, hten]
  omega

namespace Processor

open Word (ofDigits)

variable {p : Processor} {x : Fin 16}

theorem executes_storeRegs (h : p.machine.i.toNat + x.val < memorySize) :
    ∃ s, p.Executes (.decode (ofDigits 0xF x 0x5 0x5)) s ∧ p.machine.Puts (p.machine.registersTo x) s := by
  have hlen := p.machine.length_registersTo (x := x)
  have hw := Word.Means.storeRegs (Word.group_ofDigits 0xF x 0x5 0x5) (Word.low_ofDigits 0xF x 0x5 0x5)
  have hf : p.machine.fault? (.storeRegs (Word.digit x)) = none := by
    rw [Machine.fault?, Word.toNat_digit]
    exact if_pos h
  have hafter : p.machine.after 0 (.storeRegs (Word.digit x)) = p.machine.stored (p.machine.registersTo x) := by
    rw [Machine.after, Word.toNat_digit, Machine.registersTo]
  rw [Word.x_ofDigits] at hw
  refine ⟨_, executes_of_means hw rfl rfl hf, ?_⟩
  rw [hafter]
  exact p.machine.puts_stored (by omega)

theorem executes_loadRegs (h : p.machine.i.toNat + x.val < memorySize) :
    ∃ l, p.Executes (.decode (ofDigits 0xF x 0x6 0x5)) l ∧ p.machine.Takes x l := by
  have hw := Word.Means.loadRegs (Word.group_ofDigits 0xF x 0x6 0x5) (Word.low_ofDigits 0xF x 0x6 0x5)
  have hf : p.machine.fault? (.loadRegs (Word.digit x)) = none := by
    rw [Machine.fault?, Word.toNat_digit]
    exact if_pos h
  rw [Word.x_ofDigits] at hw
  exact ⟨_, executes_of_means hw rfl rfl hf, p.machine.takes_loadRegs h⟩

theorem executes_storeBcd (h : p.machine.i.toNat + 2 < memorySize) :
    ∃ s, p.Executes (.decode (ofDigits 0xF x 0x3 0x3)) s ∧ p.machine.Puts (bcd (p.machine.v.get x)) s := by
  have hw := Word.Means.storeBcd (Word.group_ofDigits 0xF x 0x3 0x3) (Word.low_ofDigits 0xF x 0x3 0x3)
  have hf : p.machine.fault? (.storeBcd (Word.digit x)) = none := if_pos h
  have hafter : p.machine.after 0 (.storeBcd (Word.digit x)) =
      p.machine.stored (bcd (p.machine.v.get x)) := by
    rw [Machine.after, Machine.value_digit]
  rw [Word.x_ofDigits] at hw
  refine ⟨_, executes_of_means hw rfl rfl hf, ?_⟩
  rw [hafter]
  exact p.machine.puts_stored h

/-- Registers that were stored can be loaded again whatever became of them, and a second store at the same place
leaves its own values there. -/
theorem store_then_transfer (h : p.machine.i.toNat + x.val < memorySize) :
    ∃ s, p.Executes (.decode (ofDigits 0xF x 0x5 0x5)) s ∧ p.machine.Puts (p.machine.registersTo x) s ∧
      ∀ q : Processor, q.machine.memory = s.memory → q.machine.i = p.machine.i →
        (∃ l, q.Executes (.decode (ofDigits 0xF x 0x6 0x5)) l ∧ q.machine.Takes x l ∧
          ∀ k ≤ x, l.v.get k = p.machine.v.get k) ∧
        ∃ t, q.Executes (.decode (ofDigits 0xF x 0x5 0x5)) t ∧
          q.machine.Puts (q.machine.registersTo x) t ∧
          ∀ a, ¬ (p.machine.i.toNat ≤ a ∧ a ≤ p.machine.i.toNat + x.val) →
            t.memory[a]? = p.machine.memory[a]? := by
  obtain ⟨s, hs, hput⟩ := executes_storeRegs h
  refine ⟨s, hs, hput, fun q hmemory hi => ?_⟩
  have hlen (m : Machine) : (m.registersTo x).length = x.val + 1 := m.length_registersTo
  have hfits : q.machine.i.toNat + x.val < memorySize := by
    rw [hi]
    exact h
  -- load and second store both start from `q`, which has the stored memory and the same index register
  obtain ⟨l, hl, htake⟩ := executes_loadRegs hfits
  obtain ⟨t, ht, hagain⟩ := executes_storeRegs hfits
  refine ⟨⟨l, hl, htake, fun k hk => ?_⟩, t, ht, hagain, fun a ha => ?_⟩
  · have hback : some (l.v.get k) = (p.machine.registersTo x)[k.val]? := by
      refine hput.taken_back htake hmemory hi hk ?_
      rw [hlen]
      exact Nat.lt_succ_of_le hk
    rw [p.machine.getElem?_registersTo hk] at hback
    exact Option.some_inj.mp hback
  · refine hput.outside_again hagain hmemory hi (by rw [hlen, hlen]) ?_
    rw [hlen]
    omega

theorem load_then_store (h : p.machine.i.toNat + x.val < memorySize) :
    ∃ l s, p.Executes (.decode (ofDigits 0xF x 0x6 0x5)) l ∧ p.machine.Takes x l ∧
      (p.on l).Executes (.decode (ofDigits 0xF x 0x5 0x5)) s ∧ s.memory = p.machine.memory ∧
      s.i = p.machine.i := by
  obtain ⟨l, hl, htake⟩ := executes_loadRegs h
  have hi : l.i = p.machine.i := by rw [htake.rest]
  have hfits : l.i.toNat + x.val < memorySize := by
    rw [hi]
    exact h
  obtain ⟨s, hs, hput⟩ := executes_storeRegs (p := p.on l) hfits
  refine ⟨l, s, hl, htake, hs, htake.put_back hput, ?_⟩
  rw [hput.rest]
  exact hi

/-- The decimal digits of a byte go through memory into the first three registers. -/
theorem bcd_then_load (h : p.machine.i.toNat + 2 < memorySize) :
    ∃ s l, p.Executes (.decode (ofDigits 0xF x 0x3 0x3)) s ∧
      (p.on s).Executes (.decode (ofDigits 0xF 0x2 0x6 0x5)) l ∧
      (l.register 0x0 ≤ 9 ∧ l.register 0x1 ≤ 9 ∧ l.register 0x2 ≤ 9 ∧
        100 * l.register 0x0 + 10 * l.register 0x1 + l.register 0x2 = p.machine.register x) ∧
      (∀ a, ¬ (p.machine.i.toNat ≤ a ∧ a ≤ p.machine.i.toNat + 2) →
        l.memory[a]? = p.machine.memory[a]?) ∧
      l.i = p.machine.i := by
  obtain ⟨s, hs, hput⟩ := executes_storeBcd (x := x) h
  have hi : s.i = p.machine.i := by rw [hput.rest]
  have hfits : s.i.toNat + (0x2 : Fin 16).val < memorySize := by
    rw [hi]
    exact h
  obtain ⟨l, hl, htake⟩ := executes_loadRegs (p := p.on s) hfits
  have hdigit (k : Fin 16) (hk : k ≤ 0x2) : some (l.v.get k) = (bcd (p.machine.v.get x))[k.val]? :=
    hput.taken_back htake rfl hi hk (Nat.lt_succ_of_le hk)
  have h0 : l.register 0x0 = (p.machine.v.get x / 100).toNat :=
    congrArg UInt8.toNat (Option.some_inj.mp (hdigit 0x0 (by decide)))
  have h1 : l.register 0x1 = (p.machine.v.get x / 10 % 10).toNat :=
    congrArg UInt8.toNat (Option.some_inj.mp (hdigit 0x1 (by decide)))
  have h2 : l.register 0x2 = (p.machine.v.get x % 10).toNat :=
    congrArg UInt8.toNat (Option.some_inj.mp (hdigit 0x2 (by decide)))
  refine ⟨s, l, hs, hl, ?_, fun a ha => ?_, ?_⟩
  · rw [h0, h1, h2]
    exact bcd_digits _
  · rw [htake.rest]
    exact hput.outside a fun hin => ha ⟨hin.1, Nat.le_of_lt_succ hin.2⟩
  · rw [htake.rest]
    exact hi

/-- Where the registers up to `x` have room at the index register, a load brings back what a store put there,
whatever the registers hold by then; a second store leaves its own values and nothing of the first; and a store
of what was just loaded changes no byte. Where three digits have room, they go through memory into the first
three registers. No transfer touches another byte, another register or the index register. -/
theorem transfers_invert (p : Processor) (x : Fin 16) :
    let m := p.machine
    let store := Instruction.decode (ofDigits 0xF x 0x5 0x5)
    let load := Instruction.decode (ofDigits 0xF x 0x6 0x5)
    (m.i.toNat + x.val < 4096 →
      (∃ s, p.Executes store s ∧ m.Puts (m.registersTo x) s ∧
        ∀ q : Processor, q.machine.memory = s.memory → q.machine.i = m.i →
          (∃ l, q.Executes load l ∧ q.machine.Takes x l ∧ ∀ k ≤ x, l.v.get k = m.v.get k) ∧
          ∃ t, q.Executes store t ∧ q.machine.Puts (q.machine.registersTo x) t ∧
            ∀ a, ¬ (m.i.toNat ≤ a ∧ a ≤ m.i.toNat + x.val) → t.memory[a]? = m.memory[a]?) ∧
      ∃ l s, p.Executes load l ∧ m.Takes x l ∧ (p.on l).Executes store s ∧ s.memory = m.memory ∧
        s.i = m.i) ∧
    (m.i.toNat + 2 < 4096 →
      ∃ s l, p.Executes (.decode (ofDigits 0xF x 0x3 0x3)) s ∧
        (p.on s).Executes (.decode (ofDigits 0xF 0x2 0x6 0x5)) l ∧
        (l.register 0x0 ≤ 9 ∧ l.register 0x1 ≤ 9 ∧ l.register 0x2 ≤ 9 ∧
          100 * l.register 0x0 + 10 * l.register 0x1 + l.register 0x2 = m.register x) ∧
        (∀ a, ¬ (m.i.toNat ≤ a ∧ a ≤ m.i.toNat + 2) → l.memory[a]? = m.memory[a]?) ∧ l.i = m.i) :=
  ⟨fun h => ⟨store_then_transfer h, load_then_store h⟩, bcd_then_load⟩

/-- A processor with a full VF and its index register at the last sixteen bytes of memory. -/
def storingAtEnd : Processor :=
  let m := Machine.powerOn
  { powerOn (.ofSeed 0) with machine := { m with i := 0xFF0, v := m.v.setIfInBounds 0xF 0xFF } }

theorem storingAtEnd_inverts :
    (∃ s l, storingAtEnd.Executes (.decode 0xFF55) s ∧ s.memory[0xFFF]? = some 0xFF ∧
      (storingAtEnd.on { s with v := .replicate 16 7 }).Executes (.decode 0xFF65) l ∧
      l.register 0xF = 255) ∧
    ∃ s l, storingAtEnd.Executes (.decode 0xFF33) s ∧ (storingAtEnd.on s).Executes (.decode 0xF265) l ∧
      100 * l.register 0x0 + 10 * l.register 0x1 + l.register 0x2 = 255 := by
  have hroom : storingAtEnd.machine.i.toNat + (0xF : Fin 16).val < 4096 := by decide
  obtain ⟨htransfer, hbcd⟩ := storingAtEnd.transfers_invert 0xF
  constructor
  · obtain ⟨⟨s, hs, hput, hnext⟩, -⟩ := htransfer hroom
    have hi : s.i = storingAtEnd.machine.i := by rw [hput.rest]
    obtain ⟨⟨l, hl, -, hback⟩, -⟩ := hnext (storingAtEnd.on { s with v := .replicate 16 7 }) rfl hi
    have hlast : s.memory[0xFFF]? = (storingAtEnd.machine.registersTo 0xF)[15]? := hput.inside 15 (by decide)
    exact ⟨s, l, hs, hlast, hl, congrArg UInt8.toNat (hback 0xF (Fin.le_refl _))⟩
  · have hfits : storingAtEnd.machine.i.toNat + 2 < 4096 := by decide
    obtain ⟨s, l, hs, hl, ⟨-, -, -, hdigits⟩, -⟩ := hbcd hfits
    exact ⟨s, l, hs, hl, hdigits⟩

end Processor

end Chip8
