import Chip8.Proofs.InstructionTable

namespace Chip8

namespace Instruction

/-- The shifts, which ignore the digit `y`. -/
def Shifts : Instruction → Prop
  | .shiftRight _ | .shiftLeft _ => True
  | _ => False

/-- The word of an instruction as far as the operands determine it: where a digit is ignored it is zero. -/
def code : Instruction → Nat
  | .clearDisplay => 0x00E0
  | .ret => 0x00EE
  | .jump addr => 0x1000 + addr.toNat
  | .call addr => 0x2000 + addr.toNat
  | .skipEqByte x kk => 0x3000 + x.toNat * 0x100 + kk.toNat
  | .skipNeByte x kk => 0x4000 + x.toNat * 0x100 + kk.toNat
  | .skipEqReg x y => 0x5000 + x.toNat * 0x100 + y.toNat * 0x10
  | .loadByte x kk => 0x6000 + x.toNat * 0x100 + kk.toNat
  | .addByte x kk => 0x7000 + x.toNat * 0x100 + kk.toNat
  | .loadReg x y => 0x8000 + x.toNat * 0x100 + y.toNat * 0x10
  | .or x y => 0x8001 + x.toNat * 0x100 + y.toNat * 0x10
  | .and x y => 0x8002 + x.toNat * 0x100 + y.toNat * 0x10
  | .xor x y => 0x8003 + x.toNat * 0x100 + y.toNat * 0x10
  | .addReg x y => 0x8004 + x.toNat * 0x100 + y.toNat * 0x10
  | .subReg x y => 0x8005 + x.toNat * 0x100 + y.toNat * 0x10
  | .shiftRight x => 0x8006 + x.toNat * 0x100
  | .subFromReg x y => 0x8007 + x.toNat * 0x100 + y.toNat * 0x10
  | .shiftLeft x => 0x800E + x.toNat * 0x100
  | .skipNeReg x y => 0x9000 + x.toNat * 0x100 + y.toNat * 0x10
  | .loadIndex addr => 0xA000 + addr.toNat
  | .jumpV0 addr => 0xB000 + addr.toNat
  | .random x kk => 0xC000 + x.toNat * 0x100 + kk.toNat
  | .draw x y n => 0xD000 + x.toNat * 0x100 + y.toNat * 0x10 + n.toNat
  | .skipKeyPressed x => 0xE09E + x.toNat * 0x100
  | .skipKeyNotPressed x => 0xE0A1 + x.toNat * 0x100
  | .loadDelay x => 0xF007 + x.toNat * 0x100
  | .waitKey x => 0xF00A + x.toNat * 0x100
  | .setDelay x => 0xF015 + x.toNat * 0x100
  | .setSound x => 0xF018 + x.toNat * 0x100
  | .addIndex x => 0xF01E + x.toNat * 0x100
  | .loadFont x => 0xF029 + x.toNat * 0x100
  | .storeBcd x => 0xF033 + x.toNat * 0x100
  | .storeRegs x => 0xF055 + x.toNat * 0x100
  | .loadRegs x => 0xF065 + x.toNat * 0x100
  | .unrecognized word => word.toNat

end Instruction

namespace Word

theorem digit_injective {x x' : Fin 16} (h : digit x = digit x') : x = x' := by
  have hx := congrArg UInt8.toNat h
  rw [toNat_digit, toNat_digit] at hx
  exact Fin.ext hx

theorem exists_eq_ofDigits (word : UInt16) : ∃ g x y n, word = ofDigits g x y n := by
  have hword := word.toNat_lt
  refine ⟨⟨word.toNat / 4096, by omega⟩, ⟨word.toNat / 256 % 16, by omega⟩, ⟨word.toNat / 16 % 16, by omega⟩,
    ⟨word.toNat % 16, by omega⟩, UInt16.toNat_inj.mp ?_⟩
  rw [toNat_ofDigits]
  dsimp only
  omega

section Meaning

variable {word : UInt16} {i : Instruction}

theorem Means.toNat_eq_code (h : Means word i) (hs : ¬ i.Shifts) : word.toNat = i.code := by
  cases h with
  | clearDisplay hw | ret hw =>
    subst hw
    rfl
  | shiftRight | shiftLeft => exact absurd trivial hs
  | unrecognized => rfl
  | _ =>
    -- the conditions of the row, and the operands, are digits of the word
    simp only [group] at *
    simp only [Instruction.code, toNat_x, toNat_y, toNat_n, toNat_kk, toNat_nnn]
    omega

theorem exists_ofDigits_of_last {n : Fin 16} (hg : group word = 0x8) (hn : word.toNat % 16 = n.val) :
    ∃ x' y, x word = digit x' ∧ word = ofDigits 0x8 x' y n := by
  obtain ⟨g, x', y, n', rfl⟩ := exists_eq_ofDigits word
  rw [group_ofDigits] at hg
  rw [last_ofDigits] at hn
  obtain rfl : g = 0x8 := Fin.ext hg
  obtain rfl : n' = n := Fin.ext hn
  exact ⟨x', y, x_ofDigits 0x8 x' y n', rfl⟩

theorem Means.shiftRight_ofDigits {a : UInt8} (h : Means word (.shiftRight a)) :
    ∃ x y, a = digit x ∧ word = ofDigits 0x8 x y 0x6 := by
  cases h with
  | shiftRight hg hn => exact exists_ofDigits_of_last hg hn

theorem Means.shiftLeft_ofDigits {a : UInt8} (h : Means word (.shiftLeft a)) :
    ∃ x y, a = digit x ∧ word = ofDigits 0x8 x y 0xE := by
  cases h with
  | shiftLeft hg hn => exact exists_ofDigits_of_last hg hn

end Meaning

section Digits

variable (x y : Fin 16)

theorem decode_shiftRight : Instruction.decode (ofDigits 0x8 x y 0x6) = .shiftRight (digit x) := by
  have hw := Means.shiftRight (group_ofDigits 0x8 x y 0x6) (last_ofDigits 0x8 x y 0x6)
  rw [hw.decode_eq, x_ofDigits]

theorem decode_shiftLeft : Instruction.decode (ofDigits 0x8 x y 0xE) = .shiftLeft (digit x) := by
  have hw := Means.shiftLeft (group_ofDigits 0x8 x y 0xE) (last_ofDigits 0x8 x y 0xE)
  rw [hw.decode_eq, x_ofDigits]

end Digits

/-- Two words for the same shift of the same register; only the ignored digit may differ. -/
inductive SameShift : UInt16 → UInt16 → Prop
  | right (x y y' : Fin 16) : SameShift (ofDigits 0x8 x y 0x6) (ofDigits 0x8 x y' 0x6)
  | left (x y y' : Fin 16) : SameShift (ofDigits 0x8 x y 0xE) (ofDigits 0x8 x y' 0xE)

theorem Means.eq_or_sameShift {word other : UInt16} {i : Instruction} (h : Means word i) (h' : Means other i) :
    word = other ∨ SameShift word other := by
  cases i with
  | shiftRight a =>
    obtain ⟨x, y, ha, rfl⟩ := h.shiftRight_ofDigits
    obtain ⟨x', y', ha', rfl⟩ := h'.shiftRight_ofDigits
    obtain rfl := digit_injective (ha.symm.trans ha')
    exact .inr (.right x y y')
  | shiftLeft a =>
    obtain ⟨x, y, ha, rfl⟩ := h.shiftLeft_ofDigits
    obtain ⟨x', y', ha', rfl⟩ := h'.shiftLeft_ofDigits
    obtain rfl := digit_injective (ha.symm.trans ha')
    exact .inr (.left x y y')
  | _ => exact .inl (UInt16.toNat_inj.mp ((h.toNat_eq_code id).trans (h'.toNat_eq_code id).symm))

end Word

/-- Two words decode alike only if they are equal or the same shift of the same register. -/
theorem Instruction.decode_eq_decode_iff (word other : UInt16) :
    decode word = decode other ↔ word = other ∨ Word.SameShift word other := by
  constructor
  · intro h
    have hother := Word.means_decode other
    rw [← h] at hother
    exact (Word.means_decode word).eq_or_sameShift hother
  · rintro (rfl | ⟨x, y, y'⟩ | ⟨x, y, y'⟩)
    · rfl
    · rw [Word.decode_shiftRight, Word.decode_shiftRight]
    · rw [Word.decode_shiftLeft, Word.decode_shiftLeft]

end Chip8
