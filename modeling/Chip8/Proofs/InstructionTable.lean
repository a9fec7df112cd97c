import Chip8.Proofs.Operands

namespace Chip8

namespace Word

def digit (d : Fin 16) : UInt8 := .ofNat d.val

def ofDigits (g x y n : Fin 16) : UInt16 := .ofNat (g.val * 4096 + x.val * 256 + y.val * 16 + n.val)

/-- Words outside the instruction set: no row of their group has their last digit or their low byte. -/
inductive Unused (word : UInt16) : Prop
  | system (hg : group word = 0x0) (hclear : word ≠ 0x00E0) (hret : word ≠ 0x00EE)
  | comparison (hg : group word = 0x5 ∨ group word = 0x9) (hn : word.toNat % 16 ≠ 0)
  | arithmetic (hg : group word = 0x8) (hn : word.toNat % 16 ∉ [0x0, 0x1, 0x2, 0x3, 0x4, 0x5, 0x6, 0x7, 0xE])
  | key (hg : group word = 0xE) (hk : word.toNat % 256 ∉ [0x9E, 0xA1])
  | transfer (hg : group word = 0xF)
    (hk : word.toNat % 256 ∉ [0x07, 0x0A, 0x15, 0x18, 0x1E, 0x29, 0x33, 0x55, 0x65])

/-- The instruction table: which words mean which instruction, row by row and by their digits. -/
inductive Means (word : UInt16) : Instruction → Prop
  | clearDisplay (hw : word = 0x00E0) : Means word .clearDisplay
  | ret (hw : word = 0x00EE) : Means word .ret
  | jump (hg : group word = 0x1) : Means word (.jump (nnn word))
  | call (hg : group word = 0x2) : Means word (.call (nnn word))
  | skipEqByte (hg : group word = 0x3) : Means word (.skipEqByte (x word) (kk word))
  | skipNeByte (hg : group word = 0x4) : Means word (.skipNeByte (x word) (kk word))
  | skipEqReg (hg : group word = 0x5) (hn : word.toNat % 16 = 0x0) : Means word (.skipEqReg (x word) (y word))
  | loadByte (hg : group word = 0x6) : Means word (.loadByte (x word) (kk word))
  | addByte (hg : group word = 0x7) : Means word (.addByte (x word) (kk word))
  | loadReg (hg : group word = 0x8) (hn : word.toNat % 16 = 0x0) : Means word (.loadReg (x word) (y word))
  | or (hg : group word = 0x8) (hn : word.toNat % 16 = 0x1) : Means word (.or (x word) (y word))
  | and (hg : group word = 0x8) (hn : word.toNat % 16 = 0x2) : Means word (.and (x word) (y word))
  | xor (hg : group word = 0x8) (hn : word.toNat % 16 = 0x3) : Means word (.xor (x word) (y word))
  | addReg (hg : group word = 0x8) (hn : word.toNat % 16 = 0x4) : Means word (.addReg (x word) (y word))
  | subReg (hg : group word = 0x8) (hn : word.toNat % 16 = 0x5) : Means word (.subReg (x word) (y word))
  | shiftRight (hg : group word = 0x8) (hn : word.toNat % 16 = 0x6) : Means word (.shiftRight (x word))
  | subFromReg (hg : group word = 0x8) (hn : word.toNat % 16 = 0x7) : Means word (.subFromReg (x word) (y word))
  | shiftLeft (hg : group word = 0x8) (hn : word.toNat % 16 = 0xE) : Means word (.shiftLeft (x word))
  | skipNeReg (hg : group word = 0x9) (hn : word.toNat % 16 = 0x0) : Means word (.skipNeReg (x word) (y word))
  | loadIndex (hg : group word = 0xA) : Means word (.loadIndex (nnn word))
  | jumpV0 (hg : group word = 0xB) : Means word (.jumpV0 (nnn word))
  | random (hg : group word = 0xC) : Means word (.random (x word) (kk word))
  | draw (hg : group word = 0xD) : Means word (.draw (x word) (y word) (n word))
  | skipKeyPressed (hg : group word = 0xE) (hk : word.toNat % 256 = 0x9E) : Means word (.skipKeyPressed (x word))
  | skipKeyNotPressed (hg : group word = 0xE) (hk : word.toNat % 256 = 0xA1) :
    Means word (.skipKeyNotPressed (x word))
  | loadDelay (hg : group word = 0xF) (hk : word.toNat % 256 = 0x07) : Means word (.loadDelay (x word))
  | waitKey (hg : group word = 0xF) (hk : word.toNat % 256 = 0x0A) : Means word (.waitKey (x word))
  | setDelay (hg : group word = 0xF) (hk : word.toNat % 256 = 0x15) : Means word (.setDelay (x word))
  | setSound (hg : group word = 0xF) (hk : word.toNat % 256 = 0x18) : Means word (.setSound (x word))
  | addIndex (hg : group word = 0xF) (hk : word.toNat % 256 = 0x1E) : Means word (.addIndex (x word))
  | loadFont (hg : group word = 0xF) (hk : word.toNat % 256 = 0x29) : Means word (.loadFont (x word))
  | storeBcd (hg : group word = 0xF) (hk : word.toNat % 256 = 0x33) : Means word (.storeBcd (x word))
  | storeRegs (hg : group word = 0xF) (hk : word.toNat % 256 = 0x55) : Means word (.storeRegs (x word))
  | loadRegs (hg : group word = 0xF) (hk : word.toNat % 256 = 0x65) : Means word (.loadRegs (x word))
  | unrecognized (hw : Unused word) : Means word (.unrecognized word)

section Decoding

variable {word : UInt16}

theorem n_eq_zero_iff : n word = 0 ↔ word.toNat % 16 = 0 := by
  rw [← UInt8.toNat_inj, toNat_n]
  rfl

theorem means_decodeSystem (hg : group word = 0x0) : Means word (Instruction.decodeSystem word) := by
  unfold Instruction.decodeSystem
  split
  next hw => exact .clearDisplay (UInt16.toNat_inj.mp hw)
  next hw => exact .ret (UInt16.toNat_inj.mp hw)
  next hclear hret =>
    refine .unrecognized (.system hg ?_ ?_)
    · rintro rfl
      exact hclear rfl
    · rintro rfl
      exact hret rfl

theorem means_decodeArithmetic (hg : group word = 0x8) : Means word (Instruction.decodeArithmetic word) := by
  unfold Instruction.decodeArithmetic
  dsimp only
  split
  next hn => exact .loadReg hg hn
  next hn => exact .or hg hn
  next hn => exact .and hg hn
  next hn => exact .xor hg hn
  next hn => exact .addReg hg hn
  next hn => exact .subReg hg hn
  next hn => exact .shiftRight hg hn
  next hn => exact .subFromReg hg hn
  next hn => exact .shiftLeft hg hn
  next =>
    refine .unrecognized (.arithmetic hg ?_)
    simp only [List.mem_cons, List.not_mem_nil, or_false, not_or]
    exact ⟨‹_›, ‹_›, ‹_›, ‹_›, ‹_›, ‹_›, ‹_›, ‹_›, ‹_›⟩

theorem means_decodeKey (hg : group word = 0xE) : Means word (Instruction.decodeKey word) := by
  unfold Instruction.decodeKey
  split
  next hk => exact .skipKeyPressed hg hk
  next hk => exact .skipKeyNotPressed hg hk
  next =>
    refine .unrecognized (.key hg ?_)
    simp only [List.mem_cons, List.not_mem_nil, or_false, not_or]
    exact ⟨‹_›, ‹_›⟩

theorem means_decodeTransfer (hg : group word = 0xF) : Means word (Instruction.decodeTransfer word) := by
  unfold Instruction.decodeTransfer
  dsimp only
  split
  next hk => exact .loadDelay hg hk
  next hk => exact .waitKey hg hk
  next hk => exact .setDelay hg hk
  next hk => exact .setSound hg hk
  next hk => exact .addIndex hg hk
  next hk => exact .loadFont hg hk
  next hk => exact .storeBcd hg hk
  next hk => exact .storeRegs hg hk
  next hk => exact .loadRegs hg hk
  next =>
    refine .unrecognized (.transfer hg ?_)
    simp only [List.mem_cons, List.not_mem_nil, or_false, not_or]
    exact ⟨‹_›, ‹_›, ‹_›, ‹_›, ‹_›, ‹_›, ‹_›, ‹_›, ‹_›⟩

theorem means_decode (word : UInt16) : Means word (.decode word) := by
  have hlt : group word < 16 := by
    have := word.toNat_lt
    unfold group
    omega
  unfold Instruction.decode
  dsimp only
  split
  next hg => exact means_decodeSystem hg
  next hg => exact .jump hg
  next hg => exact .call hg
  next hg => exact .skipEqByte hg
  next hg => exact .skipNeByte hg
  next hg =>
    split
    next hn => exact .skipEqReg hg (n_eq_zero_iff.mp hn)
    next hn => exact .unrecognized (.comparison (.inl hg) (mt n_eq_zero_iff.mpr hn))
  next hg => exact .loadByte hg
  next hg => exact .addByte hg
  next hg => exact means_decodeArithmetic hg
  next hg =>
    split
    next hn => exact .skipNeReg hg (n_eq_zero_iff.mp hn)
    next hn => exact .unrecognized (.comparison (.inr hg) (mt n_eq_zero_iff.mpr hn))
  next hg => exact .loadIndex hg
  next hg => exact .jumpV0 hg
  next hg => exact .random hg
  next hg => exact .draw hg
  next hg => exact means_decodeKey hg
  next hg => exact means_decodeTransfer hg
  -- there is no group beyond the sixteenth
  next =>
    simp only [imp_false] at *
    omega

theorem decode_of_unused (h : Unused word) : Instruction.decode word = .unrecognized word := by
  cases h with
  | system hg hclear hret =>
    simp only [Instruction.decode, hg, Instruction.decodeSystem]
    split
    next hw => exact absurd (UInt16.toNat_inj.mp hw) hclear
    next hw => exact absurd (UInt16.toNat_inj.mp hw) hret
    next => rfl
  | comparison hg hn =>
    have hn' : ¬ n word = 0 := mt n_eq_zero_iff.mp hn
    rcases hg with hg | hg
    · simp only [Instruction.decode, hg, hn', if_false]
    · simp only [Instruction.decode, hg, hn', if_false]
  | arithmetic hg hn =>
    simp only [List.mem_cons, List.not_mem_nil, or_false, not_or] at hn
    simp only [Instruction.decode, hg, Instruction.decodeArithmetic]
    split
    case h_10 => rfl
    all_goals omega
  | key hg hk =>
    simp only [List.mem_cons, List.not_mem_nil, or_false, not_or] at hk
    simp only [Instruction.decode, hg, Instruction.decodeKey]
    split
    case h_3 => rfl
    all_goals omega
  | transfer hg hk =>
    simp only [List.mem_cons, List.not_mem_nil, or_false, not_or] at hk
    simp only [Instruction.decode, hg, Instruction.decodeTransfer]
    split
    case h_10 => rfl
    all_goals omega

theorem Means.decode_eq {i : Instruction} (h : Means word i) : Instruction.decode word = i := by
  cases h with
  | clearDisplay hw =>
    subst hw
    rfl
  | ret hw =>
    subst hw
    rfl
  | skipEqReg hg hn | skipNeReg hg hn =>
    simp only [Instruction.decode, hg, n_eq_zero_iff.mpr hn, if_true]
  | loadReg hg hn | or hg hn | and hg hn | xor hg hn | addReg hg hn | subReg hg hn | shiftRight hg hn
  | subFromReg hg hn | shiftLeft hg hn =>
    simp only [Instruction.decode, hg, Instruction.decodeArithmetic, hn]
  | skipKeyPressed hg hk | skipKeyNotPressed hg hk =>
    simp only [Instruction.decode, hg, Instruction.decodeKey, hk]
  | loadDelay hg hk | waitKey hg hk | setDelay hg hk | setSound hg hk | addIndex hg hk | loadFont hg hk
  | storeBcd hg hk | storeRegs hg hk | loadRegs hg hk =>
    simp only [Instruction.decode, hg, Instruction.decodeTransfer, hk]
  | unrecognized hw => exact decode_of_unused hw
  | _ hg => simp only [Instruction.decode, hg]

theorem means_iff {i : Instruction} : Means word i ↔ Instruction.decode word = i :=
  ⟨Means.decode_eq, fun h => h ▸ means_decode word⟩

end Decoding

section Digits

variable (g x y n : Fin 16)

theorem toNat_digit : (digit x).toNat = x.val := by
  have := x.isLt
  rw [digit, UInt8.toNat_ofNat', Nat.mod_eq_of_lt (by omega)]

theorem toNat_ofDigits :
    (ofDigits g x y n).toNat = g.val * 4096 + x.val * 256 + y.val * 16 + n.val := by
  have := g.isLt
  have := x.isLt
  have := y.isLt
  have := n.isLt
  rw [ofDigits, UInt16.toNat_ofNat', Nat.mod_eq_of_lt (by omega)]

theorem group_ofDigits : group (ofDigits g x y n) = g.val := by
  have := x.isLt
  have := y.isLt
  have := n.isLt
  rw [group, toNat_ofDigits]
  omega

theorem last_ofDigits : (ofDigits g x y n).toNat % 16 = n.val := by
  have := n.isLt
  rw [toNat_ofDigits]
  omega

theorem low_ofDigits : (ofDigits g x y n).toNat % 256 = y.val * 16 + n.val := by
  have := y.isLt
  have := n.isLt
  rw [toNat_ofDigits]
  omega

theorem x_ofDigits : Word.x (ofDigits g x y n) = digit x := by
  have := x.isLt
  have := y.isLt
  have := n.isLt
  apply UInt8.toNat_inj.mp
  rw [toNat_x, toNat_digit, toNat_ofDigits]
  omega

theorem y_ofDigits : Word.y (ofDigits g x y n) = digit y := by
  have := y.isLt
  have := n.isLt
  apply UInt8.toNat_inj.mp
  rw [toNat_y, toNat_digit, toNat_ofDigits]
  omega

theorem n_ofDigits : Word.n (ofDigits g x y n) = digit n := by
  apply UInt8.toNat_inj.mp
  rw [toNat_n, toNat_digit, last_ofDigits]

end Digits

end Word

end Chip8
