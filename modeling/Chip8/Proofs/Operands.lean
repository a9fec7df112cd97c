import Chip8.Instruction

namespace Chip8

namespace Instruction

/-- The operands are no wider than the fields that decoding takes them from. -/
def Fits : Instruction → Prop
  | .jump addr | .call addr | .loadIndex addr | .jumpV0 addr => addr.toNat < 4096
  | .skipEqByte x _ | .skipNeByte x _ | .loadByte x _ | .addByte x _ | .random x _ => x.toNat < 16
  | .skipEqReg x y | .skipNeReg x y | .loadReg x y | .or x y | .and x y | .xor x y | .addReg x y
  | .subReg x y | .subFromReg x y => x.toNat < 16 ∧ y.toNat < 16
  | .draw x y n => x.toNat < 16 ∧ y.toNat < 16 ∧ n.toNat < 16
  | .shiftRight x | .shiftLeft x | .skipKeyPressed x | .skipKeyNotPressed x | .loadDelay x | .waitKey x
  | .setDelay x | .setSound x | .addIndex x | .loadFont x | .storeBcd x | .storeRegs x | .loadRegs x =>
    x.toNat < 16
  | .clearDisplay | .ret | .unrecognized _ => True

theorem x_lt (word : UInt16) : (Word.x word).toNat < 16 := by
  rw [Word.toNat_x]
  omega

theorem y_lt (word : UInt16) : (Word.y word).toNat < 16 := by
  rw [Word.toNat_y]
  omega

theorem n_lt (word : UInt16) : (Word.n word).toNat < 16 := by
  rw [Word.toNat_n]
  omega

theorem nnn_lt (word : UInt16) : (Word.nnn word).toNat < 4096 := by
  rw [Word.toNat_nnn]
  omega

theorem decodeSystem_fits (word : UInt16) : (decodeSystem word).Fits := by
  unfold decodeSystem
  split <;> trivial

theorem decodeArithmetic_fits (word : UInt16) : (decodeArithmetic word).Fits := by
  have hx := x_lt word
  have hy := y_lt word
  unfold decodeArithmetic
  split <;> simp only [Fits, hx, hy, and_self]

theorem decodeKey_fits (word : UInt16) : (decodeKey word).Fits := by
  have hx := x_lt word
  unfold decodeKey
  split <;> simp only [Fits, hx]

theorem decodeTransfer_fits (word : UInt16) : (decodeTransfer word).Fits := by
  have hx := x_lt word
  unfold decodeTransfer
  split <;> simp only [Fits, hx]

/-- Every decoded instruction has operands that fit. -/
theorem decode_fits (word : UInt16) : (decode word).Fits := by
  have hx := x_lt word
  have hy := y_lt word
  have hn := n_lt word
  have ha := nnn_lt word
  unfold decode
  split
  case h_1 => exact decodeSystem_fits word
  case h_9 => exact decodeArithmetic_fits word
  case h_15 => exact decodeKey_fits word
  case h_16 => exact decodeTransfer_fits word
  case h_6 | h_10 =>
    dsimp only
    split <;> simp only [Fits, hx, hy, and_self]
  all_goals simp only [Fits, hx, hy, hn, ha, and_self]

end Instruction

end Chip8
