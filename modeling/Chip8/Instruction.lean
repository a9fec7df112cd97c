namespace Chip8

/-- An instruction with its operands. The operands that `Instruction.decode` builds fit in four, eight or
twelve bits; the fields themselves admit any byte or word. -/
inductive Instruction where
  | clearDisplay
  | ret
  | jump (addr : UInt16)
  | call (addr : UInt16)
  | skipEqByte (x kk : UInt8)
  | skipNeByte (x kk : UInt8)
  | skipEqReg (x y : UInt8)
  | loadByte (x kk : UInt8)
  | addByte (x kk : UInt8)
  | loadReg (x y : UInt8)
  | or (x y : UInt8)
  | and (x y : UInt8)
  | xor (x y : UInt8)
  | addReg (x y : UInt8)
  | subReg (x y : UInt8)
  | shiftRight (x : UInt8)
  | subFromReg (x y : UInt8)
  | shiftLeft (x : UInt8)
  | skipNeReg (x y : UInt8)
  | loadIndex (addr : UInt16)
  | jumpV0 (addr : UInt16)
  | random (x kk : UInt8)
  | draw (x y n : UInt8)
  | skipKeyPressed (x : UInt8)
  | skipKeyNotPressed (x : UInt8)
  | loadDelay (x : UInt8)
  | waitKey (x : UInt8)
  | setDelay (x : UInt8)
  | setSound (x : UInt8)
  | addIndex (x : UInt8)
  | loadFont (x : UInt8)
  | storeBcd (x : UInt8)
  | storeRegs (x : UInt8)
  | loadRegs (x : UInt8)
  | unrecognized (word : UInt16)
  deriving DecidableEq

namespace Word

def group (word : UInt16) : Nat := word.toNat / 4096

def x (word : UInt16) : UInt8 := .ofNat (word.toNat / 256 % 16)

def y (word : UInt16) : UInt8 := .ofNat (word.toNat / 16 % 16)

def n (word : UInt16) : UInt8 := .ofNat (word.toNat % 16)

def kk (word : UInt16) : UInt8 := .ofNat (word.toNat % 256)

def nnn (word : UInt16) : UInt16 := .ofNat (word.toNat % 4096)

/-- The word whose high byte is `hi` and whose low byte is `lo`. -/
def ofBytes (hi lo : UInt8) : UInt16 := .ofNat (hi.toNat * 256 + lo.toNat)

theorem toNat_x (word : UInt16) : (x word).toNat = word.toNat / 256 % 16 := by
  rw [x, UInt8.toNat_ofNat', Nat.mod_eq_of_lt (by omega)]

theorem toNat_y (word : UInt16) : (y word).toNat = word.toNat / 16 % 16 := by
  rw [y, UInt8.toNat_ofNat', Nat.mod_eq_of_lt (by omega)]

theorem toNat_n (word : UInt16) : (n word).toNat = word.toNat % 16 := by
  rw [n, UInt8.toNat_ofNat', Nat.mod_eq_of_lt (by omega)]

theorem toNat_kk (word : UInt16) : (kk word).toNat = word.toNat % 256 := by
  rw [kk, UInt8.toNat_ofNat', Nat.mod_eq_of_lt (by omega)]

theorem toNat_nnn (word : UInt16) : (nnn word).toNat = word.toNat % 4096 := by
  rw [nnn, UInt16.toNat_ofNat', Nat.mod_eq_of_lt (by omega)]

theorem toNat_ofBytes (hi lo : UInt8) : (ofBytes hi lo).toNat = hi.toNat * 256 + lo.toNat := by
  have := hi.toNat_lt
  have := lo.toNat_lt
  rw [ofBytes, UInt16.toNat_ofNat', Nat.mod_eq_of_lt (by omega)]

end Word

namespace Instruction

/-- Group 0: only two words are instructions. -/
def decodeSystem (word : UInt16) : Instruction :=
  match word.toNat with
  | 0x00E0 => .clearDisplay
  | 0x00EE => .ret
  | _ => .unrecognized word

/-- Group 8: the low four bits choose among the register operations. -/
def decodeArithmetic (word : UInt16) : Instruction :=
  let x := Word.x word
  let y := Word.y word
  match word.toNat % 16 with
  | 0x0 => .loadReg x y
  | 0x1 => .or x y
  | 0x2 => .and x y
  | 0x3 => .xor x y
  | 0x4 => .addReg x y
  | 0x5 => .subReg x y
  | 0x6 => .shiftRight x
  | 0x7 => .subFromReg x y
  | 0xE => .shiftLeft x
  | _ => .unrecognized word

/-- Group E: the low byte chooses between the two key tests. -/
def decodeKey (word : UInt16) : Instruction :=
  match word.toNat % 256 with
  | 0x9E => .skipKeyPressed (Word.x word)
  | 0xA1 => .skipKeyNotPressed (Word.x word)
  | _ => .unrecognized word

/-- Group F: the low byte chooses among timers, index and block transfers. -/
def decodeTransfer (word : UInt16) : Instruction :=
  let x := Word.x word
  match word.toNat % 256 with
  | 0x07 => .loadDelay x
  | 0x0A => .waitKey x
  | 0x15 => .setDelay x
  | 0x18 => .setSound x
  | 0x1E => .addIndex x
  | 0x29 => .loadFont x
  | 0x33 => .storeBcd x
  | 0x55 => .storeRegs x
  | 0x65 => .loadRegs x
  | _ => .unrecognized word

/-- The instruction that a word stands for. A word outside the instruction set becomes `unrecognized`. -/
def decode (word : UInt16) : Instruction :=
  let x := Word.x word
  let y := Word.y word
  let n := Word.n word
  let kk := Word.kk word
  let addr := Word.nnn word
  match Word.group word with
  | 0x0 => decodeSystem word
  | 0x1 => .jump addr
  | 0x2 => .call addr
  | 0x3 => .skipEqByte x kk
  | 0x4 => .skipNeByte x kk
  | 0x5 => if n = 0 then .skipEqReg x y else .unrecognized word
  | 0x6 => .loadByte x kk
  | 0x7 => .addByte x kk
  | 0x8 => decodeArithmetic word
  | 0x9 => if n = 0 then .skipNeReg x y else .unrecognized word
  | 0xA => .loadIndex addr
  | 0xB => .jumpV0 addr
  | 0xC => .random x kk
  | 0xD => .draw x y n
  | 0xE => decodeKey word
  | 0xF => decodeTransfer word
  | _ => .unrecognized word

/-- Only `Cxkk` takes a byte from the random source. -/
def draws : Instruction → Bool
  | .random _ _ => true
  | _ => false

end Instruction

end Chip8
