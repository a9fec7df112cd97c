import Chip8.Instruction
import Chip8.Text.Hex

namespace Chip8.Instruction

open Text

def regName (x : UInt8) : String := "V" ++ hex 1 x.toNat

def byteOperand (kk : UInt8) : String := hexMarked 2 kk.toNat

def addrOperand (addr : UInt16) : String := hexMarked 3 addr.toNat

def mnemonic : Instruction → String
  | .clearDisplay => "CLS"
  | .ret => "RET"
  | .jump addr => "JP " ++ addrOperand addr
  | .call addr => "CALL " ++ addrOperand addr
  | .skipEqByte x kk => "SE " ++ regName x ++ ", " ++ byteOperand kk
  | .skipNeByte x kk => "SNE " ++ regName x ++ ", " ++ byteOperand kk
  | .skipEqReg x y => "SE " ++ regName x ++ ", " ++ regName y
  | .loadByte x kk => "LD " ++ regName x ++ ", " ++ byteOperand kk
  | .addByte x kk => "ADD " ++ regName x ++ ", " ++ byteOperand kk
  | .loadReg x y => "LD " ++ regName x ++ ", " ++ regName y
  | .or x y => "OR " ++ regName x ++ ", " ++ regName y
  | .and x y => "AND " ++ regName x ++ ", " ++ regName y
  | .xor x y => "XOR " ++ regName x ++ ", " ++ regName y
  | .addReg x y => "ADD " ++ regName x ++ ", " ++ regName y
  | .subReg x y => "SUB " ++ regName x ++ ", " ++ regName y
  | .shiftRight x => "SHR " ++ regName x
  | .subFromReg x y => "SUBN " ++ regName x ++ ", " ++ regName y
  | .shiftLeft x => "SHL " ++ regName x
  | .skipNeReg x y => "SNE " ++ regName x ++ ", " ++ regName y
  | .loadIndex addr => "LD I, " ++ addrOperand addr
  | .jumpV0 addr => "JP V0, " ++ addrOperand addr
  | .random x kk => "RND " ++ regName x ++ ", " ++ byteOperand kk
  | .draw x y n => "DRW " ++ regName x ++ ", " ++ regName y ++ ", " ++ Nat.repr n.toNat
  | .skipKeyPressed x => "SKP " ++ regName x
  | .skipKeyNotPressed x => "SKNP " ++ regName x
  | .loadDelay x => "LD " ++ regName x ++ ", DT"
  | .waitKey x => "LD " ++ regName x ++ ", K"
  | .setDelay x => "LD DT, " ++ regName x
  | .setSound x => "LD ST, " ++ regName x
  | .addIndex x => "ADD I, " ++ regName x
  | .loadFont x => "LD F, " ++ regName x
  | .storeBcd x => "LD B, " ++ regName x
  | .storeRegs x => "LD [I], " ++ regName x
  | .loadRegs x => "LD " ++ regName x ++ ", [I]"
  | .unrecognized word => "??? " ++ hex 4 word.toNat

end Chip8.Instruction
