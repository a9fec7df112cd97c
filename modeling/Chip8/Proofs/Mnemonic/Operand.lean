import Chip8.Instruction.Mnemonic
import Chip8.Proofs.Text.Hex

namespace Chip8.Instruction

open Text

/-- An operand of a mnemonic. -/
inductive Operand where
  | register (x : UInt8)
  | byte (kk : UInt8)
  | address (addr : UInt16)
  | rows (n : UInt8)
  | word (w : UInt16)
  | index
  | block
  | delay
  | sound
  | key
  | font
  | decimal

namespace Operand

def text : Operand → String
  | .register x => regName x
  | .byte kk => byteOperand kk
  | .address addr => addrOperand addr
  | .rows n => Nat.repr n.toNat
  | .word w => hex 4 w.toNat
  | .index => "I"
  | .block => "[I]"
  | .delay => "DT"
  | .sound => "ST"
  | .key => "K"
  | .font => "F"
  | .decimal => "B"

/-- Reads an operand. Numbers are told apart by their mark and by how many digits they have. -/
def ofText : List Char → Operand
  | 'V' :: digits => .register (.ofNat (hexNumber digits))
  | '0' :: 'x' :: digits =>
    if digits.length ≤ 2 then .byte (.ofNat (hexNumber digits)) else .address (.ofNat (hexNumber digits))
  | ['I'] => .index
  | ['[', 'I', ']'] => .block
  | ['D', 'T'] => .delay
  | ['S', 'T'] => .sound
  | ['K'] => .key
  | ['F'] => .font
  | ['B'] => .decimal
  | digits =>
    if digits.length ≤ 3 then .rows (.ofNat (Nat.ofDigitChars 10 digits 0)) else .word (.ofNat (hexNumber digits))

section Numbers

variable (b : UInt8) (w : UInt16)

theorem toList_regName : (regName b).toList = 'V' :: (hex 1 b.toNat).toList := by
  rw [regName, String.toList_append]
  rfl

theorem toList_byteOperand : (byteOperand b).toList = '0' :: 'x' :: (hex 2 b.toNat).toList := by
  rw [byteOperand, hexMarked, String.toList_append]
  rfl

theorem toList_addrOperand : (addrOperand w).toList = '0' :: 'x' :: (hex 3 w.toNat).toList := by
  rw [addrOperand, hexMarked, String.toList_append]
  rfl

/-- Four hexadecimal digits are no other operand: the only names that long or longer begin otherwise. -/
theorem ofText_hex_word : ofText (hex 4 w.toNat).toList = .word w := by
  have hdigit (c : Char) (hc : c ∈ (hex 4 w.toNat).toList) : (hexValue? c).isSome :=
    isSome_hexValue?_of_mem hc
  have hlength := length_hex_word w
  have hvalue := hexNumber_hex 4 w.toNat
  generalize (hex 4 w.toNat).toList = s at hdigit hlength hvalue
  unfold ofText
  split
  case h_1 => exact absurd (hdigit 'V' List.mem_cons_self) (by decide)
  case h_2 => exact absurd (hdigit 'x' (List.mem_cons_of_mem _ List.mem_cons_self)) (by decide)
  case h_10 =>
    rw [hlength, hvalue, UInt16.ofNat_toNat]
    rfl
  all_goals cases hlength

theorem ofText_repr : ofText (Nat.repr b.toNat).toList = .rows b := by
  rw [Nat.toList_repr]
  have hdigit (c : Char) (hc : c ∈ Nat.toDigits 10 b.toNat) : c.isDigit :=
    Nat.isDigit_of_mem_toDigits (by decide) (by decide) hc
  have hlength : (Nat.toDigits 10 b.toNat).length ≤ 3 :=
    (Nat.length_toDigits_le_iff (by decide) (by decide)).mpr (Nat.lt_trans b.toNat_lt (by decide))
  have hvalue := Nat.ofDigitChars_ten_toDigits (n := b.toNat)
  generalize Nat.toDigits 10 b.toNat = s at hdigit hlength hvalue
  unfold ofText
  split
  case h_2 => exact absurd (hdigit 'x' (List.mem_cons_of_mem _ List.mem_cons_self)) (by decide)
  case h_10 => rw [if_pos hlength, hvalue, UInt8.ofNat_toNat]
  all_goals exact absurd (hdigit _ List.mem_cons_self) (by decide)

end Numbers

theorem ofText_text (o : Operand) : ofText o.text.toList = o := by
  cases o with
  | register x => rw [text, toList_regName, ofText, hexNumber_hex, UInt8.ofNat_toNat]
  | byte kk =>
    rw [text, toList_byteOperand, ofText, if_pos (Nat.le_of_eq (length_hex_byte kk)), hexNumber_hex,
      UInt8.ofNat_toNat]
  | address addr =>
    have hlength : ¬ (hex 3 addr.toNat).toList.length ≤ 2 := by
      rw [toList_hex, List.length_append, List.length_replicate, List.length_map]
      omega
    rw [text, toList_addrOperand, ofText, if_neg hlength, hexNumber_hex, UInt16.ofNat_toNat]
  | rows n => exact ofText_repr n
  | word w => exact ofText_hex_word w
  | index | block | delay | sound | key | font | decimal => rfl

theorem comma_notMem_hex (width n : Nat) : ',' ∉ (hex width n).toList := by
  intro h
  exact absurd (isSome_hexValue?_of_mem h) (by decide)

theorem comma_notMem_text (o : Operand) : ',' ∉ o.text.toList := by
  cases o with
  | register x => simp [text, toList_regName, comma_notMem_hex]
  | byte kk => simp [text, toList_byteOperand, comma_notMem_hex]
  | address addr => simp [text, toList_addrOperand, comma_notMem_hex]
  | rows n =>
    intro h
    rw [text, Nat.toList_repr] at h
    exact absurd (Nat.isDigit_of_mem_toDigits (by decide) (by decide) h) (by decide)
  | word w => exact comma_notMem_hex 4 w.toNat
  | index | block | delay | sound | key | font | decimal => decide

end Operand

end Chip8.Instruction
