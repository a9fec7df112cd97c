import Chip8.Proofs.Encoding
import Chip8.Proofs.Mnemonic.Operand

namespace Chip8

namespace Instruction

/-- What a mnemonic consists of. -/
structure Written where
  operation : String
  operands : List Operand

namespace Written

def spaced (o : Operand) : List Char := ' ' :: o.text.toList

/-- The operands as they are written, with a comma between two of them. -/
def operandsText (os : List Operand) : List Char := [','].intercalate (os.map spaced)

def text (w : Written) : List Char := w.operation.toList ++ operandsText w.operands

/-- Reads the operands: each ends at the next comma. -/
def readOperands (s : List Char) : List Operand :=
  (s.splitOn ',').filterMap fun piece => piece.tail?.map Operand.ofText

/-- Reads a mnemonic: the operation ends at the first blank. -/
def ofText (s : List Char) : Written :=
  ⟨String.ofList (s.takeWhile (· ≠ ' ')), readOperands (s.dropWhile (· ≠ ' '))⟩

theorem readOperands_operandsText (os : List Operand) : readOperands (operandsText os) = os := by
  by_cases h : os = []
  · rw [h]
    rfl
  have hcomma (piece : List Char) (hpiece : piece ∈ os.map spaced) : ',' ∉ piece := by
    obtain ⟨o, -, rfl⟩ := List.mem_map.mp hpiece
    simp [spaced, Operand.comma_notMem_text]
  have hread (o : Operand) : (spaced o).tail?.map Operand.ofText = some o := congrArg some (Operand.ofText_text o)
  rw [readOperands, operandsText, List.splitOn_intercalate ',' hcomma (by simpa using h), List.filterMap_map]
  simp only [Function.comp_def, hread, List.filterMap_some]

theorem takeWhile_operandsText (os : List Operand) : (operandsText os).takeWhile (· ≠ ' ') = [] := by
  rcases os with _ | ⟨o, _ | ⟨o', os⟩⟩ <;> rfl

theorem ofText_text {w : Written} (h : ' ' ∉ w.operation.toList) : ofText w.text = w := by
  have hoperation (c : Char) (hc : c ∈ w.operation.toList) : decide (c ≠ ' ') = true :=
    decide_eq_true fun heq => h (heq ▸ hc)
  have htake := takeWhile_operandsText w.operands
  have hdrop : (operandsText w.operands).dropWhile (· ≠ ' ') = operandsText w.operands := by
    have := List.takeWhile_append_dropWhile (p := (· ≠ ' ')) (l := operandsText w.operands)
    rwa [htake] at this
  rw [ofText, text, List.takeWhile_append_of_pos hoperation, List.dropWhile_append_of_pos hoperation, htake, hdrop,
    List.append_nil, String.ofList_toList, readOperands_operandsText]

end Written

/-- The operation and the operands of each instruction. -/
def written : Instruction → Written
  | .clearDisplay => ⟨"CLS", []⟩
  | .ret => ⟨"RET", []⟩
  | .jump addr => ⟨"JP", [.address addr]⟩
  | .call addr => ⟨"CALL", [.address addr]⟩
  | .skipEqByte x kk => ⟨"SE", [.register x, .byte kk]⟩
  | .skipNeByte x kk => ⟨"SNE", [.register x, .byte kk]⟩
  | .skipEqReg x y => ⟨"SE", [.register x, .register y]⟩
  | .loadByte x kk => ⟨"LD", [.register x, .byte kk]⟩
  | .addByte x kk => ⟨"ADD", [.register x, .byte kk]⟩
  | .loadReg x y => ⟨"LD", [.register x, .register y]⟩
  | .or x y => ⟨"OR", [.register x, .register y]⟩
  | .and x y => ⟨"AND", [.register x, .register y]⟩
  | .xor x y => ⟨"XOR", [.register x, .register y]⟩
  | .addReg x y => ⟨"ADD", [.register x, .register y]⟩
  | .subReg x y => ⟨"SUB", [.register x, .register y]⟩
  | .shiftRight x => ⟨"SHR", [.register x]⟩
  | .subFromReg x y => ⟨"SUBN", [.register x, .register y]⟩
  | .shiftLeft x => ⟨"SHL", [.register x]⟩
  | .skipNeReg x y => ⟨"SNE", [.register x, .register y]⟩
  | .loadIndex addr => ⟨"LD", [.index, .address addr]⟩
  | .jumpV0 addr => ⟨"JP", [.register 0, .address addr]⟩
  | .random x kk => ⟨"RND", [.register x, .byte kk]⟩
  | .draw x y n => ⟨"DRW", [.register x, .register y, .rows n]⟩
  | .skipKeyPressed x => ⟨"SKP", [.register x]⟩
  | .skipKeyNotPressed x => ⟨"SKNP", [.register x]⟩
  | .loadDelay x => ⟨"LD", [.register x, .delay]⟩
  | .waitKey x => ⟨"LD", [.register x, .key]⟩
  | .setDelay x => ⟨"LD", [.delay, .register x]⟩
  | .setSound x => ⟨"LD", [.sound, .register x]⟩
  | .addIndex x => ⟨"ADD", [.index, .register x]⟩
  | .loadFont x => ⟨"LD", [.font, .register x]⟩
  | .storeBcd x => ⟨"LD", [.decimal, .register x]⟩
  | .storeRegs x => ⟨"LD", [.block, .register x]⟩
  | .loadRegs x => ⟨"LD", [.register x, .block]⟩
  | .unrecognized word => ⟨"???", [.word word]⟩

/-- The instruction that is written with an operation and operands. -/
def ofWritten? : Written → Option Instruction
  | ⟨"CLS", []⟩ => some .clearDisplay
  | ⟨"RET", []⟩ => some .ret
  | ⟨"JP", [.address addr]⟩ => some (.jump addr)
  | ⟨"JP", [.register _, .address addr]⟩ => some (.jumpV0 addr)
  | ⟨"CALL", [.address addr]⟩ => some (.call addr)
  | ⟨"SE", [.register x, .byte kk]⟩ => some (.skipEqByte x kk)
  | ⟨"SE", [.register x, .register y]⟩ => some (.skipEqReg x y)
  | ⟨"SNE", [.register x, .byte kk]⟩ => some (.skipNeByte x kk)
  | ⟨"SNE", [.register x, .register y]⟩ => some (.skipNeReg x y)
  | ⟨"OR", [.register x, .register y]⟩ => some (.or x y)
  | ⟨"AND", [.register x, .register y]⟩ => some (.and x y)
  | ⟨"XOR", [.register x, .register y]⟩ => some (.xor x y)
  | ⟨"ADD", [.register x, .byte kk]⟩ => some (.addByte x kk)
  | ⟨"ADD", [.register x, .register y]⟩ => some (.addReg x y)
  | ⟨"ADD", [.index, .register x]⟩ => some (.addIndex x)
  | ⟨"SUB", [.register x, .register y]⟩ => some (.subReg x y)
  | ⟨"SUBN", [.register x, .register y]⟩ => some (.subFromReg x y)
  | ⟨"SHR", [.register x]⟩ => some (.shiftRight x)
  | ⟨"SHL", [.register x]⟩ => some (.shiftLeft x)
  | ⟨"RND", [.register x, .byte kk]⟩ => some (.random x kk)
  | ⟨"DRW", [.register x, .register y, .rows n]⟩ => some (.draw x y n)
  | ⟨"SKP", [.register x]⟩ => some (.skipKeyPressed x)
  | ⟨"SKNP", [.register x]⟩ => some (.skipKeyNotPressed x)
  | ⟨"LD", [.register x, .byte kk]⟩ => some (.loadByte x kk)
  | ⟨"LD", [.register x, .register y]⟩ => some (.loadReg x y)
  | ⟨"LD", [.index, .address addr]⟩ => some (.loadIndex addr)
  | ⟨"LD", [.register x, .delay]⟩ => some (.loadDelay x)
  | ⟨"LD", [.register x, .key]⟩ => some (.waitKey x)
  | ⟨"LD", [.delay, .register x]⟩ => some (.setDelay x)
  | ⟨"LD", [.sound, .register x]⟩ => some (.setSound x)
  | ⟨"LD", [.font, .register x]⟩ => some (.loadFont x)
  | ⟨"LD", [.decimal, .register x]⟩ => some (.storeBcd x)
  | ⟨"LD", [.block, .register x]⟩ => some (.storeRegs x)
  | ⟨"LD", [.register x, .block]⟩ => some (.loadRegs x)
  | ⟨"???", [.word word]⟩ => some (.unrecognized word)
  | _ => none

theorem ofWritten?_written (i : Instruction) : ofWritten? i.written = some i := by
  cases i <;> rfl

theorem blank_notMem_operation (i : Instruction) : ' ' ∉ i.written.operation.toList := by
  cases i <;> simp [written]

theorem toList_mnemonic (i : Instruction) : i.mnemonic.toList = i.written.text := by
  have hzero : (regName 0).toList = ['V', '0'] := by decide
  cases i <;>
    simp [mnemonic, written, Written.text, Written.operandsText, Written.spaced, Operand.text,
      List.intercalate_cons_cons, hzero]

def ofMnemonic? (s : String) : Option Instruction := ofWritten? (.ofText s.toList)

theorem ofMnemonic?_mnemonic (i : Instruction) : ofMnemonic? i.mnemonic = some i := by
  rw [ofMnemonic?, toList_mnemonic, Written.ofText_text (blank_notMem_operation i), ofWritten?_written]

example : ofMnemonic? "DRW V0, VA, 15" = some (.draw 0x0 0xA 15) := by decide

theorem mnemonic_injective {i j : Instruction} (h : i.mnemonic = j.mnemonic) : i = j := by
  have hi := ofMnemonic?_mnemonic i
  rw [h, ofMnemonic?_mnemonic] at hi
  exact (Option.some.inj hi).symm

/-- The text of an instruction determines it, so the text of a word determines the word apart from the digit that
the shifts ignore. -/
theorem mnemonics_unambiguous :
    (∀ i j : Instruction, i.mnemonic = j.mnemonic ↔ i = j) ∧
      ∀ word other : UInt16,
        (decode word).mnemonic = (decode other).mnemonic ↔ word = other ∨ Word.SameShift word other := by
  have hinj (i j : Instruction) : i.mnemonic = j.mnemonic ↔ i = j := by
    constructor
    · exact mnemonic_injective
    · rintro rfl
      rfl
  refine ⟨hinj, fun word other => ?_⟩
  rw [hinj, decode_eq_decode_iff]

end Instruction

end Chip8
