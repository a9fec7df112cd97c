import Chip8.Listing
import Chip8.Proofs.Overflow
import Chip8.Proofs.Text.Hex

namespace Chip8

open Text

namespace Word

theorem kk_ofBytes (hi lo : UInt8) : kk (ofBytes hi lo) = lo := by
  apply UInt8.toNat_inj.mp
  have := lo.toNat_lt
  rw [toNat_kk, toNat_ofBytes]
  omega

theorem ofBytes_injective {hi lo hi' lo' : UInt8} (h : ofBytes hi lo = ofBytes hi' lo') :
    hi = hi' ∧ lo = lo' := by
  have hword := congrArg UInt16.toNat h
  rw [toNat_ofBytes, toNat_ofBytes] at hword
  have := lo.toNat_lt
  have := lo'.toNat_lt
  exact ⟨UInt8.toNat_inj.mp (by omega), UInt8.toNat_inj.mp (by omega)⟩

end Word

/-- The bytes that a line lists: those of its word, the high one first, or its single byte. -/
def Listing.Line.bytes (line : Listing.Line) : List UInt8 :=
  match line.instruction with
  | some _ => [.ofNat (line.word.toNat / 256), Word.kk line.word]
  | none => [Word.kk line.word]

theorem Listing.Line.bytes_word (addr : UInt16) (hi lo : UInt8) (i : Instruction) :
    Listing.Line.bytes ⟨addr, Word.ofBytes hi lo, some i⟩ = [hi, lo] := by
  have hhigh : UInt8.ofNat ((Word.ofBytes hi lo).toNat / 256) = hi := by
    have hlo := lo.toNat_lt
    have hdiv : (hi.toNat * 256 + lo.toNat) / 256 = hi.toNat := by omega
    rw [Word.toNat_ofBytes, hdiv, UInt8.ofNat_toNat]
  simp only [Listing.Line.bytes, hhigh, Word.kk_ofBytes]

theorem Listing.Line.bytes_single (addr : UInt16) (b : UInt8) : Listing.Line.bytes ⟨addr, b.toUInt16, none⟩ = [b] := by
  have hlow : Word.kk b.toUInt16 = b := by
    apply UInt8.toNat_inj.mp
    rw [Word.toNat_kk, UInt8.toNat_toUInt16]
    exact Nat.mod_eq_of_lt b.toNat_lt
  simp only [Listing.Line.bytes, hlow]

section Lines

variable {origin : UInt16} {program : List UInt8} {k : Nat} {line : Listing.Line}

/-- Line `k` starts at byte `2 * k`; it is a word if there is one more byte. -/
theorem getElem?_listing (origin : UInt16) (program : List UInt8) (k : Nat) :
    (listing origin program)[k]? =
      match program[2 * k]?, program[2 * k + 1]? with
      | some hi, some lo =>
        some ⟨origin + .ofNat (2 * k), Word.ofBytes hi lo, some (.decode (Word.ofBytes hi lo))⟩
      | some b, none => some ⟨origin + .ofNat (2 * k), b.toUInt16, none⟩
      | none, _ => none := by
  have hzero (addr : UInt16) : addr + .ofNat (2 * 0) = addr := by simp
  induction origin, program using listing.induct generalizing k with
  | case1 origin => rfl
  | case2 origin b =>
    cases k with
    | zero =>
      rw [hzero]
      rfl
    | succ k => rfl
  | case3 origin hi lo rest ih =>
    cases k with
    | zero =>
      rw [hzero]
      rfl
    | succ k =>
      have haddr : origin + .ofNat (2 * (k + 1)) = origin + 2 + .ofNat (2 * k) := by
        rw [Nat.mul_succ, UInt16.ofNat_add, UInt16.add_comm (.ofNat (2 * k)), ← UInt16.add_assoc]
        rfl
      rw [haddr]
      exact ih k

theorem length_listing (origin : UInt16) (program : List UInt8) :
    (listing origin program).length = (program.length + 1) / 2 := by
  induction origin, program using listing.induct with
  | case1 origin => rfl
  | case2 origin b => simp [listing]
  | case3 origin hi lo rest ih =>
    rw [listing, List.length_cons, ih, List.length_cons, List.length_cons]
    omega

theorem flatMap_bytes_listing (origin : UInt16) (program : List UInt8) :
    (listing origin program).flatMap Listing.Line.bytes = program := by
  induction origin, program using listing.induct with
  | case1 origin => rfl
  | case2 origin b => rw [listing, List.flatMap_singleton, Listing.Line.bytes_single]
  | case3 origin hi lo rest ih =>
    rw [listing, List.flatMap_cons, ih, Listing.Line.bytes_word]
    rfl

theorem addr_of_getElem? (h : (listing origin program)[k]? = some line) :
    line.addr = origin + .ofNat (2 * k) := by
  rw [getElem?_listing] at h
  split at h <;> cases h <;> rfl

theorem toNat_addr_of_getElem? (h : (listing origin program)[k]? = some line) :
    line.addr.toNat = (origin.toNat + 2 * k) % 65536 := by
  rw [addr_of_getElem? h, UInt16.toNat_add, UInt16.toNat_ofNat']
  exact Nat.add_mod_mod ..

theorem word_of_getElem? (h : (listing origin program)[k]? = some line) {i : Instruction}
    (hi : line.instruction = some i) :
    ∃ high low, program[2 * k]? = some high ∧ program[2 * k + 1]? = some low ∧
      line.word = Word.ofBytes high low ∧ i = .decode line.word := by
  rw [getElem?_listing] at h
  split at h
  next high low hhigh hlow =>
    cases h
    cases hi
    exact ⟨high, low, hhigh, hlow, rfl, rfl⟩
  next => cases h; cases hi
  next => cases h

/-- A line without an instruction is the last one of a program with an odd number of bytes. -/
theorem instruction_eq_none_iff (h : (listing origin program)[k]? = some line) :
    line.instruction = none ↔ k + 1 = (listing origin program).length ∧ program.length % 2 = 1 := by
  rw [length_listing]
  rw [getElem?_listing] at h
  split at h
  next high low hhigh hlow =>
    cases h
    have hlen := (List.getElem?_eq_some_iff.mp hlow).1
    simp only [reduceCtorEq, false_iff]
    omega
  next b hb hend =>
    cases h
    have hlen := (List.getElem?_eq_some_iff.mp hb).1
    have hend' := List.getElem?_eq_none_iff.mp hend
    simp only [true_iff]
    omega
  next => cases h

end Lines

namespace Listing

theorem toList_text_cons (line : Line) (lines : List Line) :
    (text (line :: lines)).toList = (line.text ++ "\n").toList ++ (text lines).toList := by
  rw [Listing.text, List.map_cons, String.join_cons, String.toList_append]
  rfl

theorem toList_text_word (addr word : UInt16) (i : Instruction) (lines : List Line) :
    (text (⟨addr, word, some i⟩ :: lines)).toList =
      (hex 3 addr.toNat ++ ": ").toList ++
        ((hex 4 word.toNat).toList ++ (("  " ++ i.mnemonic ++ "\n").toList ++ (text lines).toList)) := by
  rw [toList_text_cons]
  simp only [Line.text, String.toList_append, List.append_assoc]

theorem exists_toList_text_byte (addr word : UInt16) (lines : List Line) :
    ∃ tail, (text (⟨addr, word, none⟩ :: lines)).toList =
      (hex 3 addr.toNat ++ ": ").toList ++ ((hex 2 word.toNat).toList ++ ' ' :: tail) := by
  refine ⟨("   DB " ++ hexMarked 2 word.toNat ++ "\n").toList ++ (text lines).toList, ?_⟩
  have hblank : "    DB ".toList = ' ' :: "   DB ".toList := by decide
  rw [toList_text_cons]
  simp only [Line.text, String.toList_append, List.append_assoc, hblank, List.cons_append]

theorem text_listing_cons_ne (origin : UInt16) (b : UInt8) (program : List UInt8) :
    text (listing origin (b :: program)) ≠ text (listing origin []) := by
  intro h
  have hlist := congrArg String.toList h
  have hempty : (text []).toList = [] := rfl
  cases program with
  | nil => simp [listing, toList_text_cons, hempty] at hlist
  | cons low rest => simp [listing, toList_text_cons, hempty] at hlist

theorem length_hex_toUInt16 (b : UInt8) : (hex 2 b.toUInt16.toNat).toList.length = 2 := by
  rw [UInt8.toNat_toUInt16]
  exact length_hex_byte b

/-- After two digits a byte has a blank where a word has its third one. -/
theorem hex_byte_ne_word (b : UInt8) (word : UInt16) {rest rest' : List Char} :
    (hex 2 b.toUInt16.toNat).toList ++ ' ' :: rest ≠ (hex 4 word.toNat).toList ++ rest' := by
  intro h
  have hbyte := length_hex_toUInt16 b
  have hword := length_hex_word word
  have hblank : ((hex 2 b.toUInt16.toNat).toList ++ ' ' :: rest)[2]? = some ' ' := by
    rw [List.getElem?_append_right (by omega), hbyte]
    rfl
  have hthird : (hex 4 word.toNat).toList[2]? = some ' ' := by
    rwa [h, List.getElem?_append_left (by omega)] at hblank
  have hdigit := isSome_hexValue?_of_mem (List.mem_of_getElem? hthird)
  exact absurd hdigit (by decide)

theorem text_byte_ne_word (origin : UInt16) (b high low : UInt8) (rest : List UInt8) :
    text (listing origin [b]) ≠ text (listing origin (high :: low :: rest)) := by
  intro h
  have hlist := congrArg String.toList h
  obtain ⟨tail, hbyte⟩ := exists_toList_text_byte origin b.toUInt16 []
  rw [listing, listing, hbyte, toList_text_word] at hlist
  exact hex_byte_ne_word b _ (List.append_cancel_left hlist)

theorem text_byte_injective (origin : UInt16) {b b' : UInt8}
    (h : text (listing origin [b]) = text (listing origin [b'])) : b = b' := by
  have hlist := congrArg String.toList h
  obtain ⟨tail, hbyte⟩ := exists_toList_text_byte origin b.toUInt16 []
  obtain ⟨tail', hbyte'⟩ := exists_toList_text_byte origin b'.toUInt16 []
  rw [listing, listing, hbyte, hbyte'] at hlist
  have hlength := (length_hex_toUInt16 b).trans (length_hex_toUInt16 b').symm
  obtain ⟨hdigits, -⟩ := List.append_inj (List.append_cancel_left hlist) hlength
  have hvalue := hex_injective (String.toList_inj.mp hdigits)
  rw [UInt8.toNat_toUInt16, UInt8.toNat_toUInt16] at hvalue
  exact UInt8.toNat_inj.mp hvalue

/-- The first word is read off the text, and so is the text of what follows. -/
theorem text_word_injective {addr word word' : UInt16} {lines lines' : List Line}
    (h : text (⟨addr, word, some (.decode word)⟩ :: lines) =
      text (⟨addr, word', some (.decode word')⟩ :: lines')) :
    word = word' ∧ text lines = text lines' := by
  have hlist := congrArg String.toList h
  rw [toList_text_word, toList_text_word] at hlist
  have hlength := (length_hex_word word).trans (length_hex_word word').symm
  obtain ⟨hdigits, htail⟩ := List.append_inj (List.append_cancel_left hlist) hlength
  have hword := UInt16.toNat_inj.mp (hex_injective (String.toList_inj.mp hdigits))
  subst hword
  exact ⟨rfl, String.toList_inj.mp (List.append_cancel_left htail)⟩

/-- The text of a listing determines the program. -/
theorem text_listing_injective (origin : UInt16) {program other : List UInt8}
    (h : text (listing origin program) = text (listing origin other)) : program = other := by
  induction origin, program using listing.induct generalizing other with
  | case1 origin =>
    cases other with
    | nil => rfl
    | cons b rest => exact absurd h.symm (text_listing_cons_ne origin b rest)
  | case2 origin b =>
    rcases other with _ | ⟨b', _ | ⟨low, rest⟩⟩
    · exact absurd h (text_listing_cons_ne origin b [])
    · rw [text_byte_injective origin h]
    · exact absurd h (text_byte_ne_word origin b b' low rest)
  | case3 origin high low rest ih =>
    rcases other with _ | ⟨high', _ | ⟨low', rest'⟩⟩
    · exact absurd h (text_listing_cons_ne origin high (low :: rest))
    · exact absurd h.symm (text_byte_ne_word origin high' high low rest)
    · rw [listing, listing] at h
      obtain ⟨hword, hrest⟩ := text_word_injective h
      obtain ⟨rfl, rfl⟩ := Word.ofBytes_injective hword
      rw [ih hrest]

end Listing

/-- The machine holds a program where programs are loaded. -/
def Machine.Holds (m : Machine) (program : List UInt8) : Prop :=
  ∀ k b, program[k]? = some b → m.memory[programStart.toNat + k]? = some b

namespace Processor

variable {p : Processor} {program : List UInt8} {k : Nat} {line : Listing.Line} {i : Instruction}

theorem fetch_of_holds (hm : p.machine.Holds program) (hk : (listing programStart program)[k]? = some line)
    (hi : line.instruction = some i) (hpc : p.machine.pc = line.addr) : p.fetch = .ok line.word := by
  obtain ⟨high, low, hhigh, hlow, hword, -⟩ := word_of_getElem? hk hi
  have hstart : programStart.toNat = 512 := rfl
  have hfirst := hm _ _ hhigh
  have hsecond := hm _ _ hlow
  have hin : programStart.toNat + (2 * k + 1) < memorySize := by
    by_contra hout
    rw [Vector.getElem?_eq_none (Nat.le_of_not_lt hout)] at hsecond
    cases hsecond
  have haddr : line.addr.toNat = programStart.toNat + 2 * k := by
    rw [toNat_addr_of_getElem? hk]
    unfold memorySize at hin
    omega
  rw [fetch_eq_ok_iff, hpc, haddr, hword]
  exact ⟨high, low, hfirst, hsecond, rfl⟩

/-- A step executes the word that it fetches, raises a fault of that word, or has no room to count it. -/
theorem step_of_fetch (hp : p.machine.Valid) {word : UInt16} (hw : p.fetch = .ok word) :
    p.step.2 = .ok (.decode word) ∨ (∃ f, p.step.2 = .error (.fault p.machine.pc word f)) ∨
      p.executed.toNat + 1 = UInt64.size ∧ p.step.2 = .error (.crash .counterFull) := by
  by_cases hraises : ∃ f, p.machine.Raises word f
  · obtain ⟨f, hf⟩ := hraises
    right
    left
    refine ⟨f, ?_⟩
    rw [step_snd_eq_error_iff hp, failure?_eq_fault_iff hp]
    exact ⟨hw, rfl, hf⟩
  · have hnone := not_exists.mp hraises
    by_cases hroom : p.executed.toNat + 1 < UInt64.size
    · left
      rw [step_snd_eq_ok_iff hp hw]
      exact ⟨rfl, hroom, hnone⟩
    · have hfull : p.executed.toNat + 1 = UInt64.size :=
        Nat.le_antisymm p.executed.toNat_lt_size (Nat.le_of_not_lt hroom)
      right
      right
      refine ⟨hfull, ?_⟩
      rw [step_snd_eq_error_iff hp, failure?_eq_crash_iff hp]
      exact ⟨rfl, hfull, word, hw, hnone⟩

end Processor

/-- The listing of a program has a line for every two bytes begun, at every second address, and both its lines and
its text determine the program. On a valid machine that holds the program, a step at a line with an instruction
fetches the word of the line and executes that instruction or raises a fault of that word, unless the counter of
executed instructions is full. -/
theorem listing_faithful (origin : UInt16) (program : List UInt8) :
    let lines := listing origin program
    lines.length = (program.length + 1) / 2 ∧
      (∀ (k : Nat) (line : Listing.Line), lines[k]? = some line →
        line.addr.toNat = (origin.toNat + 2 * k) % 65536 ∧
          (line.instruction = none ↔ k + 1 = lines.length ∧ program.length % 2 = 1)) ∧
      lines.flatMap Listing.Line.bytes = program ∧
      (∀ other, Listing.text (listing origin other) = Listing.text lines ↔ other = program) ∧
      ∀ (k : Nat) (line : Listing.Line) (i : Instruction),
        (listing programStart program)[k]? = some line → line.instruction = some i →
        ∀ p : Processor, p.machine.Valid → p.machine.Holds program → p.machine.pc = line.addr →
          p.fetch = .ok line.word ∧
            (p.step.2 = .ok i ∨ (∃ f, p.step.2 = .error (.fault line.addr line.word f)) ∨
              p.executed.toNat + 1 = UInt64.size ∧ p.step.2 = .error (.crash .counterFull)) := by
  intro lines
  refine ⟨length_listing origin program, fun k line hk => ?_, flatMap_bytes_listing origin program,
    fun other => ?_, fun k line i hk hi p hp hm hpc => ?_⟩
  · exact ⟨toNat_addr_of_getElem? hk, instruction_eq_none_iff hk⟩
  · constructor
    · exact Listing.text_listing_injective origin
    · rintro rfl
      rfl
  · have hfetch := Processor.fetch_of_holds hm hk hi hpc
    obtain ⟨-, -, -, -, -, hdecode⟩ := word_of_getElem? hk hi
    have hstep := Processor.step_of_fetch hp hfetch
    rw [hpc, ← hdecode] at hstep
    exact ⟨hfetch, hstep⟩

namespace Console

/-- A console with a program that clears the screen. -/
def clearing : Console := ((powerOn .default (.ofSeed 0)).play [.mount programSlot [0x00, 0xE0]]).1

/-- The same console with its counter at the largest number, as a save brings it. -/
def clearingLast : Console := clearing.counting 0xFFFFFFFFFFFFFFFF

/-- The one word of the listing is fetched, but neither executed nor refused with a fault. -/
theorem listed_word_not_counted :
    clearingLast.Reachable ∧ clearingLast.machine.Valid ∧ clearingLast.machine.Holds [0x00, 0xE0] ∧
      (listing programStart [0x00, 0xE0])[0]? = some ⟨0x200, 0x00E0, some .clearDisplay⟩ ∧
      clearingLast.machine.pc = 0x200 ∧ clearingLast.processor.fetch = .ok 0x00E0 ∧
      clearingLast.processor.step.2 = .error (.crash .counterFull) := by
  have hclearing : clearing.Reachable := reachable_play .default (.ofSeed 0) [.mount programSlot [0x00, 0xE0]]
  have hreachable : clearingLast.Reachable := hclearing.counting _
  have hvalid := hreachable.valid
  have hholds : clearingLast.machine.Holds [0x00, 0xE0] := by
    intro k b hk
    rcases k with _ | _ | k
    · cases hk
      decide +kernel
    · cases hk
      decide +kernel
    · cases hk
  have hline : (listing programStart [0x00, 0xE0])[0]? = some ⟨0x200, 0x00E0, some .clearDisplay⟩ := by decide
  have hpc : clearingLast.machine.pc = 0x200 := by decide +kernel
  have hfetch := Processor.fetch_of_holds hholds hline rfl hpc
  have hfull : clearingLast.processor.failure? = some (.crash .counterFull) := by decide +kernel
  have hstep := (Processor.step_snd_eq_error_iff hvalid).mpr hfull
  exact ⟨hreachable, hvalid, hholds, hline, hpc, hfetch, hstep⟩

end Console

end Chip8
