import Chip8.Keypad.Mask
import Chip8.Proofs.Outcome
import Chip8.Proofs.Text.Hex
import Mathlib.Data.List.Induction
import Mathlib.Data.Nat.Digits.Defs

namespace Chip8.Keypad.Mask

open Text

/-- The number that characters write in base sixteen. What is no digit counts as zero. -/
def amount (digits : List Char) : Nat := Nat.ofDigits 16 (digits.reverse.map fun c => (digitPlace? c).getD 0)

/-- What may stand in front of the sign and the digits. -/
def marks : List (List Char) := [[], ['0', 'x'], ['0', 'X']]

/-- A text of the grammar, with the mask that its digits write. -/
def Spells (s : List Char) (v : UInt16) : Prop :=
  ∃ mark ∈ marks, ∃ sign ∈ [[], ['+']], ∃ digits ≠ [], s = mark ++ (sign ++ digits) ∧
    (∀ c ∈ digits, (digitPlace? c).isSome) ∧ amount digits = v.toNat

/-- The text after the mark. -/
def Unmarked (s rest : List Char) : Prop :=
  ∃ mark ∈ marks, s = mark ++ rest ∧ (mark = [] → ∀ other ∈ marks, other <+: s → other = [])

/-- The text after the sign. A sign that stands alone is none. -/
def Unsigned (rest digits : List Char) : Prop :=
  rest = '+' :: digits ∧ digits ≠ [] ∨ rest = digits ∧ ∀ s ≠ [], rest ≠ '+' :: s

/-- No digit stands in a place. -/
def WrongAt (digits : List Char) (k : Nat) : Prop := ∃ c, digits[k]? = some c ∧ digitPlace? c = none

/-- The number is too large for a mask in a place. -/
def LargeAt (digits : List Char) (k : Nat) : Prop := k < digits.length ∧ 65535 < amount (digits.take (k + 1))

/-- The problem that a text shows first, read from the left; in one place, a wrong digit comes before a number that
is too large. -/
def Leftmost (s : List Char) : Problem → Prop
  | .empty => Unmarked s []
  | .invalidDigit => ∃ rest digits k, Unmarked s rest ∧ Unsigned rest digits ∧
      WrongAt digits k ∧ ∀ j < k, ¬ LargeAt digits j
  | .tooLarge => ∃ rest digits k, Unmarked s rest ∧ Unsigned rest digits ∧
      LargeAt digits k ∧ ∀ j ≤ k, ¬ WrongAt digits j

section Amounts

variable {s before rest : List Char} {c : Char}

theorem amount_concat (s : List Char) (c : Char) : amount (s ++ [c]) = 16 * amount s + (digitPlace? c).getD 0 := by
  simp only [amount, List.reverse_append, List.reverse_singleton, List.singleton_append, List.map_cons,
    Nat.ofDigits_cons]
  exact Nat.add_comm _ _

theorem amount_eq_hexNumber (s : List Char) : amount s = hexNumber s := by
  induction s using List.reverseRecOn with
  | nil => rfl
  | append_singleton s c ih => rw [amount_concat, hexNumber_concat, ih, hexValue?_eq_digitPlace?]

theorem amount_le_append (before s : List Char) : amount before ≤ amount (before ++ s) := by
  induction s using List.reverseRecOn with
  | nil => rw [List.append_nil]
  | append_singleton s c ih =>
    rw [← List.append_assoc, amount_concat]
    omega

end Amounts

section Digits

variable {before s : List Char} {c : Char}

theorem readDigits_of_wrong (h : digitPlace? c = none) (n : Nat) :
    readDigits n (c :: s) = .error .invalidDigit := by
  rw [readDigits, hexValue?_eq_digitPlace?, h]

theorem readDigits_of_digit (h : digitPlace? c ≠ none) :
    readDigits (amount before) (c :: s) =
      if amount (before ++ [c]) < UInt16.size then readDigits (amount (before ++ [c])) s
      else .error .tooLarge := by
  obtain ⟨d, hd⟩ := Option.ne_none_iff_exists'.mp h
  have hnext : amount before * 16 + d = amount (before ++ [c]) := by
    rw [amount_concat, hd, Nat.mul_comm]
    rfl
  simp only [readDigits, hexValue?_eq_digitPlace?, hd, hnext]

/-- The digits are read if they are all digits and the number stays small enough. -/
theorem readDigits_eq_ok_iff (hb : amount before < UInt16.size) {n : Nat} :
    readDigits (amount before) s = .ok n ↔
      (∀ c ∈ s, (digitPlace? c).isSome) ∧ amount (before ++ s) = n ∧ n < UInt16.size := by
  induction s generalizing before with
  | nil =>
    simp only [readDigits, Except.ok.injEq, List.append_nil, List.not_mem_nil, false_implies, implies_true, true_and]
    constructor
    · rintro rfl
      exact ⟨rfl, hb⟩
    · exact fun h => h.1
  | cons c s ih =>
    rw [List.forall_mem_cons, List.append_cons]
    by_cases hc : digitPlace? c = none
    · rw [readDigits_of_wrong hc]
      simp [hc]
    · rw [readDigits_of_digit hc]
      have hsome : (digitPlace? c).isSome := Option.isSome_iff_ne_none.mpr hc
      split
      next hn => rw [ih hn, and_iff_right hsome]
      next hn =>
        have hle := amount_le_append (before ++ [c]) s
        refine iff_of_false nofun ?_
        rintro ⟨-, rfl, hlt⟩
        omega

theorem wrongAt_cons_zero_iff : WrongAt (c :: s) 0 ↔ digitPlace? c = none := by simp [WrongAt]

theorem wrongAt_cons_succ_iff {k : Nat} : WrongAt (c :: s) (k + 1) ↔ WrongAt s k := Iff.rfl

/-- The number is too large in a place after other digits. -/
def LargeAfter (before s : List Char) (k : Nat) : Prop :=
  k < s.length ∧ 65535 < amount (before ++ s.take (k + 1))

theorem largeAfter_cons_zero_iff : LargeAfter before (c :: s) 0 ↔ ¬ amount (before ++ [c]) < UInt16.size := by
  rw [LargeAfter, Nat.not_lt]
  exact and_iff_right (Nat.succ_pos s.length)

theorem largeAfter_cons_succ_iff {k : Nat} :
    LargeAfter before (c :: s) (k + 1) ↔ LargeAfter (before ++ [c]) s k := by
  simp [LargeAfter]

/-- A wrong digit is noticed if the number did not become too large before it. -/
theorem readDigits_eq_invalidDigit_iff :
    readDigits (amount before) s = .error .invalidDigit ↔
      ∃ k, WrongAt s k ∧ ∀ j < k, ¬ LargeAfter before s j := by
  induction s generalizing before with
  | nil => simp [readDigits, WrongAt]
  | cons c s ih =>
    by_cases hc : digitPlace? c = none
    · rw [readDigits_of_wrong hc]
      exact iff_of_true rfl ⟨0, wrongAt_cons_zero_iff.mpr hc, nofun⟩
    · rw [readDigits_of_digit hc, ← Nat.or_exists_add_one]
      simp only [wrongAt_cons_zero_iff, hc, false_and, false_or, wrongAt_cons_succ_iff, Nat.forall_lt_succ_left,
        largeAfter_cons_zero_iff, largeAfter_cons_succ_iff, Classical.not_not]
      split
      next hn => simp only [ih, hn, true_and]
      next hn => simp [hn]

/-- A number that is too large is noticed if no digit up to there is wrong. -/
theorem readDigits_eq_tooLarge_iff :
    readDigits (amount before) s = .error .tooLarge ↔
      ∃ k, LargeAfter before s k ∧ ∀ j ≤ k, ¬ WrongAt s j := by
  induction s generalizing before with
  | nil => simp [readDigits, LargeAfter]
  | cons c s ih =>
    simp only [← Nat.lt_succ_iff, Nat.forall_lt_succ_left, wrongAt_cons_zero_iff, wrongAt_cons_succ_iff]
    by_cases hc : digitPlace? c = none
    · rw [readDigits_of_wrong hc]
      simp [hc]
    · rw [readDigits_of_digit hc, ← Nat.or_exists_add_one]
      simp only [hc, not_false_eq_true, true_and, largeAfter_cons_zero_iff, largeAfter_cons_succ_iff]
      split
      next hn => simp only [ih, hn, not_true_eq_false, false_and, false_or, Nat.lt_succ_iff]
      next hn => simp [hn]

theorem readDigits_ne_empty (n : Nat) (s : List Char) : readDigits n s ≠ .error .empty := by
  induction s generalizing n with
  | nil => exact nofun
  | cons c s ih =>
    rw [readDigits]
    split
    · exact nofun
    · split
      · exact ih _
      · exact nofun

end Digits

section Texts

variable {s rest digits : List Char} {v : UInt16} {p : Problem}

theorem unmarked_of_no_mark (hx : ¬ ['0', 'x'] <+: s) (hX : ¬ ['0', 'X'] <+: s) : unmarked s = s := by
  unfold unmarked
  split
  next => exact absurd (List.prefix_append _ _) hx
  next => exact absurd (List.prefix_append _ _) hX
  next => rfl

theorem unmarked_iff : Unmarked s rest ↔ unmarked s = rest := by
  constructor
  · rintro ⟨mark, hmark, rfl, hlong⟩
    obtain rfl | rfl | rfl : mark = [] ∨ mark = ['0', 'x'] ∨ mark = ['0', 'X'] := by simpa [marks] using hmark
    · have hnot (other : List Char) (ho : other ∈ marks) (hne : other ≠ []) : ¬ other <+: [] ++ rest :=
        fun h => hne (hlong rfl other ho h)
      exact unmarked_of_no_mark (hnot _ (by simp [marks]) nofun) (hnot _ (by simp [marks]) nofun)
    · rfl
    · rfl
  · rintro rfl
    by_cases hx : ['0', 'x'] <+: s
    · obtain ⟨t, rfl⟩ := hx
      exact ⟨['0', 'x'], by simp [marks], rfl, nofun⟩
    · by_cases hX : ['0', 'X'] <+: s
      · obtain ⟨t, rfl⟩ := hX
        exact ⟨['0', 'X'], by simp [marks], rfl, nofun⟩
      · refine ⟨[], by simp [marks], (unmarked_of_no_mark hx hX).symm, fun _ other ho h => ?_⟩
        obtain rfl | rfl | rfl : other = [] ∨ other = ['0', 'x'] ∨ other = ['0', 'X'] := by simpa [marks] using ho
        · rfl
        · exact absurd h hx
        · exact absurd h hX

def unsigned : List Char → List Char
  | '+' :: c :: s => c :: s
  | s => s

theorem unsigned_iff : Unsigned rest digits ↔ unsigned rest = digits := by
  unfold unsigned Unsigned
  split
  next c s =>
    constructor
    · rintro (⟨h, -⟩ | ⟨-, h⟩)
      · exact (List.cons.inj h).2
      · exact absurd rfl (h (c :: s) (List.cons_ne_nil c s))
    · rintro rfl
      exact .inl ⟨rfl, List.cons_ne_nil c s⟩
  next hother =>
    constructor
    · rintro (⟨rfl, h⟩ | ⟨h, -⟩)
      · obtain ⟨c, s, rfl⟩ := List.exists_cons_of_ne_nil h
        exact absurd rfl (hother c s)
      · exact h
    · rintro rfl
      refine .inr ⟨rfl, fun s hs h => ?_⟩
      obtain ⟨c, s, rfl⟩ := List.exists_cons_of_ne_nil hs
      exact hother c s h

theorem readNumber_of_ne_nil (h : rest ≠ []) : readNumber rest = readDigits (amount []) (unsigned rest) := by
  unfold unsigned
  split
  next => rfl
  next hother =>
    unfold readNumber
    split
    next => exact absurd rfl h
    next => rfl
    next s hs =>
      cases s with
      | nil => exact absurd rfl hs
      | cons c s => exact absurd rfl (hother c s)
    next => rfl

theorem unsigned_ne_nil (h : rest ≠ []) : unsigned rest ≠ [] := by
  unfold unsigned
  split
  · exact List.cons_ne_nil _ _
  · exact h

theorem readNumber_eq_empty_iff : readNumber rest = .error .empty ↔ rest = [] := by
  constructor
  · intro h
    by_contra hne
    rw [readNumber_of_ne_nil hne] at h
    exact readDigits_ne_empty _ _ h
  · rintro rfl
    rfl

/-- Digits are not taken for a sign. -/
theorem unsigned_signed {sign : List Char} (hsign : sign ∈ [[], ['+']]) (hne : digits ≠ [])
    (hd : ∀ c ∈ digits, (digitPlace? c).isSome) : unsigned (sign ++ digits) = digits := by
  refine unsigned_iff.mp ?_
  obtain rfl | rfl : sign = [] ∨ sign = ['+'] := by simpa using hsign
  · refine .inr ⟨rfl, fun t _ ht => ?_⟩
    rw [List.nil_append] at ht
    exact absurd (hd '+' (ht ▸ List.mem_cons_self)) (by decide)
  · exact .inl ⟨rfl, hne⟩

/-- Digits are not taken for a mark, nor is a sign. -/
theorem unmarked_marked {mark sign : List Char} (hmark : mark ∈ marks) (hsign : sign ∈ [[], ['+']])
    (hd : ∀ c ∈ digits, (digitPlace? c).isSome) : unmarked (mark ++ (sign ++ digits)) = sign ++ digits := by
  have hnot (c : Char) (hc : digitPlace? c = none) : ¬ ['0', c] <+: sign ++ digits := by
    rintro ⟨t, ht⟩
    obtain rfl | rfl : sign = [] ∨ sign = ['+'] := by simpa using hsign
    · rw [List.nil_append] at ht
      have hsome := hd c (ht ▸ List.mem_cons_of_mem _ List.mem_cons_self)
      rw [hc] at hsome
      cases hsome
    · cases ht
  obtain rfl | rfl | rfl : mark = [] ∨ mark = ['0', 'x'] ∨ mark = ['0', 'X'] := by simpa [marks] using hmark
  · exact unmarked_of_no_mark (hnot 'x' (by decide)) (hnot 'X' (by decide))
  · rfl
  · rfl

/-- The masks that are read are those that the grammar gives. -/
theorem ofText_eq_ok_iff : ofText (.ofList s) = .ok v ↔ Spells s v := by
  rw [ofText, String.toList_ofList]
  constructor
  · intro h
    cases hn : readNumber (unmarked s) with
    | error p =>
      rw [hn] at h
      cases h
    | ok n =>
      rw [hn] at h
      obtain rfl : UInt16.ofNat n = v := Except.ok.inj h
      have hrest : unmarked s ≠ [] := by
        intro hnil
        rw [hnil] at hn
        cases hn
      rw [readNumber_of_ne_nil hrest, readDigits_eq_ok_iff (by decide)] at hn
      obtain ⟨hdigits, hamount, hlt⟩ := hn
      obtain ⟨mark, hmark, hs, -⟩ := unmarked_iff.mpr (rfl : unmarked s = unmarked s)
      refine ⟨mark, hmark, ?_⟩
      have hvalue : amount (unsigned (unmarked s)) = (UInt16.ofNat n).toNat := by
        rw [UInt16.toNat_ofNat_of_lt' hlt]
        exact hamount
      rcases unsigned_iff.mpr (rfl : unsigned (unmarked s) = unsigned (unmarked s)) with ⟨hplus, -⟩ | ⟨hplain, -⟩
      · exact ⟨['+'], by simp, _, unsigned_ne_nil hrest, hs.trans (congrArg _ hplus), hdigits, hvalue⟩
      · exact ⟨[], by simp, _, unsigned_ne_nil hrest, hs.trans (congrArg _ hplain), hdigits, hvalue⟩
  · rintro ⟨mark, hmark, sign, hsign, digits, hne, rfl, hdigits, hvalue⟩
    have hrest : sign ++ digits ≠ [] := by simp [hne]
    have hread : readDigits (amount []) digits = .ok v.toNat :=
      (readDigits_eq_ok_iff (by decide)).mpr ⟨hdigits, hvalue, v.toNat_lt⟩
    rw [unmarked_marked hmark hsign hdigits, readNumber_of_ne_nil hrest, unsigned_signed hsign hne hdigits, hread,
      Outcome.map_ok, UInt16.ofNat_toNat]

theorem ofText_eq_error_iff : ofText (.ofList s) = .error p ↔ Leftmost s p := by
  have herror : ofText (.ofList s) = .error p ↔ readNumber (unmarked s) = .error p := by
    rw [ofText, String.toList_ofList]
    cases readNumber (unmarked s) <;> simp
  rw [herror]
  cases p with
  | empty => rw [readNumber_eq_empty_iff, Leftmost, unmarked_iff]
  | invalidDigit =>
    simp only [Leftmost, unmarked_iff, unsigned_iff, exists_and_left, exists_eq_left']
    by_cases hrest : unmarked s = []
    · rw [hrest]
      simp [readNumber, unsigned, WrongAt]
    · rw [readNumber_of_ne_nil hrest, readDigits_eq_invalidDigit_iff]
      rfl
  | tooLarge =>
    simp only [Leftmost, unmarked_iff, unsigned_iff, exists_and_left, exists_eq_left']
    by_cases hrest : unmarked s = []
    · rw [hrest]
      simp [readNumber, unsigned, LargeAt]
    · rw [readNumber_of_ne_nil hrest, readDigits_eq_tooLarge_iff]
      rfl

/-- Padded with zeros or not, and in either case, the digits of a mask are a text of it. -/
theorem spells_hex {mark : List Char} (hmark : mark ∈ marks) (v : UInt16) (width : Nat)
    (hd : digits.map Char.toUpper = (hex width v.toNat).toList) : Spells (mark ++ digits) v := by
  refine ⟨mark, hmark, [], by simp, digits, ?_, rfl, fun c hc => ?_, ?_⟩
  · rintro rfl
    have hdigits : (Nat.toDigits 16 v.toNat).map Char.toUpper = [] := by
      rw [toList_hex] at hd
      exact (List.append_eq_nil_iff.mp hd.symm).2
    exact Nat.toDigits_ne_nil (List.map_eq_nil_iff.mp hdigits)
  · have hmem : c.toUpper ∈ (hex width v.toNat).toList := hd ▸ List.mem_map_of_mem hc
    rw [← hexValue?_eq_digitPlace?, ← hexValue?_toUpper]
    exact isSome_hexValue?_of_mem hmem
  · rw [amount_eq_hexNumber, ← hexNumber_map_toUpper, hd, hexNumber_hex]

theorem read_eq_ok_iff {s : String} : read s = .ok v ↔ ofText s = .ok v := by
  rw [read]
  cases ofText s with
  | error p => exact iff_of_false nofun nofun
  | ok w => exact ⟨fun h => congrArg _ (Except.ok.inj h), fun h => congrArg _ (Except.ok.inj h)⟩

end Texts

/-- A text is read as a mask exactly if it is of the grammar: an optional mark, an optional sign and hexadecimal
digits, at least one, that write a number of sixteen bits. Any other text is refused for its leftmost problem, in the
words for that problem after a quotation of the whole text. The digits of every mask are read back, with and without a
mark, in either case and with any number of zeros in front. -/
theorem masks_read_by_grammar :
    (∀ s v, (ofText s = .ok v ↔ Spells s.toList v) ∧ (read s = .ok v ↔ Spells s.toList v)) ∧
      (∀ s p, ofText s = .error p ↔ Leftmost s.toList p) ∧
      (∀ s text, read s = .error text ↔
        Leftmost s.toList .empty ∧
            text = "invalid key mask '" ++ s ++ "': " ++ "cannot parse integer from empty string" ∨
          Leftmost s.toList .invalidDigit ∧
            text = "invalid key mask '" ++ s ++ "': " ++ "invalid digit found in string" ∨
          Leftmost s.toList .tooLarge ∧
            text = "invalid key mask '" ++ s ++ "': " ++ "number too large to fit in target type") ∧
      ∀ (v : UInt16) (width : Nat), ∀ mark ∈ marks, ∀ digits : List Char,
        digits.map Char.toUpper = (hex width v.toNat).toList →
          ofText (.ofList (mark ++ digits)) = .ok v ∧ read (.ofList (mark ++ digits)) = .ok v := by
  have hok (s : String) (v : UInt16) : ofText s = .ok v ↔ Spells s.toList v := by
    rw [← ofText_eq_ok_iff, String.ofList_toList]
  have herror (s : String) (p : Problem) : ofText s = .error p ↔ Leftmost s.toList p := by
    rw [← ofText_eq_error_iff, String.ofList_toList]
  refine ⟨fun s v => ⟨hok s v, read_eq_ok_iff.trans (hok s v)⟩, herror, fun s text => ?_,
    fun v width mark hmark digits hd => ?_⟩
  · rw [read, Outcome.mapError_eq_error_iff]
    constructor
    · rintro ⟨p, hp, rfl⟩
      have hleftmost := (herror s p).mp hp
      cases p with
      | empty => exact .inl ⟨hleftmost, rfl⟩
      | invalidDigit => exact .inr (.inl ⟨hleftmost, rfl⟩)
      | tooLarge => exact .inr (.inr ⟨hleftmost, rfl⟩)
    · rintro (⟨hp, rfl⟩ | ⟨hp, rfl⟩ | ⟨hp, rfl⟩) <;> exact ⟨_, (herror s _).mpr hp, rfl⟩
  · have hread := ofText_eq_ok_iff.mpr (spells_hex hmark v width hd)
    exact ⟨hread, read_eq_ok_iff.mpr hread⟩

/-- A mask in both cases and with more zeros than a mask has digits, and a text for each problem: one that has both
a wrong digit and too many is refused for what comes first. -/
theorem mixed_mask_read :
    (("0x00aBcD".toList.drop 2).map Char.toUpper = (hex 6 (0xABCD : UInt16).toNat).toList ∧
      read "0x00aBcD" = .ok 0xABCD) ∧
      (Leftmost "0x".toList .empty ∧
        read "0x" = .error "invalid key mask '0x': cannot parse integer from empty string") ∧
      (Leftmost "-1".toList .invalidDigit ∧ read "-1" = .error "invalid key mask '-1': invalid digit found in string") ∧
      (Leftmost "1000g0".toList .invalidDigit ∧
        read "1000g0" = .error "invalid key mask '1000g0': invalid digit found in string") ∧
      Leftmost "10000g".toList .tooLarge ∧
        read "10000g" = .error "invalid key mask '10000g': number too large to fit in target type" := by
  obtain ⟨-, hleftmost, hrefused, hprinted⟩ := masks_read_by_grammar
  have hd : ("0x00aBcD".toList.drop 2).map Char.toUpper = (hex 6 (0xABCD : UInt16).toNat).toList := by decide
  have hempty : Leftmost "0x".toList .empty := (hleftmost "0x" _).mp rfl
  have hsign : Leftmost "-1".toList .invalidDigit := (hleftmost "-1" _).mp rfl
  have hletter : Leftmost "1000g0".toList .invalidDigit := (hleftmost "1000g0" _).mp rfl
  have hlarge : Leftmost "10000g".toList .tooLarge := (hleftmost "10000g" _).mp rfl
  exact ⟨⟨hd, (hprinted 0xABCD 6 ['0', 'x'] (by simp [marks]) _ hd).2⟩,
    ⟨hempty, (hrefused "0x" _).mpr (.inl ⟨hempty, rfl⟩)⟩, ⟨hsign, (hrefused "-1" _).mpr (.inr (.inl ⟨hsign, rfl⟩))⟩,
    ⟨hletter, (hrefused "1000g0" _).mpr (.inr (.inl ⟨hletter, rfl⟩))⟩, hlarge,
    (hrefused "10000g" _).mpr (.inr (.inr ⟨hlarge, rfl⟩))⟩

end Chip8.Keypad.Mask
