import Chip8.Text.Hex

namespace Chip8.Text

/-- The place of a character in the row of the hexadecimal digits, in either case. -/
def digitPlace? (c : Char) : Option Nat :=
  ("0123456789abcdef".toList.idxOf? c).or ("0123456789ABCDEF".toList.idxOf? c)

theorem toNat_le_of_hexValue? {c : Char} (h : hexValue? c ≠ none) : c.toNat ≤ 'f'.toNat := by
  have hle (a b : Char) : a ≤ b ↔ a.toNat ≤ b.toNat := UInt32.le_iff_toNat_le
  revert h
  simp only [hexValue?, Char.isDigit_iff_toNat, hle, Char.reduceToNat]
  split
  · omega
  · split
    · omega
    · split
      · omega
      · simp

theorem hexValue?_eq_digitPlace? (c : Char) : hexValue? c = digitPlace? c := by
  by_cases hc : c.toNat ≤ 'f'.toNat
  · have hall : ∀ n ≤ 'f'.toNat, hexValue? (.ofNat n) = digitPlace? (.ofNat n) := by decide +kernel
    rw [← Char.ofNat_toNat c]
    exact hall c.toNat hc
  · -- no digit of either row lies beyond
    have hrows : ["0123456789abcdef", "0123456789ABCDEF"].all
        (fun row => row.toList.all fun d => d.toNat ≤ 'f'.toNat) = true := by decide
    have hnone (row : String) (hrow : row ∈ ["0123456789abcdef", "0123456789ABCDEF"]) :
        row.toList.idxOf? c = none := by
      refine List.idxOf?_eq_none_iff.mpr fun h => hc ?_
      exact of_decide_eq_true (List.all_eq_true.mp (List.all_eq_true.mp hrows row hrow) c h)
    rw [digitPlace?, hnone _ (by simp), hnone _ (by simp)]
    exact Classical.not_not.mp (mt toNat_le_of_hexValue? hc)

theorem hexValue?_toUpper (c : Char) : hexValue? c.toUpper = hexValue? c := by
  by_cases hc : c.toNat ≤ 'z'.toNat
  · have hall : ∀ n ≤ 'z'.toNat, hexValue? (Char.ofNat n).toUpper = hexValue? (.ofNat n) := by decide +kernel
    rw [← Char.ofNat_toNat c]
    exact hall c.toNat hc
  · have hupper : c.toUpper = c := dif_neg fun h => hc (UInt32.le_iff_toNat_le.mp h.2)
    rw [hupper]

/-- The number that hexadecimal digits write, the leading one first. -/
def hexNumber (digits : List Char) : Nat := digits.foldl (fun n c => 16 * n + (hexValue? c).getD 0) 0

theorem hexNumber_concat (digits : List Char) (c : Char) :
    hexNumber (digits ++ [c]) = 16 * hexNumber digits + (hexValue? c).getD 0 := by
  rw [hexNumber, List.foldl_append]
  rfl

theorem hexNumber_replicate_zero (k : Nat) (digits : List Char) :
    hexNumber (List.replicate k '0' ++ digits) = hexNumber digits := by
  induction k with
  | zero => rfl
  | succ k ih => exact ih

theorem hexValue?_digitChar {d : Nat} (h : d < 16) : hexValue? d.digitChar.toUpper = some d := by
  revert d
  decide

/-- The case of digits does not matter. -/
theorem hexNumber_map_toUpper (digits : List Char) : hexNumber (digits.map Char.toUpper) = hexNumber digits := by
  simp only [hexNumber, List.foldl_map, hexValue?_toUpper]

/-- The digits of `n` are read back, and each of them is a hexadecimal digit. -/
theorem hexNumber_toDigits (n : Nat) :
    let digits := (Nat.toDigits 16 n).map Char.toUpper
    hexNumber digits = n ∧ ∀ c ∈ digits, (hexValue? c).isSome := by
  induction n using Nat.strongRecOn with
  | ind n ih =>
    rcases Nat.lt_or_ge n 16 with hn | hn
    · rw [Nat.toDigits_of_lt_base hn]
      have hdigit := hexValue?_digitChar hn
      simp [hexNumber, hdigit]
    · obtain ⟨hvalue, hdigits⟩ := ih (n / 16) (Nat.div_lt_self (by omega) (by decide))
      have hdigit := hexValue?_digitChar (Nat.mod_lt n (by decide : 16 > 0))
      rw [Nat.toDigits_of_base_le (by decide) hn]
      simp only [List.map_append, List.map_cons, List.map_nil]
      constructor
      · rw [hexNumber_concat, hvalue, hdigit]
        exact Nat.div_add_mod n 16
      · intro c hc
        rcases List.mem_append.mp hc with hc | hc
        · exact hdigits c hc
        · rw [List.mem_singleton.mp hc, hdigit]
          rfl

section Written

variable {width : Nat} {n : Nat}

theorem toList_hex (width n : Nat) :
    (hex width n).toList =
      List.replicate (width - (Nat.toDigits 16 n).length) '0' ++ (Nat.toDigits 16 n).map Char.toUpper := by
  simp [hex, List.leftpad]

theorem hexNumber_hex (width n : Nat) : hexNumber (hex width n).toList = n := by
  rw [toList_hex, hexNumber_replicate_zero]
  exact (hexNumber_toDigits n).1

theorem hex_injective {width' m : Nat} (h : hex width n = hex width' m) : n = m := by
  have hn := hexNumber_hex width n
  rw [h, hexNumber_hex] at hn
  exact hn.symm

theorem isSome_hexValue?_of_mem {c : Char} (h : c ∈ (hex width n).toList) : (hexValue? c).isSome := by
  rw [toList_hex] at h
  rcases List.mem_append.mp h with h | h
  · rw [(List.mem_replicate.mp h).2]
    rfl
  · exact (hexNumber_toDigits n).2 c h

theorem length_hex (h : (Nat.toDigits 16 n).length ≤ width) : (hex width n).toList.length = width := by
  rw [toList_hex, List.length_append, List.length_replicate, List.length_map]
  omega

theorem length_hex_byte (b : UInt8) : (hex 2 b.toNat).toList.length = 2 :=
  length_hex ((Nat.length_toDigits_le_iff (by decide) (by decide)).mpr b.toNat_lt)

theorem length_hex_word (word : UInt16) : (hex 4 word.toNat).toList.length = 4 :=
  length_hex ((Nat.length_toDigits_le_iff (by decide) (by decide)).mpr word.toNat_lt)

end Written

end Chip8.Text
