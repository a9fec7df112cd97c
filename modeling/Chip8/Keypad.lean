namespace Chip8

/-- The keys held down: bit `n` of the mask stands for key `n`. Numbers beyond fifteen name no key. -/
structure Keypad where
  mask : UInt16
  deriving DecidableEq

namespace Keypad

def keyCount : Nat := 16

def released : Keypad := ⟨0⟩

def holds (k : Keypad) (key : UInt8) : Bool :=
  decide (key.toNat < keyCount) && k.mask.toNat.testBit key.toNat

def bit (key : UInt8) : UInt16 := .ofNat (1 <<< key.toNat)

/-- Holds a key down; a number beyond the last key changes nothing. -/
def press (k : Keypad) (key : UInt8) : Keypad :=
  if key.toNat < keyCount then ⟨k.mask ||| bit key⟩ else k

/-- Lets a key go; a number beyond the last key changes nothing. -/
def release (k : Keypad) (key : UInt8) : Keypad :=
  if key.toNat < keyCount then ⟨k.mask &&& ~~~ bit key⟩ else k

theorem holds_released (key : UInt8) : released.holds key = false := by simp [holds, released]

theorem toNat_bit {key : UInt8} (h : key.toNat < keyCount) : (bit key).toNat = 1 <<< key.toNat := by
  have : 2 ^ key.toNat < 2 ^ 16 := Nat.pow_lt_pow_right (by decide) h
  rw [bit, UInt16.toNat_ofNat', Nat.one_shiftLeft, Nat.mod_eq_of_lt this]

theorem holds_press (k : Keypad) (key other : UInt8) :
    (k.press key).holds other = (k.holds other || (decide (key.toNat < keyCount) && key == other)) := by
  unfold press
  split
  next h =>
    by_cases ho : other.toNat < keyCount
    · have he : (key == other) = decide (key.toNat = other.toNat) := by
        rw [Bool.eq_iff_iff]
        simp [UInt8.toNat_inj]
      simp [holds, ho, h, UInt16.toNat_or, Nat.testBit_or, toNat_bit h, Nat.one_shiftLeft,
        Nat.testBit_two_pow, he]
    · have hne : key ≠ other := fun e => ho (e ▸ h)
      simp [holds, ho, hne]
  next h => simp [h]

theorem holds_release (k : Keypad) (key other : UInt8) :
    (k.release key).holds other = (k.holds other && key != other) := by
  unfold release
  split
  next h =>
    by_cases ho : other.toNat < keyCount
    · have he : (key != other) = !decide (key.toNat = other.toNat) := by
        rw [Bool.eq_iff_iff]
        simp [← UInt8.toNat_inj]
      have hk : other.toNat < 16 := ho
      have hb : 2 ^ key.toNat < 2 ^ 16 := Nat.pow_lt_pow_right (by decide) h
      have hn : UInt16.size - 1 - 2 ^ key.toNat = 2 ^ 16 - (2 ^ key.toNat + 1) := by
        simp only [UInt16.size]
        omega
      simp only [holds, ho, decide_true, Bool.true_and, UInt16.toNat_and, Nat.testBit_and, he,
        UInt16.toNat_not, toNat_bit h, Nat.one_shiftLeft, hn, Nat.testBit_two_pow_sub_succ hb, hk,
        Nat.testBit_two_pow]
    · simp [holds, ho]
  next h =>
    cases hk : k.holds other with
    | false => rfl
    | true =>
      have ho : other.toNat < keyCount := by
        simp only [holds, Bool.and_eq_true, decide_eq_true_eq] at hk
        exact hk.1
      have hne : key ≠ other := fun e => h (e ▸ ho)
      simp [hne]

def keys : List UInt8 := (List.range keyCount).map UInt8.ofNat

def lowest? (k : Keypad) : Option UInt8 := keys.find? k.holds

theorem lowest?_eq_none_iff (k : Keypad) : k.lowest? = none ↔ k.mask = 0 := by
  unfold lowest? keys
  rw [List.find?_eq_none]
  constructor
  · intro h
    apply UInt16.toNat_inj.mp
    apply Nat.eq_of_testBit_eq
    intro j
    rw [UInt16.toNat_zero, Nat.zero_testBit]
    by_cases hj : j < keyCount
    · have hlt : j < 2 ^ 8 := Nat.lt_trans hj (by decide)
      have hkey : (UInt8.ofNat j).toNat = j := by rw [UInt8.toNat_ofNat', Nat.mod_eq_of_lt hlt]
      have hfree := h (UInt8.ofNat j) (List.mem_map.mpr ⟨j, List.mem_range.mpr hj, rfl⟩)
      simpa [holds, hkey, hj] using hfree
    · have hpow : 2 ^ 16 ≤ 2 ^ j := Nat.pow_le_pow_right (by decide) (Nat.le_of_not_lt hj)
      exact Nat.testBit_lt_two_pow (Nat.lt_of_lt_of_le k.mask.toNat_lt hpow)
  · intro h key _
    simp [holds, h]

end Keypad

end Chip8
