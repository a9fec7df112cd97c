namespace Chip8

def tickRate : Nat := 60

structure Timers where
  delay : UInt8
  sound : UInt8
  deriving DecidableEq

namespace Timers

def stopped : Timers := ⟨0, 0⟩

def countDown (t : UInt8) : UInt8 := if t = 0 then 0 else t - 1

theorem toNat_countDown (t : UInt8) : (countDown t).toNat = t.toNat - 1 := by
  unfold countDown
  split
  next h => simp [h]
  next h =>
    have hn : t.toNat ≠ 0 := fun e => h (UInt8.toNat_inj.mp e)
    have hl : (1 : UInt8) ≤ t := UInt8.le_iff_toNat_le.mpr (Nat.one_le_iff_ne_zero.mpr hn)
    exact UInt8.toNat_sub_of_le t 1 hl

def tick (t : Timers) : Timers := ⟨countDown t.delay, countDown t.sound⟩

def sounding (t : Timers) : Bool := t.sound != 0

end Timers

end Chip8
