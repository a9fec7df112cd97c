import Chip8.Proofs.Registers

namespace Chip8

section Bytes

variable (a b : UInt8)

theorem toNat_add_carry :
    256 * (decide (255 < a.toNat + b.toNat)).toNat + (a + b).toNat = a.toNat + b.toNat := by
  have ha := a.toNat_lt
  have hb := b.toNat_lt
  rw [UInt8.toNat_add]
  by_cases hcarry : 255 < a.toNat + b.toNat
  · rw [decide_eq_true hcarry, Bool.toNat_true]
    omega
  · rw [decide_eq_false hcarry, Bool.toNat_false]
    omega

theorem toNat_sub_emod : ((a - b).toNat : Int) = (a.toNat - b.toNat) % 256 := by
  have ha := a.toNat_lt
  have hb := b.toNat_lt
  rw [UInt8.toNat_sub]
  omega

theorem toNat_shiftRight_bit : 2 * (a >>> 1).toNat + (a.toNat.testBit 0).toNat = a.toNat := by
  have hhalf : (a >>> 1).toNat = a.toNat / 2 := UInt8.toNat_shiftRight a 1
  have hbit : (a.toNat.testBit 0).toNat = a.toNat / 2 ^ 0 % 2 := Nat.toNat_testBit a.toNat 0
  omega

theorem toNat_shiftLeft_bit : 256 * (a.toNat.testBit 7).toNat + (a <<< 1).toNat = 2 * a.toNat := by
  have ha := a.toNat_lt
  have hdouble : (a <<< 1).toNat = a.toNat <<< 1 % 2 ^ 8 := UInt8.toNat_shiftLeft a 1
  have hbit : (a.toNat.testBit 7).toNat = a.toNat / 2 ^ 7 % 2 := Nat.toNat_testBit a.toNat 7
  rw [Nat.shiftLeft_eq] at hdouble
  omega

end Bytes

/-- The second machine is the first one after an operation on register `x`: VF says whether `flag` holds, and where
`x` is not VF, flag and register are related as `result` says. -/
structure Machine.Operated (m : Machine) (x : Fin 16) (flag : Prop) (result : Nat → Nat → Prop) (n : Machine) :
    Prop where
  sets : m.Sets n [x, 0xF]
  flag_le : n.register 0xF ≤ 1
  flag_iff : n.register 0xF = 1 ↔ flag
  result : x ≠ 0xF → result (n.register 0xF) (n.register x)

namespace Processor

/-- A word operates on register `x`. -/
def Operates (p : Processor) (word : UInt16) (x : Fin 16) (flag : Prop) (result : Nat → Nat → Prop) : Prop :=
  ∃ n, p.Executes (.decode word) n ∧ p.machine.Operated x flag result n

/-- A word loads a value into register `x` and writes no other. -/
def Loads (p : Processor) (word : UInt16) (x : Fin 16) (value : Nat) : Prop :=
  ∃ n, p.Executes (.decode word) n ∧ p.machine.Sets n [x] ∧ n.register x = value

variable {p : Processor} {word : UInt16} {x : Fin 16} {b : UInt8} {on : Bool}

theorem operates_of_flagged {flag : Prop} {result : Nat → Nat → Prop}
    (h : p.Executes (.decode word) (p.machine.flagged (Word.digit x) b on)) (hflag : on = true ↔ flag)
    (hresult : result on.toNat b.toNat) : p.Operates word x flag result := by
  have hvf := p.machine.register_flagged_flag x b on
  refine ⟨_, h, ?_⟩
  constructor
  case sets => exact p.machine.sets_flagged x b on
  case flag_le =>
    rw [hvf]
    exact Bool.toNat_le on
  case flag_iff =>
    rw [hvf, Bool.toNat_eq_one]
    exact hflag
  case result =>
    intro hx
    rw [hvf, p.machine.register_flagged_self b on hx]
    exact hresult

theorem loads_of_loaded {value : Nat} (h : p.Executes (.decode word) (p.machine.loaded (Word.digit x) b))
    (hvalue : b.toNat = value) : p.Loads word x value := by
  refine ⟨_, h, p.machine.sets_loaded x b, ?_⟩
  rw [Machine.register_loaded, if_pos rfl, hvalue]

open Word (ofDigits)

section Operations

variable (p : Processor) (x y : Fin 16)

theorem operates_add :
    p.Operates (ofDigits 0x8 x y 0x4) x (255 < p.machine.register x + p.machine.register y)
      fun vf vx => 256 * vf + vx = p.machine.register x + p.machine.register y := by
  have hsum := toNat_add_carry (p.machine.value (Word.digit x)) (p.machine.value (Word.digit y))
  have hw := Word.Means.addReg (Word.group_ofDigits 0x8 x y 0x4) (Word.last_ofDigits 0x8 x y 0x4)
  rw [Word.x_ofDigits, Word.y_ofDigits] at hw
  rw [← Machine.toNat_value, ← Machine.toNat_value]
  exact operates_of_flagged (executes_of_means hw rfl rfl rfl) decide_eq_true_iff hsum

theorem operates_sub :
    p.Operates (ofDigits 0x8 x y 0x5) x (p.machine.register y ≤ p.machine.register x)
      fun _ vx => (vx : Int) = (p.machine.register x - p.machine.register y) % 256 := by
  have hdiff := toNat_sub_emod (p.machine.value (Word.digit x)) (p.machine.value (Word.digit y))
  have hw := Word.Means.subReg (Word.group_ofDigits 0x8 x y 0x5) (Word.last_ofDigits 0x8 x y 0x5)
  rw [Word.x_ofDigits, Word.y_ofDigits] at hw
  rw [← Machine.toNat_value, ← Machine.toNat_value]
  exact operates_of_flagged (executes_of_means hw rfl rfl rfl) decide_eq_true_iff hdiff

theorem operates_subFrom :
    p.Operates (ofDigits 0x8 x y 0x7) x (p.machine.register x ≤ p.machine.register y)
      fun _ vx => (vx : Int) = (p.machine.register y - p.machine.register x) % 256 := by
  have hdiff := toNat_sub_emod (p.machine.value (Word.digit y)) (p.machine.value (Word.digit x))
  have hw := Word.Means.subFromReg (Word.group_ofDigits 0x8 x y 0x7) (Word.last_ofDigits 0x8 x y 0x7)
  rw [Word.x_ofDigits, Word.y_ofDigits] at hw
  rw [← Machine.toNat_value, ← Machine.toNat_value]
  exact operates_of_flagged (executes_of_means hw rfl rfl rfl) decide_eq_true_iff hdiff

theorem operates_shiftRight :
    p.Operates (ofDigits 0x8 x y 0x6) x (p.machine.register x % 2 = 1)
      fun vf vx => 2 * vx + vf = p.machine.register x := by
  have hhalf := toNat_shiftRight_bit (p.machine.value (Word.digit x))
  have hw := Word.Means.shiftRight (Word.group_ofDigits 0x8 x y 0x6) (Word.last_ofDigits 0x8 x y 0x6)
  rw [Word.x_ofDigits] at hw
  rw [← Machine.toNat_value]
  have hbit : (p.machine.value (Word.digit x)).toNat.testBit 0 = true ↔
      (p.machine.value (Word.digit x)).toNat % 2 = 1 := by
    rw [Nat.testBit_zero, decide_eq_true_iff]
  exact operates_of_flagged (executes_of_means hw rfl rfl rfl) hbit hhalf

theorem operates_shiftLeft :
    p.Operates (ofDigits 0x8 x y 0xE) x (p.machine.register x / 128 = 1)
      fun vf vx => 256 * vf + vx = 2 * p.machine.register x := by
  have hdouble := toNat_shiftLeft_bit (p.machine.value (Word.digit x))
  have hw := Word.Means.shiftLeft (Word.group_ofDigits 0x8 x y 0xE) (Word.last_ofDigits 0x8 x y 0xE)
  rw [Word.x_ofDigits] at hw
  rw [← Machine.toNat_value]
  have hbit : (p.machine.value (Word.digit x)).toNat.testBit 7 = true ↔
      (p.machine.value (Word.digit x)).toNat / 128 = 1 := by
    have hlt := (p.machine.value (Word.digit x)).toNat_lt
    rw [Nat.testBit_eq_decide_div_mod_eq, decide_eq_true_iff]
    omega
  exact operates_of_flagged (executes_of_means hw rfl rfl rfl) hbit hdouble

theorem loads_addByte (k l : Fin 16) :
    p.Loads (ofDigits 0x7 x k l) x ((p.machine.register x + (k.val * 16 + l.val)) % 256) := by
  have hw := Word.Means.addByte (Word.group_ofDigits 0x7 x k l)
  rw [Word.x_ofDigits] at hw
  refine loads_of_loaded (executes_of_means hw rfl rfl rfl) ?_
  rw [UInt8.toNat_add, Machine.toNat_value, Word.toNat_kk, Word.low_ofDigits]

theorem loads_bitwise :
    p.Loads (ofDigits 0x8 x y 0x0) x (p.machine.register y) ∧
      p.Loads (ofDigits 0x8 x y 0x1) x (p.machine.register x ||| p.machine.register y) ∧
      p.Loads (ofDigits 0x8 x y 0x2) x (p.machine.register x &&& p.machine.register y) ∧
      p.Loads (ofDigits 0x8 x y 0x3) x (p.machine.register x ^^^ p.machine.register y) := by
  have hgroup := Word.group_ofDigits 0x8 x y
  have hlast := Word.last_ofDigits 0x8 x y
  have hx := Word.x_ofDigits 0x8 x y
  have hy := Word.y_ofDigits 0x8 x y
  simp only [← Machine.toNat_value, ← UInt8.toNat_or, ← UInt8.toNat_and, ← UInt8.toNat_xor]
  refine ⟨?_, ?_, ?_, ?_⟩
  · have hw := Word.Means.loadReg (hgroup 0x0) (hlast 0x0)
    rw [hx, hy] at hw
    exact loads_of_loaded (executes_of_means hw rfl rfl rfl) rfl
  · have hw := Word.Means.or (hgroup 0x1) (hlast 0x1)
    rw [hx, hy] at hw
    exact loads_of_loaded (executes_of_means hw rfl rfl rfl) rfl
  · have hw := Word.Means.and (hgroup 0x2) (hlast 0x2)
    rw [hx, hy] at hw
    exact loads_of_loaded (executes_of_means hw rfl rfl rfl) rfl
  · have hw := Word.Means.xor (hgroup 0x3) (hlast 0x3)
    rw [hx, hy] at hw
    exact loads_of_loaded (executes_of_means hw rfl rfl rfl) rfl

end Operations

/-- On every machine and for all registers, VF among them and equal ones: an operation leaves in VF the carry of
the sum, "no borrow" of the difference or the bit that was shifted out, each of the values before it; and unless
it goes to VF, flag and result together are the exact sum, half or double, and the result the difference modulo
256. Nothing else is written, and the operations without a flag write their register alone. -/
theorem flags_exact (p : Processor) (x y : Fin 16) :
    let a := p.machine.register x
    let b := p.machine.register y
    p.Operates (ofDigits 0x8 x y 0x4) x (255 < a + b) (fun vf vx => 256 * vf + vx = a + b) ∧
      p.Operates (ofDigits 0x8 x y 0x5) x (b ≤ a) (fun _ vx => (vx : Int) = ((a : Int) - b) % 256) ∧
      p.Operates (ofDigits 0x8 x y 0x7) x (a ≤ b) (fun _ vx => (vx : Int) = ((b : Int) - a) % 256) ∧
      p.Operates (ofDigits 0x8 x y 0x6) x (a % 2 = 1) (fun vf vx => 2 * vx + vf = a) ∧
      p.Operates (ofDigits 0x8 x y 0xE) x (a / 128 = 1) (fun vf vx => 256 * vf + vx = 2 * a) ∧
      (∀ k l, p.Loads (ofDigits 0x7 x k l) x ((a + (k.val * 16 + l.val)) % 256)) ∧
      p.Loads (ofDigits 0x8 x y 0x0) x b ∧ p.Loads (ofDigits 0x8 x y 0x1) x (a ||| b) ∧
      p.Loads (ofDigits 0x8 x y 0x2) x (a &&& b) ∧ p.Loads (ofDigits 0x8 x y 0x3) x (a ^^^ b) :=
  ⟨p.operates_add x y, p.operates_sub x y, p.operates_subFrom x y, p.operates_shiftRight x y,
    p.operates_shiftLeft x y, p.loads_addByte x, p.loads_bitwise x y⟩

end Processor

end Chip8
