import Chip8.Proofs.CallStack
import Chip8.Proofs.InstructionTable

namespace Chip8

namespace Machine

/-- The number in the register that a digit names. -/
def register (m : Machine) (x : Fin 16) : Nat := (m.v.get x).toNat

/-- The second machine is the first one after an instruction that writes only the given registers. -/
structure Sets (m n : Machine) (written : List (Fin 16)) : Prop where
  rest : n = { m with v := n.v, pc := m.pc + 2 }
  others : ∀ k ∉ written, n.register k = m.register k

variable (m : Machine) (x : Fin 16)

theorem getElem?_v : m.v[x.val]? = some (m.v.get x) := Vector.getElem?_eq_getElem x.isLt

theorem value_digit : m.value (Word.digit x) = m.v.get x := by
  rw [value, Word.toNat_digit, getElem?_v]
  rfl

theorem toNat_value : (m.value (Word.digit x)).toNat = m.register x := by
  rw [value_digit]
  rfl

theorem register_withValue (b : UInt8) (k : Fin 16) :
    (m.withValue (Word.digit x) b).register k = if k = x then b.toNat else m.register k := by
  rw [← toNat_value, ← toNat_value, value, withValue, Vector.getElem?_setIfInBounds, Word.toNat_digit,
    Word.toNat_digit]
  by_cases hk : k = x
  · subst hk
    have hlt : k.val < registerCount := k.isLt
    simp [hlt]
  · have hne : ¬ x.val = k.val := fun h => hk (Fin.ext h.symm)
    rw [if_neg hne, if_neg hk, value, Word.toNat_digit]

theorem register_loaded (b : UInt8) (k : Fin 16) :
    (m.loaded (Word.digit x) b).register k = if k = x then b.toNat else m.register k :=
  m.register_withValue x b k

theorem sets_loaded (b : UInt8) : m.Sets (m.loaded (Word.digit x) b) [x] := by
  refine ⟨rfl, fun k hk => ?_⟩
  rw [register_loaded, if_neg (List.ne_of_not_mem_cons hk)]

section Flagged

variable (b : UInt8) (on : Bool)

/-- The flag is written last: where `x` is VF, its value is lost. -/
theorem register_flagged (k : Fin 16) :
    (m.flagged (Word.digit x) b on).register k =
      if k = 0xF then on.toNat else if k = x then b.toNat else m.register k := by
  have hflag : (if on then (1 : UInt8) else 0).toNat = on.toNat := by cases on <;> rfl
  have hlast := register_loaded (m.withValue (Word.digit x) b) 0xF (if on then 1 else 0) k
  rw [hflag, register_withValue] at hlast
  exact hlast

theorem register_flagged_flag : (m.flagged (Word.digit x) b on).register 0xF = on.toNat := by
  rw [register_flagged, if_pos rfl]

theorem register_flagged_self {x : Fin 16} (hx : x ≠ 0xF) :
    (m.flagged (Word.digit x) b on).register x = b.toNat := by
  rw [register_flagged, if_neg hx, if_pos rfl]

theorem sets_flagged : m.Sets (m.flagged (Word.digit x) b on) [x, 0xF] := by
  refine ⟨rfl, fun k hk => ?_⟩
  obtain ⟨hx, hflag⟩ : k ≠ x ∧ k ≠ 0xF := by simpa using hk
  rw [register_flagged, if_neg hflag, if_neg hx]

end Flagged

end Machine

namespace Processor

def on (p : Processor) (m : Machine) : Processor := { p with machine := m }

/-- An instruction ends well and leaves a machine; random source and counter stay as they are. -/
def Executes (p : Processor) (i : Instruction) (m : Machine) : Prop := p.execute i = (p.on m, .ok ())

theorem executes_after {p : Processor} {i : Instruction} (hi : i.Fits) (hr : i ≠ .ret) (hd : i.draws = false)
    (hf : p.machine.fault? i = none) : p.Executes i (p.machine.after 0 i) := by
  have hrun := Work.run_execute_of_ne_ret (m := p.machine) 0 hi hr
  rw [hf] at hrun
  simp only [Executes, execute, hd, Bool.false_eq_true, if_false, hrun]
  rfl

/-- What a row of the instruction table leaves, if it is no return, draws nothing and raises no fault. -/
theorem executes_of_means {p : Processor} {word : UInt16} {i : Instruction} (hw : Word.Means word i)
    (hr : i.isReturn = false) (hd : i.draws = false) (hf : p.machine.fault? i = none) :
    p.Executes (.decode word) (p.machine.after 0 i) := by
  -- operands of a decoded word fit, whatever the row
  have hi := Instruction.decode_fits word
  rw [hw.decode_eq] at hi ⊢
  refine executes_after hi ?_ hd hf
  rintro rfl
  cases hr

end Processor

end Chip8
