import Chip8.Console.Save
import Chip8.Proofs.Outcome

namespace Chip8

namespace Image

theorem machine_valid {image : Image} {m : Machine} (h : image.machine = .ok m) : m.Valid := by
  unfold machine at h
  split at h
  next =>
    split at h
    next hs =>
      split at h
      next =>
        split at h <;> cases h
        exact hs
      next => cases h
    next => cases h
  next => cases h

/-- Validation asks for the size of memory, the bound of the stack pointer, the number of cells and their
values. -/
theorem validate_eq_ok_iff (image : Image) :
    image.validate = .ok () ↔
      image.memory.length = memorySize ∧ image.sp ≤ stackSize ∧
        image.pixels.length = Display.cellCount ∧ ∀ p ∈ image.pixels, p ≤ 1 := by
  unfold validate machine
  by_cases hm : image.memory.length = memorySize
  · by_cases hs : image.sp ≤ stackSize
    · by_cases hp : image.pixels.length = Display.cellCount
      · by_cases ha : (image.pixels.all fun p => decide (p ≤ 1)) = true
        · have hall : ∀ p ∈ image.pixels, p ≤ 1 := by simpa using ha
          simp only [hm, hs, hp, ha, dite_true, if_true, true_and]
          exact ⟨fun _ => hall, fun _ => rfl⟩
        · have hall : ¬ ∀ p ∈ image.pixels, p ≤ 1 := fun h => ha (by simpa using h)
          simp [hm, hs, hp, ha, hall]
      · simp [hm, hs, hp]
    · simp [hm, hs]
  · simp [hm]

theorem validate_ofMachine {m : Machine} (hm : m.Valid) : (ofMachine m).validate = .ok () := by
  rw [validate, machine_ofMachine hm]
  rfl

/-- Only the image of a valid machine is admitted, and it gives that machine. -/
theorem machine_eq_ok_iff {image : Image} {m : Machine} :
    image.machine = .ok m ↔ m.Valid ∧ image = ofMachine m := by
  constructor
  · intro h
    refine ⟨machine_valid h, ?_⟩
    have hvalidate : image.validate = .ok () := by
      rw [validate, h]
      rfl
    obtain ⟨hm, hs, hp, hall⟩ := (validate_eq_ok_iff image).mp hvalidate
    have hall' : (image.pixels.all fun p => decide (p ≤ 1)) = true := by simpa using hall
    simp only [machine, hm, hs, hp, hall', dite_true, if_true] at h
    cases h
    unfold ofMachine
    simp only [Vector.toList_mk]
  · rintro ⟨hm, rfl⟩
    exact machine_ofMachine hm

end Image

namespace Save

theorem readMachine_valid {v : Json} {m : Machine} (h : readMachine v = .ok m) : m.Valid := by
  unfold readMachine at h
  split at h
  next => cases h
  next image _ =>
    split at h
    next => cases h
    next hm =>
      cases h
      exact Image.machine_valid hm

/-- The counter of a save, zero if it has none that is a whole number of 64 bits. -/
def counter (save : Json) : UInt64 := ((save.member? "instructions").bind Json.word64?).getD 0

/-- A save is read if it is for this system, has the version of the format and a machine section that is read. -/
theorem read_eq_ok_iff {save : Json} {m : Machine} {executed : UInt64} :
    read save = .ok (m, executed) ↔
      (save.member? "system").bind Json.text? = some systemName ∧
        (save.member? "version").bind Json.word64? = some version ∧
        (∃ v, save.member? "machine" = some v ∧ readMachine v = .ok m) ∧ executed = counter save := by
  unfold read
  by_cases hs : (save.member? "system").bind Json.text? = some systemName
  · by_cases hv : (save.member? "version").bind Json.word64? = some version
    · cases hm : save.member? "machine" with
      | none => simp [hs, hv]
      | some v =>
        cases hr : readMachine v with
        | error r => simp [hs, hv, hr]
        | ok n => simp [hs, hv, hr, counter, @eq_comm _ executed]
    · simp [hs, hv]
  · simp [hs]

/-- A save that is not refused holds a valid machine. -/
theorem read_valid {save : Json} {m : Machine} {executed : UInt64}
    (h : read save = .ok (m, executed)) : m.Valid := by
  obtain ⟨-, -, ⟨v, -, hv⟩, -⟩ := read_eq_ok_iff.mp h
  exact readMachine_valid hv

end Save

end Chip8
