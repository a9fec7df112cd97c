import Chip8.Display
import Mathlib.Algebra.BigOperators.Group.Finset.Sigma
import Mathlib.Algebra.BigOperators.Intervals

namespace Chip8.Display

/-- How often a sprite with its corner at column `x` and row `y` comes to a cell: the number of its set bits, in
row `r` and column `c` of the sprite, that lie over the cell once they are taken around the torus. -/
def hits (x y : Nat) (sprite : List UInt8) (p : Place) : Nat :=
  ((Finset.range sprite.length ×ˢ Finset.range 8).filter fun (r, c) =>
    (sprite.getD r 0).toNat.testBit (7 - c) ∧ (x + c) % columns = p.val % columns ∧
      (y + r) % rows = p.val / columns).card

theorem place_eq_iff {x y : Nat} {p : Place} :
    place x y = p ↔ x % columns = p.val % columns ∧ y % rows = p.val / columns := by
  have hp := p.isLt
  rw [Fin.ext_iff]
  simp only [place, columns, rows, cellCount] at hp ⊢
  omega

section Flips

variable (acc : Display × Bool) (places : List Place)

/-- A cell is flipped once for each time that it comes. -/
theorem lit_foldl_hit (p : Place) :
    ((places.foldl hit acc).1.lit p).toNat = ((acc.1.lit p).toNat + places.count p) % 2 := by
  induction places generalizing acc with
  | nil => cases h : acc.1.lit p <;> simp [h]
  | cons q places ih =>
    rw [List.foldl_cons, ih, hit_eq, lit_flip, List.count_cons]
    by_cases hq : p = q
    · subst hq
      cases acc.1.lit p <;> simp <;> omega
    · simp [hq, Ne.symm hq]

/-- A collision is noted if some cell comes while it is lit: a lit one at its first time, a dark one at its
second. -/
theorem collision_foldl_hit :
    (places.foldl hit acc).2 = true ↔
      acc.2 = true ∨ ∃ p, 2 ≤ (acc.1.lit p).toNat + places.count p := by
  induction places generalizing acc with
  | nil =>
    have hlt (p : Place) : ¬ 2 ≤ (acc.1.lit p).toNat := Nat.not_le.mpr (Bool.toNat_lt _)
    simp [hlt]
  | cons q places ih =>
    rw [List.foldl_cons, ih, hit_eq]
    cases hq : acc.1.lit q with
    | true =>
      have hcollides : 2 ≤ (acc.1.lit q).toNat + (q :: places).count q := by
        rw [hq, List.count_cons_self, Bool.toNat_true]
        omega
      exact iff_of_true (.inl (Bool.or_true _)) (.inr ⟨q, hcollides⟩)
    | false =>
      -- the flip that lights the cell takes the place of this time that it comes
      have hsame (p : Place) : ((acc.1.flip q).lit p).toNat + places.count p =
          (acc.1.lit p).toNat + (q :: places).count p := by
        rw [lit_flip, List.count_cons]
        by_cases hp : p = q
        · subst hp
          simp [hq]
          omega
        · simp [hp, Ne.symm hp]
      simp only [hsame, Bool.or_false]

theorem dirty_foldl_hit : (places.foldl hit acc).1.dirty = (acc.1.dirty || !places.isEmpty) := by
  induction places generalizing acc with
  | nil => simp
  | cons q places ih =>
    rw [List.foldl_cons, ih]
    simp [hit, flip]

end Flips

theorem card_range_filter (n : Nat) (f : Nat → Bool) :
    ((Finset.range n).filter fun k => f k).card = (List.range n).countP f := by
  rw [List.countP_eq_length_filter, Finset.card_def, Finset.filter_val, Finset.range_val,
    ← Multiset.coe_range, Multiset.filter_coe, Multiset.coe_card]
  simp only [Bool.decide_eq_true]

/-- How often a row of a sprite comes to a cell. -/
def rowHits (x y : Nat) (bits : UInt8) (p : Place) : Nat :=
  ((Finset.range 8).filter fun c => bits.toNat.testBit (7 - c) ∧ (x + c) % columns = p.val % columns ∧
    y % rows = p.val / columns).card

theorem count_row (x y : Nat) (bits : UInt8) (p : Place) :
    ((setColumns bits).map fun c => place (x + c) y).count p = rowHits x y bits p := by
  rw [setColumns, List.count, List.countP_map, List.countP_filter, ← card_range_filter, rowHits]
  congr 1
  ext c
  simp only [Finset.mem_filter, Function.comp_apply, Bool.and_eq_true, beq_iff_eq, place_eq_iff]
  tauto

theorem hits_cons (x y : Nat) (bits : UInt8) (below : List UInt8) (p : Place) :
    hits x y (bits :: below) p = rowHits x y bits p + hits x (y + 1) below p := by
  simp only [hits, rowHits, Finset.card_filter, Finset.sum_product, List.length_cons,
    Finset.sum_range_succ' _ below.length]
  rw [Nat.add_comm]
  simp only [List.getD_cons_zero, List.getD_cons_succ, Nat.add_zero, Nat.add_assoc, Nat.add_comm 1]

/-- The places of a sprite come as often as it hits them. -/
theorem count_spritePlaces (x y : Nat) (sprite : List UInt8) (p : Place) :
    (spritePlaces x y sprite).count p = hits x y sprite p := by
  induction sprite generalizing y with
  | nil => rfl
  | cons bits below ih => rw [spritePlaces, List.count_append, count_row, ih, hits_cons]

theorem setColumns_eq_nil_iff {bits : UInt8} : setColumns bits = [] ↔ bits = 0 := by
  constructor
  · intro h
    apply UInt8.toNat_inj.mp
    apply Nat.eq_of_testBit_eq
    intro i
    rw [UInt8.toNat_zero, Nat.zero_testBit]
    by_cases hi : i < 8
    · have hcolumn : 7 - i ∈ List.range 8 := List.mem_range.mpr (by omega)
      have hunset := List.filter_eq_nil_iff.mp h (7 - i) hcolumn
      have hbit : 7 - (7 - i) = i := by omega
      rw [hbit] at hunset
      exact Bool.eq_false_iff.mpr hunset
    · have hlt : bits.toNat < 2 ^ i := bits.toNat_lt.trans_le (Nat.pow_le_pow_right (by decide) (by omega))
      exact Nat.testBit_lt_two_pow hlt
  · rintro rfl
    rfl

theorem spritePlaces_eq_nil_iff {x y : Nat} {sprite : List UInt8} :
    spritePlaces x y sprite = [] ↔ ∀ bits ∈ sprite, bits = 0 := by
  induction sprite generalizing y with
  | nil => simp [spritePlaces]
  | cons bits below ih =>
    rw [spritePlaces, List.append_eq_nil_iff, List.map_eq_nil_iff, setColumns_eq_nil_iff, ih,
      List.forall_mem_cons]

section Draw

variable (d : Display) (x y : UInt8) (sprite : List UInt8)

theorem lit_draw (p : Place) :
    ((d.draw x y sprite).1.lit p).toNat = ((d.lit p).toNat + hits x.toNat y.toNat sprite p) % 2 := by
  rw [draw, lit_foldl_hit, count_spritePlaces]

theorem collision_draw :
    (d.draw x y sprite).2 = true ↔ ∃ p, 2 ≤ (d.lit p).toNat + hits x.toNat y.toNat sprite p := by
  rw [draw, collision_foldl_hit]
  simp only [count_spritePlaces, Bool.false_eq_true, false_or]

theorem dirty_draw : (d.draw x y sprite).1.dirty = (d.dirty || sprite.any (· != 0)) := by
  have hflips : (!(spritePlaces x.toNat y.toNat sprite).isEmpty) = sprite.any (· != 0) := by
    rw [Bool.eq_iff_iff]
    simp [spritePlaces_eq_nil_iff]
  rw [draw, dirty_foldl_hit, hflips]

/-- Drawing is exclusive or on the torus: a cell holds what it held plus the number of times that the sprite
comes to it, modulo two; a collision is noted exactly if the sprite comes to a lit cell, or twice to a dark one;
and the flag is up exactly if it was or the sprite has a set bit. -/
theorem draw_xors_torus :
    let after := d.draw x y sprite
    let n := hits x.toNat y.toNat sprite
    (∀ p, (after.1.lit p).toNat = ((d.lit p).toNat + n p) % 2) ∧
      (after.2 = true ↔ ∃ p, d.lit p = true ∧ 1 ≤ n p ∨ d.lit p = false ∧ 2 ≤ n p) ∧
      (after.1.dirty = true ↔ d.dirty = true ∨ ∃ bits ∈ sprite, bits ≠ 0) := by
  intro after n
  refine ⟨d.lit_draw x y sprite, ?_, ?_⟩
  · have hcell (p : Place) : 2 ≤ (d.lit p).toNat + n p ↔
        d.lit p = true ∧ 1 ≤ n p ∨ d.lit p = false ∧ 2 ≤ n p := by
      cases d.lit p with
      | true =>
        rw [Bool.toNat_true]
        simp
        omega
      | false => simp
    rw [d.collision_draw x y sprite, exists_congr hcell]
  · rw [d.dirty_draw x y sprite, Bool.or_eq_true, List.any_eq_true]
    simp only [bne_iff_ne]

/-- A sprite that is one row taller than the screen comes to its first row again. -/
example : hits 0 0 (List.replicate 33 0x80) (place 0 0) = 2 := by decide +kernel

end Draw

end Chip8.Display
