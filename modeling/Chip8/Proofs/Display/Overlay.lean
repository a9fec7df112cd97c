import Chip8.Proofs.Display.Torus

namespace Chip8.Display

/-- A sprite and where its corner goes. -/
structure Stamp where
  column : UInt8
  row : UInt8
  sprite : List UInt8

def stamp (d : Display) (s : Stamp) : Display := (d.draw s.column s.row s.sprite).1

def stampAll (d : Display) (stamps : List Stamp) : Display := stamps.foldl stamp d

theorem eq_of_toNat_eq : ∀ {a b : Bool}, a.toNat = b.toNat → a = b := by decide

/-- Which of two sprites is drawn first does not matter. -/
theorem stamp_comm (d : Display) (s t : Stamp) : (d.stamp s).stamp t = (d.stamp t).stamp s := by
  apply eq_of_lit
  · intro p
    apply eq_of_toNat_eq
    simp only [stamp, lit_draw]
    omega
  · simp only [stamp, dirty_draw, Bool.or_right_comm]

theorem stampAll_perm (d : Display) {s t : List Stamp} (h : s.Perm t) : d.stampAll s = d.stampAll t :=
  h.foldl_eq' (fun a _ b _ d => d.stamp_comm a b) d

/-- What was noted before stays noted. -/
theorem foldl_hit_noted (d : Display) (noted : Bool) (places : List Place) :
    places.foldl hit (d, noted) =
      ((places.foldl hit (d, false)).1, noted || (places.foldl hit (d, false)).2) := by
  induction places generalizing d noted with
  | nil => simp
  | cons p places ih =>
    simp only [List.foldl_cons, hit_eq]
    rw [ih _ (noted || d.lit p), ih _ (false || d.lit p), Bool.false_or, Bool.or_assoc]

theorem spritePlaces_append (x y : Nat) (a b : List UInt8) :
    spritePlaces x y (a ++ b) = spritePlaces x y a ++ spritePlaces x (y + a.length) b := by
  induction a generalizing y with
  | nil => rfl
  | cons bits a ih =>
    have hlength : y + 1 + a.length = y + (bits :: a).length := by
      rw [List.length_cons]
      omega
    simp only [List.cons_append, spritePlaces, ih, hlength, List.append_assoc]

section Draw

variable (d : Display) (x y : UInt8) (sprite : List UInt8)

/-- A sprite is drawn as its upper part and then, below it, its lower part. -/
theorem draw_append (a b : List UInt8) :
    d.draw x y (a ++ b) =
      (((d.draw x y a).1.draw x (rowAt (y.toNat + a.length)) b).1,
        (d.draw x y a).2 || ((d.draw x y a).1.draw x (rowAt (y.toNat + a.length)) b).2) := by
  have hlower : spritePlaces x.toNat (rowAt (y.toNat + a.length)).toNat b =
      spritePlaces x.toNat (y.toNat + a.length) b := spritePlaces_congr b rfl (rowAt_emod _)
  simp only [draw]
  rw [spritePlaces_append, List.foldl_append, hlower]
  exact foldl_hit_noted _ _ _

theorem cells_draw_draw : ((d.draw x y sprite).1.draw x y sprite).1.cells = d.cells := by
  apply cells_eq_of_lit
  intro p
  apply eq_of_toNat_eq
  have hlt := Bool.toNat_lt (d.lit p)
  rw [lit_draw, lit_draw]
  omega

/-- A sprite that is no taller than the screen comes to a cell at most once. -/
theorem hits_le_one {x y : Nat} {sprite : List UInt8} (h : sprite.length ≤ rows) (p : Place) :
    hits x y sprite p ≤ 1 := by
  apply Finset.card_le_one.mpr
  rintro ⟨r, c⟩ hrc ⟨r', c'⟩ hrc'
  simp only [Finset.mem_filter, Finset.mem_product, Finset.mem_range] at hrc hrc'
  obtain ⟨⟨hr, hc⟩, -, hcolumn, hrow⟩ := hrc
  obtain ⟨⟨hr', hc'⟩, -, hcolumn', hrow'⟩ := hrc'
  unfold columns at hcolumn hcolumn'
  unfold rows at h hrow hrow'
  have hcc : c = c' := by omega
  have hrr : r = r' := by omega
  rw [hcc, hrr]

theorem exists_hits_pos (h : ∃ bits ∈ sprite, bits ≠ 0) (x y : Nat) : ∃ p, 0 < hits x y sprite p := by
  have hne : spritePlaces x y sprite ≠ [] := by
    intro hnil
    obtain ⟨bits, hmem, hbits⟩ := h
    exact hbits (spritePlaces_eq_nil_iff.mp hnil bits hmem)
  obtain ⟨p, hp⟩ := List.exists_mem_of_ne_nil _ hne
  refine ⟨p, ?_⟩
  rw [← count_spritePlaces]
  exact List.count_pos_iff.mpr hp

variable {d x y sprite}

theorem collision_again (h : sprite.length ≤ rows) :
    ((d.draw x y sprite).1.draw x y sprite).2 = true ↔
      ∃ p, d.lit p = false ∧ (d.draw x y sprite).1.lit p = true := by
  rw [collision_draw]
  apply exists_congr
  intro p
  have hone := hits_le_one (x := x.toNat) (y := y.toNat) h p
  have hafter := d.lit_draw x y sprite p
  have hlt := Bool.toNat_lt (d.lit p)
  rw [← Bool.toNat_eq_zero, ← Bool.toNat_eq_one]
  omega

theorem no_collision_of_dark (h : sprite.length ≤ rows) (hd : ∀ p, d.lit p = false) :
    (d.draw x y sprite).2 = false := by
  rw [← Bool.not_eq_true, collision_draw]
  rintro ⟨p, hp⟩
  have hone := hits_le_one (x := x.toNat) (y := y.toNat) h p
  rw [hd, Bool.toNat_false] at hp
  omega

theorem lights_of_dark (h : sprite.length ≤ rows) (hd : ∀ p, d.lit p = false)
    (hsprite : ∃ bits ∈ sprite, bits ≠ 0) :
    ∃ p, d.lit p = false ∧ (d.draw x y sprite).1.lit p = true := by
  obtain ⟨p, hp⟩ := exists_hits_pos sprite hsprite x.toNat y.toNat
  have hone := hits_le_one (x := x.toNat) (y := y.toNat) h p
  have hafter := d.lit_draw x y sprite p
  refine ⟨p, hd p, ?_⟩
  rw [hd, Bool.toNat_false] at hafter
  rw [← Bool.toNat_eq_one]
  omega

end Draw

/-- Sprites may be drawn in any order. One that is drawn twice is gone, and one is drawn as its upper part and
then, below it, its lower part, with a collision if either part has one. The second drawing of a sprite that is
no taller than the screen collides exactly if the first one lit a cell: so a sprite with a set bit collides on a
dark screen not at first, but when it is drawn again. -/
theorem sprites_commute_and_cancel (d : Display) :
    (∀ s t : List Stamp, s.Perm t → d.stampAll s = d.stampAll t) ∧
      (∀ x y sprite, ((d.draw x y sprite).1.draw x y sprite).1.cells = d.cells) ∧
      (∀ x y a b,
        let upper := d.draw x y a
        let lower := upper.1.draw x (rowAt (y.toNat + a.length)) b
        d.draw x y (a ++ b) = (lower.1, upper.2 || lower.2)) ∧
      ∀ x y sprite, sprite.length ≤ rows →
        let first := d.draw x y sprite
        let second := first.1.draw x y sprite
        (second.2 = true ↔ ∃ p, d.lit p = false ∧ first.1.lit p = true) ∧
          ((∀ p, d.lit p = false) → (∃ bits ∈ sprite, bits ≠ 0) →
            first.2 = false ∧ second.2 = true) := by
  refine ⟨fun _ _ => d.stampAll_perm, d.cells_draw_draw, d.draw_append, ?_⟩
  intro x y sprite hlength first second
  have hagain : second.2 = true ↔ ∃ p, d.lit p = false ∧ first.1.lit p = true := collision_again hlength
  refine ⟨hagain, fun hd hsprite => ⟨no_collision_of_dark hlength hd, ?_⟩⟩
  exact hagain.mpr (lights_of_dark hlength hd hsprite)

def hook : List UInt8 := [0xFF, 0x81]

theorem hooks_commute_and_cancel :
    blank.stampAll [⟨62, 31, hook⟩, ⟨0, 0, hook⟩] =
        blank.stampAll [⟨0, 0, hook⟩, ⟨62, 31, hook⟩] ∧
      (blank.draw 62 31 hook).2 = false ∧ ((blank.draw 62 31 hook).1.draw 62 31 hook).2 = true := by
  obtain ⟨hany, -, -, hagain⟩ := sprites_commute_and_cancel blank
  have hset : ∃ bits ∈ hook, bits ≠ 0 := ⟨0xFF, by decide, by decide⟩
  have hshort : hook.length ≤ rows := by decide
  exact ⟨hany _ _ (.swap _ _ []), (hagain 62 31 hook hshort).2 lit_blank hset⟩

end Chip8.Display
