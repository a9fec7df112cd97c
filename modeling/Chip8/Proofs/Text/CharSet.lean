import Chip8.Text.CharSet

namespace Chip8.Text.CharSet

section Ranges

variable {c : Char} {r : Nat × Nat} {rs ss : List (Nat × Nat)} {first : Nat}

theorem toNat_char (c : Char) : c.toNat < 0xD800 ∨ 0xDFFF < c.toNat ∧ c.toNat < 0x110000 := c.valid

theorem within_nil : within [] c = false := rfl

theorem within_cons_iff : within (r :: rs) c = true ↔ (r.1 ≤ c.toNat ∧ c.toNat ≤ r.2) ∨ within rs c = true := by
  rw [within, List.any_cons, Bool.or_eq_true, decide_eq_true_eq, within]

theorem within_append : within (rs ++ ss) c = (within rs c || within ss c) := List.any_append

theorem within_iff : within rs c = true ↔ ∃ r ∈ rs, r.1 ≤ c.toNat ∧ c.toNat ≤ r.2 := by
  simp [within]

/-- Ranges of which none is empty, in ascending order and apart from each other. -/
structure Ascending (rs : List (Nat × Nat)) : Prop where
  nonempty : ∀ r ∈ rs, r.1 ≤ r.2
  apart : rs.Pairwise fun a b => a.2 < b.1

theorem ascending_nil : Ascending [] := ⟨nofun, .nil⟩

theorem ascending_cons_iff : Ascending (r :: rs) ↔ r.1 ≤ r.2 ∧ (∀ s ∈ rs, r.2 < s.1) ∧ Ascending rs := by
  constructor
  · rintro ⟨hne, hapart⟩
    rw [List.pairwise_cons] at hapart
    exact ⟨hne r List.mem_cons_self, hapart.1, fun s hs => hne s (List.mem_cons_of_mem r hs), hapart.2⟩
  · rintro ⟨hr, hlt, hrs⟩
    refine ⟨fun s hs => ?_, List.pairwise_cons.mpr ⟨hlt, hrs.apart⟩⟩
    rcases List.mem_cons.mp hs with rfl | hs
    · exact hr
    · exact hrs.nonempty s hs

theorem within_flatMap_characters : within (rs.flatMap characters) c = within rs c := by
  have hchar := toNat_char c
  have hone (r : Nat × Nat) :
      (∃ s ∈ characters r, s.1 ≤ c.toNat ∧ c.toNat ≤ s.2) ↔ r.1 ≤ c.toNat ∧ c.toNat ≤ r.2 := by
    simp only [characters, List.mem_filter, List.mem_cons, List.not_mem_nil, or_false, decide_eq_true_eq]
    constructor
    · rintro ⟨s, ⟨rfl | rfl, -⟩, hs⟩
      · omega
      · omega
    · rintro ⟨hle, hge⟩
      rcases hchar with hlow | hhigh
      · exact ⟨(r.1, min r.2 0xD7FF), ⟨.inl rfl, by omega⟩, by omega⟩
      · exact ⟨(max r.1 0xE000, r.2), ⟨.inr rfl, by omega⟩, by omega⟩
  rw [Bool.eq_iff_iff, within_iff, within_iff]
  constructor
  · rintro ⟨s, hs, hc⟩
    obtain ⟨r, hr, hsr⟩ := List.mem_flatMap.mp hs
    exact ⟨r, hr, (hone r).mp ⟨s, hsr, hc⟩⟩
  · rintro ⟨r, hr, hc⟩
    obtain ⟨s, hsr, hs⟩ := (hone r).mpr hc
    exact ⟨s, List.mem_flatMap.mpr ⟨r, hr, hsr⟩, hs⟩

theorem bounds_of_mem_characters {s : Nat × Nat} (h : s ∈ characters r) : r.1 ≤ s.1 ∧ s.1 ≤ s.2 ∧ s.2 ≤ r.2 := by
  simp only [characters, List.mem_filter, List.mem_cons, List.not_mem_nil, or_false, decide_eq_true_eq] at h
  obtain ⟨rfl | rfl, hle⟩ := h
  · omega
  · omega

theorem nonempty_flatMap_characters : ∀ s ∈ rs.flatMap characters, s.1 ≤ s.2 := by
  intro s hs
  obtain ⟨r, -, hr⟩ := List.mem_flatMap.mp hs
  exact (bounds_of_mem_characters hr).2.1

theorem ascending_flatMap_characters (h : Ascending rs) : Ascending (rs.flatMap characters) := by
  refine ⟨nonempty_flatMap_characters, List.pairwise_flatMap.mpr ⟨fun r _ => ?_, h.apart.imp fun hrs s hs t ht => ?_⟩⟩
  · refine List.Pairwise.filter _ (List.pairwise_pair.mpr ?_)
    simp only
    omega
  · have hs := bounds_of_mem_characters hs
    have ht := bounds_of_mem_characters ht
    omega

theorem le_of_mem_gaps (h : Ascending rs) (hfirst : ∀ r ∈ rs, first ≤ r.1) : ∀ r ∈ gaps first rs, first ≤ r.1 := by
  induction rs generalizing first with
  | nil =>
    intro r hr
    rw [gaps] at hr
    split at hr
    · rw [List.mem_singleton] at hr
      exact hr ▸ Nat.le_refl first
    · cases hr
  | cons s rest ih =>
    obtain ⟨hne, hlt, hrest⟩ := ascending_cons_iff.mp h
    have hs := hfirst s List.mem_cons_self
    have hlater (r : Nat × Nat) (hr : r ∈ gaps (s.2 + 1) rest) : first ≤ r.1 := by
      have hle := ih hrest hlt r hr
      omega
    intro r hr
    rw [gaps] at hr
    split at hr
    · rcases List.mem_cons.mp hr with rfl | hr
      · exact Nat.le_refl first
      · exact hlater r hr
    · exact hlater r hr

theorem ascending_gaps (h : Ascending rs) (hfirst : ∀ r ∈ rs, first ≤ r.1) : Ascending (gaps first rs) := by
  induction rs generalizing first with
  | nil =>
    rw [gaps]
    split
    next hle => exact ascending_cons_iff.mpr ⟨hle, nofun, ascending_nil⟩
    next => exact ascending_nil
  | cons s rest ih =>
    obtain ⟨hne, hlt, hrest⟩ := ascending_cons_iff.mp h
    rw [gaps]
    split
    next hgap =>
      refine ascending_cons_iff.mpr ⟨by simp only; omega, fun r hr => ?_, ih hrest hlt⟩
      have hle := le_of_mem_gaps hrest hlt r hr
      simp only
      omega
    next => exact ih hrest hlt

/-- The gaps have what is not in the ranges, from the first code point on. -/
theorem within_gaps_iff (h : Ascending rs) (hfirst : ∀ r ∈ rs, first ≤ r.1) :
    within (gaps first rs) c = true ↔ first ≤ c.toNat ∧ ¬ within rs c = true := by
  induction rs generalizing first with
  | nil =>
    have hchar := toNat_char c
    have hlast : c.toNat ≤ lastCode := by
      unfold lastCode
      omega
    rw [gaps]
    split
    · simp only [within_cons_iff, within_nil, Bool.false_eq_true, or_false, not_false_eq_true, and_true]
      omega
    · simp only [within_nil, Bool.false_eq_true, not_false_eq_true, and_true, false_iff]
      omega
  | cons s rest ih =>
    obtain ⟨hne, hlt, hrest⟩ := ascending_cons_iff.mp h
    have hs := hfirst s List.mem_cons_self
    have hlater := ih hrest hlt
    have hafter (hin : within rest c = true) : s.2 < c.toNat := by
      obtain ⟨r, hr, hle, -⟩ := within_iff.mp hin
      exact Nat.lt_of_lt_of_le (hlt r hr) hle
    rw [gaps]
    by_cases hin : within rest c = true
    · have hc := hafter hin
      split <;> simp only [within_cons_iff, hlater, hin, not_true_eq_false, and_false, or_false, or_true, iff_false]
      omega
    · rw [Bool.not_eq_true] at hin
      split <;> simp only [within_cons_iff, hlater, hin, Bool.false_eq_true, not_false_eq_true, and_true, or_false] <;>
        omega

theorem ascending_others (h : Ascending rs) : Ascending (others rs) :=
  ascending_flatMap_characters (ascending_gaps h fun _ _ => Nat.zero_le _)

theorem within_others (h : Ascending rs) : within (others rs) c = !within rs c := by
  rw [others, within_flatMap_characters, Bool.eq_iff_iff, within_gaps_iff h fun _ _ => Nat.zero_le _]
  simp

theorem le_of_mem_joined (h : (r :: rs).Pairwise fun a b => a.1 ≤ b.1) : ∀ s ∈ joined r rs, r.1 ≤ s.1 := by
  induction rs generalizing r with
  | nil =>
    intro s hs
    rw [joined, List.mem_singleton] at hs
    exact hs ▸ Nat.le_refl _
  | cons t rest ih =>
    obtain ⟨hr, hrest⟩ := List.pairwise_cons.mp h
    have ht := hr t List.mem_cons_self
    rw [joined]
    split
    · apply ih
      exact List.pairwise_cons.mpr ⟨fun s hs => hr s (List.mem_cons_of_mem t hs), (List.pairwise_cons.mp hrest).2⟩
    · intro s hs
      rcases List.mem_cons.mp hs with rfl | hs
      · exact Nat.le_refl _
      · exact Nat.le_trans ht (ih hrest s hs)

theorem ascending_joined (h : (r :: rs).Pairwise fun a b => a.1 ≤ b.1) (hne : ∀ s ∈ r :: rs, s.1 ≤ s.2) :
    Ascending (joined r rs) := by
  induction rs generalizing r with
  | nil => exact ascending_cons_iff.mpr ⟨hne r List.mem_cons_self, nofun, ascending_nil⟩
  | cons t rest ih =>
    obtain ⟨hr, hrest⟩ := List.pairwise_cons.mp h
    obtain ⟨hner, hnerest⟩ := List.forall_mem_cons.mp hne
    rw [joined]
    split
    · refine ih (List.pairwise_cons.mpr ⟨fun s hs => hr s (List.mem_cons_of_mem t hs), (List.pairwise_cons.mp hrest).2⟩)
        (List.forall_mem_cons.mpr ⟨Nat.le_trans hner (Nat.le_max_left _ _), fun s hs => ?_⟩)
      exact hnerest s (List.mem_cons_of_mem t hs)
    · refine ascending_cons_iff.mpr ⟨hner, fun s hs => ?_, ih hrest hnerest⟩
      have hle := le_of_mem_joined hrest s hs
      omega

theorem within_joined (h : (r :: rs).Pairwise fun a b => a.1 ≤ b.1) : within (joined r rs) c = within (r :: rs) c := by
  induction rs generalizing r with
  | nil => rfl
  | cons t rest ih =>
    obtain ⟨hr, hrest⟩ := List.pairwise_cons.mp h
    have ht := hr t List.mem_cons_self
    rw [joined]
    split
    · have hjoin : ((r.1, max r.2 t.2) :: rest).Pairwise fun a b => a.1 ≤ b.1 :=
        List.pairwise_cons.mpr ⟨fun s hs => hr s (List.mem_cons_of_mem t hs), (List.pairwise_cons.mp hrest).2⟩
      rw [ih hjoin, Bool.eq_iff_iff]
      simp only [within_cons_iff, ← or_assoc]
      refine or_congr_left ?_
      omega
    · rw [Bool.eq_iff_iff, within_cons_iff, ih hrest, ← within_cons_iff]

theorem pairwise_mergeSort_fst (rs : List (Nat × Nat)) :
    (rs.mergeSort fun a b => decide (a.1 ≤ b.1)).Pairwise fun a b => a.1 ≤ b.1 := by
  have htrans (a b d : Nat × Nat) (hab : decide (a.1 ≤ b.1) = true) (hbd : decide (b.1 ≤ d.1) = true) :
      decide (a.1 ≤ d.1) = true :=
    decide_eq_true (Nat.le_trans (of_decide_eq_true hab) (of_decide_eq_true hbd))
  have htotal (a b : Nat × Nat) : (decide (a.1 ≤ b.1) || decide (b.1 ≤ a.1)) = true := by
    simpa using Nat.le_total a.1 b.1
  simpa using List.pairwise_mergeSort htrans htotal rs

theorem within_normal : within (normal rs) c = within rs c := by
  have hsorted := pairwise_mergeSort_fst rs
  have hperm : within (rs.mergeSort fun a b => decide (a.1 ≤ b.1)) c = within rs c :=
    (List.mergeSort_perm rs _).any_eq
  rw [normal, ← hperm]
  cases hrs : rs.mergeSort fun a b => decide (a.1 ≤ b.1) with
  | nil => rfl
  | cons r rest => exact within_joined (hrs ▸ hsorted)

theorem ascending_normal (hne : ∀ r ∈ rs, r.1 ≤ r.2) : Ascending (normal rs) := by
  have hsorted := pairwise_mergeSort_fst rs
  have hmem (r : Nat × Nat) (hr : r ∈ rs.mergeSort fun a b => decide (a.1 ≤ b.1)) : r.1 ≤ r.2 :=
    hne r (List.mem_mergeSort.mp hr)
  rw [normal]
  cases hrs : rs.mergeSort fun a b => decide (a.1 ≤ b.1) with
  | nil => exact ascending_nil
  | cons r rest => exact ascending_joined (hrs ▸ hsorted) fun s hs => hmem s (hrs ▸ hs)

end Ranges

variable {c : Char} {a b s : CharSet}

theorem ascending_empty : Ascending empty.ranges := ascending_nil

theorem not_has_empty : empty.has c = false := rfl

theorem ascending_ofRanges (rs : List (Nat × Nat)) : Ascending (ofRanges rs).ranges :=
  ascending_normal nonempty_flatMap_characters

theorem has_ofRanges (rs : List (Nat × Nat)) : (ofRanges rs).has c = within rs c := by
  rw [has, ofRanges, within_normal, within_flatMap_characters]

theorem isEmpty_iff : s.isEmpty = true ↔ s.ranges = [] := List.isEmpty_iff

theorem ascending_union (ha : Ascending a.ranges) (hb : Ascending b.ranges) : Ascending (a.union b).ranges := by
  rw [union]
  split
  · exact ha
  · exact ascending_normal (List.forall_mem_append.mpr ⟨ha.nonempty, hb.nonempty⟩)

theorem has_union (a b : CharSet) : (a.union b).has c = (a.has c || b.has c) := by
  rw [union]
  split
  next h =>
    rw [Bool.or_eq_true, isEmpty_iff, beq_iff_eq] at h
    rcases h with h | h
    · simp [has, h, within]
    · simp [has, h]
  next => rw [has, within_normal, within_append, has, has]

theorem has_foldl_union (s : CharSet) (sets : List CharSet) :
    (sets.foldl union s).has c = (s.has c || sets.any fun t => t.has c) := by
  induction sets generalizing s with
  | nil => simp
  | cons t rest ih => rw [List.foldl_cons, ih, has_union, List.any_cons, Bool.or_assoc]

theorem ascending_complement (hs : Ascending s.ranges) : Ascending s.complement.ranges := ascending_others hs

theorem has_complement (hs : Ascending s.ranges) : s.complement.has c = !s.has c := within_others hs

/-- Ranges that have what neither of two lists of ranges has are those that both complements have. -/
theorem within_others_append {rs ss : List (Nat × Nat)} (hr : Ascending rs) (hs : Ascending ss) :
    within (others (normal (rs ++ ss))) c = (!within rs c && !within ss c) := by
  rw [within_others (ascending_normal (List.forall_mem_append.mpr ⟨hr.nonempty, hs.nonempty⟩)), within_normal,
    within_append, Bool.not_or]

theorem ascending_others_append {rs ss : List (Nat × Nat)} (hr : Ascending rs) (hs : Ascending ss) :
    Ascending (others (normal (rs ++ ss))) :=
  ascending_others (ascending_normal (List.forall_mem_append.mpr ⟨hr.nonempty, hs.nonempty⟩))

theorem ascending_inter (ha : Ascending a.ranges) (hb : Ascending b.ranges) : Ascending (a.inter b).ranges := by
  rw [inter]
  split
  · exact ha
  · split
    · exact ascending_empty
    · exact ascending_others_append (ascending_others ha) (ascending_others hb)

theorem has_inter (ha : Ascending a.ranges) (hb : Ascending b.ranges) : (a.inter b).has c = (a.has c && b.has c) := by
  rw [inter]
  split
  next h => simp [has, isEmpty_iff.mp h, within]
  next =>
    split
    next h => simp [has, isEmpty_iff.mp h, empty, within]
    next =>
      rw [has, within_others_append (ascending_others ha) (ascending_others hb), within_others ha, within_others hb,
        Bool.not_not, Bool.not_not, has, has]

theorem ascending_diff (ha : Ascending a.ranges) (hb : Ascending b.ranges) : Ascending (a.diff b).ranges := by
  rw [diff]
  split
  · exact ha
  · exact ascending_others_append (ascending_others ha) hb

theorem has_diff (ha : Ascending a.ranges) (hb : Ascending b.ranges) : (a.diff b).has c = (a.has c && !b.has c) := by
  rw [diff]
  split
  next h =>
    rw [Bool.or_eq_true, isEmpty_iff, isEmpty_iff] at h
    rcases h with h | h
    · simp [has, h, within]
    · simp [has, h, within]
  next => rw [has, within_others_append (ascending_others ha) hb, within_others ha, Bool.not_not, has, has]

theorem has_symmDiff (ha : Ascending a.ranges) (hb : Ascending b.ranges) :
    (a.symmDiff b).has c = (a.has c ^^ b.has c) := by
  rw [symmDiff, has_diff (ascending_union ha hb) (ascending_inter ha hb), has_union, has_inter ha hb]
  cases a.has c <;> cases b.has c <;> rfl

end Chip8.Text.CharSet
