import Chip8.Session.Notice
import Chip8.Proofs.Text.CharSet

namespace Chip8.Text

section Chains

variable {L : Nat} {R : Nat → Nat → Prop} {i j k m n : Nat}

/-- Matches in a row, `n` of them. -/
inductive Chain (R : Nat → Nat → Prop) : (n i j : Nat) → Prop where
  | nil (i : Nat) : Chain R 0 i i
  | cons {n i j k : Nat} : R i j → Chain R n j k → Chain R (n + 1) i k

theorem chain_zero_iff : Chain R 0 i j ↔ i = j := by
  constructor
  · rintro ⟨⟩
    rfl
  · rintro rfl
    exact .nil i

theorem chain_succ_iff : Chain R (n + 1) i j ↔ ∃ k, R i k ∧ Chain R n k j := by
  constructor
  · intro h
    cases h with
    | cons hstep hrest => exact ⟨_, hstep, hrest⟩
  · rintro ⟨k, hstep, hrest⟩
    exact .cons hstep hrest

theorem chain_add_iff : Chain R (m + n) i j ↔ ∃ k, Chain R m i k ∧ Chain R n k j := by
  induction m generalizing i with
  | zero => simp only [Nat.zero_add, chain_zero_iff, exists_eq_left']
  | succ m ih =>
    simp only [Nat.succ_add, chain_succ_iff, ih]
    constructor
    · rintro ⟨k, hstep, l, hfirst, hlast⟩
      exact ⟨l, ⟨k, hstep, hfirst⟩, hlast⟩
    · rintro ⟨l, ⟨k, hstep, hfirst⟩, hlast⟩
      exact ⟨k, hstep, l, hfirst, hlast⟩

theorem chain_concat_iff : Chain R (n + 1) i j ↔ ∃ k, Chain R n i k ∧ R k j := by
  have hone (k : Nat) : Chain R 1 k j ↔ R k j := by
    rw [chain_succ_iff]
    simp only [chain_zero_iff, exists_eq_right]
  simp only [chain_add_iff, hone]

/-- Matches go forward and stay within a text of `L` characters. -/
structure Advances (L : Nat) (R : Nat → Nat → Prop) : Prop where
  le : ∀ i j, R i j → i ≤ j
  within : ∀ i j, R i j → i ≤ L → j ≤ L

variable (hR : Advances L R)

include hR

theorem Chain.bounds (h : Chain R n i j) : i ≤ j ∧ (i ≤ L → j ≤ L) := by
  induction h with
  | nil i => exact ⟨Nat.le_refl i, id⟩
  | cons hstep _ ih => exact ⟨Nat.le_trans (hR.le _ _ hstep) ih.1, fun hi => ih.2 (hR.within _ _ hstep hi)⟩

/-- Matches in a row move on by at least one place each, unless one of them is empty. -/
theorem Chain.exists_empty (h : Chain R n i j) :
    i + n ≤ j ∨ ∃ a b k, n = a + 1 + b ∧ Chain R a i k ∧ R k k ∧ Chain R b k j := by
  induction h with
  | nil i => exact .inl (Nat.le_refl i)
  | @cons n i k j hstep hrest ih =>
    rcases Nat.eq_or_lt_of_le (hR.le _ _ hstep) with rfl | hlt
    · exact .inr ⟨0, n, i, by omega, .nil i, hstep, hrest⟩
    · rcases ih with hle | ⟨a, b, l, rfl, hfirst, hempty, hlast⟩
      · exact .inl (by omega)
      · exact .inr ⟨a + 1, b, l, by omega, .cons hstep hfirst, hempty, hlast⟩

/-- An empty match may be left out, and it may be repeated. -/
theorem Chain.shift (hi : i ≤ L) (hn : L < n) (h : Chain R n i j) : Chain R (n - 1) i j ∧ Chain R (n + 1) i j := by
  rcases h.exists_empty hR with hle | ⟨a, b, k, rfl, hfirst, hempty, hlast⟩
  · have hj := (h.bounds hR).2 hi
    omega
  · have hless : a + 1 + b - 1 = a + b := by omega
    have hmore : a + 1 + b + 1 = a + (b + 1 + 1) := by omega
    rw [hless, hmore]
    exact ⟨chain_add_iff.mpr ⟨k, hfirst, hlast⟩,
      chain_add_iff.mpr ⟨k, hfirst, .cons hempty (.cons hempty hlast)⟩⟩

/-- The text bounds how many matches in a row are worth counting. -/
theorem Chain.shorten (hi : i ≤ L) (hm : L ≤ m) (hle : m ≤ n) (h : Chain R n i j) : Chain R m i j := by
  induction hle with
  | refl => exact h
  | @step n hle ih =>
    have hlt : L < n + 1 := Nat.lt_succ_of_le (Nat.le_trans hm hle)
    exact ih (h.shift hR hi hlt).1

theorem Chain.lengthen (hi : i ≤ L) (hm : L < m) (hle : m ≤ n) (h : Chain R m i j) : Chain R n i j := by
  induction hle with
  | refl => exact h
  | step hle ih => exact (ih.shift hR hi (Nat.lt_of_lt_of_le hm hle)).2

/-- How many matches in a row are tried after the least number, in a text of `L` characters. -/
def worthwhile (L least : Nat) : (most : Option Nat) → Nat
  | some most => min (most - least) L
  | none => L

theorem exists_chain_iff (hi : i ≤ L) (least : Nat) (most : Option Nat) :
    (∃ n, least ≤ n ∧ (∀ bound ∈ most, n ≤ max least bound) ∧ Chain R n i j) ↔
      ∃ k ≤ worthwhile L least most, Chain R (min least (L + 1) + k) i j := by
  constructor
  · rintro ⟨n, hleast, hmost, h⟩
    -- as many as are tried, where there are more
    by_cases hfew : n ≤ min least (L + 1) + worthwhile L least most
    · have hsum : min least (L + 1) + (n - min least (L + 1)) = n := by omega
      exact ⟨n - min least (L + 1), by omega, hsum.symm ▸ h⟩
    · refine ⟨_, Nat.le_refl _, h.shorten hR hi ?_ (by omega)⟩
      cases most with
      | none => exact Nat.le_add_left L _
      | some bound =>
        have hbound := hmost bound rfl
        simp only [worthwhile] at hfew ⊢
        omega
  · rintro ⟨k, hk, h⟩
    by_cases hleast : least ≤ L + 1
    · rw [Nat.min_eq_left hleast] at h
      refine ⟨least + k, Nat.le_add_right least k, fun bound hbound => ?_, h⟩
      cases hbound
      simp only [worthwhile] at hk
      omega
    · have hmin : min least (L + 1) = L + 1 := by omega
      rw [hmin] at h
      refine ⟨max least (L + 1 + k), Nat.le_max_left _ _, fun bound hbound => ?_,
        h.lengthen hR hi (by omega) (Nat.le_max_right _ _)⟩
      cases hbound
      simp only [worthwhile] at hk
      omega

end Chains

namespace Pattern

/-- The places of a set lie in a text of `L` characters. -/
def Within (L : Nat) (places : Places) : Prop := ∀ i, places.testBit i = true → i ≤ L

/-- A step takes places to the places that matches lead to from there. -/
def Follows (L : Nat) (R : Nat → Nat → Prop) (step : Places → Places) : Prop :=
  ∀ places, Within L places → ∀ j, (step places).testBit j = true ↔ ∃ i, places.testBit i = true ∧ R i j

section Steps

variable {L : Nat} {R : Nat → Nat → Prop} {step : Places → Places} {places : Places}

theorem Follows.within (hR : Advances L R) (hstep : Follows L R step) (h : Within L places) :
    Within L (step places) := by
  intro j hj
  obtain ⟨i, hi, hij⟩ := (hstep places h j).mp hj
  exact hR.within i j hij (h i hi)

theorem testBit_repeat (hR : Advances L R) (hstep : Follows L R step) (h : Within L places) (n j : Nat) :
    (Nat.repeat step n places).testBit j = true ↔ ∃ i, places.testBit i = true ∧ Chain R n i j := by
  have hwithin (n : Nat) : Within L (Nat.repeat step n places) := by
    induction n with
    | zero => exact h
    | succ n ih =>
      have hnext := hstep.within hR ih
      exact hnext
  induction n generalizing j with
  | zero => simp only [Nat.repeat, chain_zero_iff, exists_eq_right]
  | succ n ih =>
    rw [Nat.repeat, hstep _ (hwithin n)]
    simp only [ih, chain_concat_iff]
    constructor
    · rintro ⟨k, ⟨i, hi, hchain⟩, hlast⟩
      exact ⟨i, hi, k, hchain, hlast⟩
    · rintro ⟨i, hi, k, hchain, hlast⟩
      exact ⟨k, ⟨i, hi, hchain⟩, hlast⟩

/-- Places that no step leads out of are not left by any number of steps. -/
theorem testBit_of_chain (hstep : Follows L R step) (h : Within L places)
    (hclosed : places ||| step places = places) {n i j : Nat} (hchain : Chain R n i j)
    (hi : places.testBit i = true) : places.testBit j = true := by
  induction hchain with
  | nil i => exact hi
  | @cons n i k j hfirst _ ih =>
    apply ih
    rw [← hclosed, Nat.testBit_or, (hstep places h k).mpr ⟨i, hi, hfirst⟩, Bool.or_true]

theorem testBit_reach (hR : Advances L R) (hstep : Follows L R step) (h : Within L places) (n j : Nat) :
    (reach step n places).testBit j = true ↔ ∃ k ≤ n, ∃ i, places.testBit i = true ∧ Chain R k i j := by
  induction n generalizing places with
  | zero => simp [reach, chain_zero_iff]
  | succ n ih =>
    rw [reach]
    split
    next hclosed =>
      constructor
      · exact fun hj => ⟨0, Nat.zero_le _, j, hj, .nil j⟩
      · rintro ⟨k, -, i, hi, hchain⟩
        exact testBit_of_chain hstep h hclosed hchain hi
    next =>
      have hmore : Within L (places ||| step places) := by
        intro i hi
        rw [Nat.testBit_or, Bool.or_eq_true] at hi
        rcases hi with hi | hi
        · exact h i hi
        · exact hstep.within hR h i hi
      simp only [ih hmore, Nat.testBit_or, Bool.or_eq_true, hstep places h]
      constructor
      · rintro ⟨k, hk, i, hi | ⟨l, hl, hfirst⟩, hchain⟩
        · exact ⟨k, Nat.le_succ_of_le hk, i, hi, hchain⟩
        · exact ⟨k + 1, Nat.succ_le_succ hk, l, hl, .cons hfirst hchain⟩
      · rintro ⟨k, hk, i, hi, hchain⟩
        cases hchain with
        | nil => exact ⟨0, Nat.zero_le _, j, .inl hi, .nil j⟩
        | @cons k i l j hfirst hrest => exact ⟨k, Nat.le_of_succ_le_succ hk, l, .inr ⟨i, hi, hfirst⟩, hrest⟩

end Steps

/-- Whether a pattern matches the stretch of a text from place `i` to place `j`. A repetition whose largest number is
below its least one comes the least number of times. -/
def Matches (text : List Char) : Pattern → Nat → Nat → Prop
  | .empty, i, j => i = j
  | .one s, i, j => j = i + 1 ∧ ∃ c, text[i]? = some c ∧ s.has c = true
  | .meets c, i, j => i = j ∧ c.holds (if i = 0 then none else text[i - 1]?) text[i]? = true
  | .seq p q, i, j => ∃ k, Matches text p i k ∧ Matches text q k j
  | .either p q, i, j => Matches text p i j ∨ Matches text q i j
  | .repeated least most p, i, j =>
    ∃ n, least ≤ n ∧ (∀ bound ∈ most, n ≤ max least bound) ∧ Chain (Matches text p) n i j
  | .group p, i, j => Matches text p i j

variable {text : List Char}

theorem testBit_placesWhere (test : Option Char → Option Char → Bool) (before : Option Char) (text : List Char)
    (i : Nat) :
    (placesWhere test before text).testBit i =
      (decide (i ≤ text.length) && test (if i = 0 then before else text[i - 1]?) text[i]?) := by
  have hfirst (b : Bool) (n : Nat) : (b.toNat + 2 * n).testBit 0 = b := by
    rw [Nat.testBit_zero]
    cases b <;> simp
  have hrest (b : Bool) (n i : Nat) : (b.toNat + 2 * n).testBit (i + 1) = n.testBit i := by
    have hhalf : (b.toNat + 2 * n) / 2 = n := by
      have := Bool.toNat_lt b
      omega
    rw [Nat.testBit_succ, hhalf]
  induction text generalizing before i with
  | nil =>
    cases i with
    | zero => cases h : test before none <;> simp [placesWhere, h]
    | succ i => cases h : test before none <;> simp [placesWhere, h, Nat.testBit_succ]
  | cons c rest ih =>
    rw [placesWhere]
    cases i with
    | zero => rw [hfirst]; simp
    | succ i =>
      rw [hrest, ih]
      cases i <;> simp

theorem advances_matches (text : List Char) (p : Pattern) : Advances text.length (Matches text p) := by
  induction p with
  | empty => exact ⟨fun _ _ h => Nat.le_of_eq h, fun _ _ h hi => h ▸ hi⟩
  | one s =>
    refine ⟨fun i j h => ?_, fun i j h _ => ?_⟩
    · exact h.1 ▸ Nat.le_succ i
    · obtain ⟨rfl, c, hc, -⟩ := h
      exact (List.getElem?_eq_some_iff.mp hc).1
  | meets c => exact ⟨fun _ _ h => Nat.le_of_eq h.1, fun _ _ h hi => h.1 ▸ hi⟩
  | seq p q hp hq =>
    refine ⟨fun i j ⟨k, hik, hkj⟩ => Nat.le_trans (hp.le i k hik) (hq.le k j hkj), fun i j ⟨k, hik, hkj⟩ hi => ?_⟩
    exact hq.within k j hkj (hp.within i k hik hi)
  | either p q hp hq =>
    exact ⟨fun i j h => h.elim (hp.le i j) (hq.le i j), fun i j h => h.elim (hp.within i j) (hq.within i j)⟩
  | repeated least most p hp =>
    exact ⟨fun i j ⟨n, _, _, h⟩ => (h.bounds hp).1, fun i j ⟨n, _, _, h⟩ => (h.bounds hp).2⟩
  | group p hp => exact ⟨hp.le, hp.within⟩

theorem testBit_double (n j : Nat) : (2 * n).testBit j = true ↔ ∃ i, n.testBit i = true ∧ j = i + 1 := by
  cases j with
  | zero => simp [Nat.testBit_zero]
  | succ j =>
    rw [Nat.testBit_succ, Nat.mul_div_cancel_left n (by decide)]
    simp

/-- The matcher follows the matches of a pattern from all places at once. -/
theorem follows_ends (p : Pattern) : Follows text.length (Matches text p) (ends text p) := by
  induction p with
  | empty =>
    intro places _ j
    simp [ends, Matches]
  | one s =>
    intro places h j
    simp only [ends, testBit_double, Nat.testBit_and, testBit_placesWhere, Bool.and_eq_true, decide_eq_true_eq,
      Option.any_eq_true, Matches]
    constructor
    · rintro ⟨i, ⟨hi, -, c, hc, hs⟩, rfl⟩
      exact ⟨i, hi, rfl, c, hc, hs⟩
    · rintro ⟨i, hi, rfl, c, hc, hs⟩
      exact ⟨i, ⟨hi, h i hi, c, hc, hs⟩, rfl⟩
  | meets c =>
    intro places h j
    simp only [ends, Nat.testBit_and, testBit_placesWhere, Bool.and_eq_true, decide_eq_true_eq, Matches]
    constructor
    · rintro ⟨hj, -, hc⟩
      exact ⟨j, hj, rfl, hc⟩
    · rintro ⟨i, hi, rfl, hc⟩
      exact ⟨hi, h i hi, hc⟩
  | seq p q hp hq =>
    intro places h j
    rw [ends, hq _ (hp.within (advances_matches text p) h)]
    simp only [hp places h, Matches]
    constructor
    · rintro ⟨k, ⟨i, hi, hik⟩, hkj⟩
      exact ⟨i, hi, k, hik, hkj⟩
    · rintro ⟨i, hi, k, hik, hkj⟩
      exact ⟨k, ⟨i, hi, hik⟩, hkj⟩
  | either p q hp hq =>
    intro places h j
    simp only [ends, Nat.testBit_or, Bool.or_eq_true, hp places h, hq places h, Matches, and_or_left, exists_or]
  | repeated least most p hp =>
    intro places h j
    have hR := advances_matches text p
    have hworth : ends text (.repeated least most p) places =
        reach (ends text p) (worthwhile text.length least most)
          (Nat.repeat (ends text p) (min least (text.length + 1)) places) := by cases most <;> rfl
    have hwithin : Within text.length (Nat.repeat (ends text p) (min least (text.length + 1)) places) := by
      intro j hj
      obtain ⟨i, hi, hchain⟩ := (testBit_repeat hR hp h _ j).mp hj
      exact (hchain.bounds hR).2 (h i hi)
    rw [hworth, testBit_reach hR hp hwithin]
    simp only [testBit_repeat hR hp h, Matches]
    constructor
    · rintro ⟨k, hk, l, ⟨i, hi, hfirst⟩, hlast⟩
      exact ⟨i, hi, (exists_chain_iff hR (h i hi) least most).mpr ⟨k, hk, chain_add_iff.mpr ⟨l, hfirst, hlast⟩⟩⟩
    · rintro ⟨i, hi, hmatch⟩
      obtain ⟨k, hk, hchain⟩ := (exists_chain_iff hR (h i hi) least most).mp hmatch
      obtain ⟨l, hfirst, hlast⟩ := chain_add_iff.mp hchain
      exact ⟨k, hk, l, ⟨i, hi, hfirst⟩, hlast⟩
  | group p hp => exact hp

section ShortForms

variable {p : Pattern} {ps : List Pattern} {i j n : Nat}

theorem eq_of_onlyEmpty (h : p.onlyEmpty = true) (hmatch : Matches text p i j) : i = j := by
  induction p generalizing i j with
  | empty => exact hmatch
  | one s => cases h
  | meets c => exact hmatch.1
  | seq p q hp hq =>
    rw [onlyEmpty, Bool.and_eq_true] at h
    obtain ⟨k, hik, hkj⟩ := hmatch
    exact (hp h.1 hik).trans (hq h.2 hkj)
  | either p q hp hq =>
    rw [onlyEmpty, Bool.and_eq_true] at h
    exact hmatch.elim (hp h.1) (hq h.2)
  | repeated least most p hp =>
    rw [onlyEmpty, Bool.and_eq_true] at h
    obtain ⟨n, -, -, hchain⟩ := hmatch
    induction hchain with
    | nil i => rfl
    | cons hfirst _ ih => exact (hp h.2 hfirst).trans ih
  | group p hp => exact hp h hmatch

theorem chain_of_onlyEmpty (h : p.onlyEmpty = true) :
    Chain (Matches text p) n i j ↔ i = j ∧ (n = 0 ∨ Matches text p i i) := by
  induction n generalizing i with
  | zero => simp [chain_zero_iff]
  | succ n ih =>
    simp only [chain_succ_iff, ih, Nat.add_one_ne_zero, false_or]
    constructor
    · rintro ⟨k, hfirst, rfl, -⟩
      have hik := eq_of_onlyEmpty h hfirst
      exact ⟨hik, by rwa [← hik] at hfirst⟩
    · rintro ⟨rfl, hmatch⟩
      exact ⟨i, hmatch, rfl, .inr hmatch⟩

/-- A repetition in short form matches what the repetition matches. -/
theorem matches_ofRepetition (least : Nat) (most : Option Nat) (p : Pattern) :
    Matches text (ofRepetition least most p) i j ↔ Matches text (.repeated least most p) i j := by
  have hshort (least : Nat) (most : Option Nat) :
      Matches text (if least = 0 ∧ most = some 0 then .empty
          else if least = 1 ∧ most = some 1 then p else .repeated least most p) i j ↔
        Matches text (.repeated least most p) i j := by
    split
    next h =>
      obtain ⟨rfl, rfl⟩ := h
      simp [Matches, chain_zero_iff]
    next =>
      split
      next h =>
        obtain ⟨rfl, rfl⟩ := h
        have hone (n : Nat) : 1 ≤ n ∧ n ≤ 1 ↔ n = 1 := by omega
        simp [Matches, ← and_assoc, hone, chain_succ_iff, chain_zero_iff]
      next => exact Iff.rfl
  by_cases hp : p.onlyEmpty
  · simp only [ofRepetition, hp, if_true, hshort, Matches, chain_of_onlyEmpty hp]
    constructor
    · rintro ⟨n, hleast, hmost, rfl, hmatch⟩
      refine ⟨least, Nat.le_refl _, fun bound _ => Nat.le_max_left _ _, rfl, ?_⟩
      exact hmatch.imp (fun hn => by omega) id
    · rintro ⟨n, hleast, hmost, rfl, hmatch⟩
      refine ⟨min least 1, Nat.le_refl _, fun bound _ => Nat.le_max_left _ _, rfl, ?_⟩
      exact hmatch.imp (fun hn => by omega) id
  · rw [ofRepetition, if_neg hp]
    exact hshort least most

theorem matches_ofSequence_cons (p : Pattern) (ps : List Pattern) :
    Matches text (ofSequence (p :: ps)) i j ↔ ∃ k, Matches text p i k ∧ Matches text (ofSequence ps) k j := by
  conv =>
    lhs
    unfold ofSequence
  split
  next hps => simp [Matches]
  next hps => simp [hps, Matches]
  next => exact Iff.rfl

theorem not_matches_none : ¬ Matches text (.one .empty) i j := by
  rintro ⟨-, c, -, hc⟩
  cases hc

theorem matches_anyOf : Matches text (anyOf ps) i j ↔ ∃ p ∈ ps, Matches text p i j := by
  fun_induction anyOf ps with
  | case1 => simp [not_matches_none]
  | case2 p => simp
  | case3 p rest hrest ih => simp [Matches, ih]

theorem eq_map_of_chars {sets : List CharSet} (h : ps.mapM chars? = some sets) : ps = sets.map Pattern.one := by
  induction ps generalizing sets with
  | nil =>
    cases h
    rfl
  | cons p ps ih =>
    simp only [List.mapM_cons, Option.bind_eq_bind, Option.bind_eq_some_iff, Option.pure_def, Option.some.injEq] at h
    obtain ⟨s, hs, rest, hrest, rfl⟩ := h
    cases p with
    | one s' =>
      cases hs
      rw [List.map_cons, ih hrest]
    | _ => cases hs

theorem matches_ofBranches : Matches text (ofBranches ps) i j ↔ ∃ p ∈ ps, Matches text p i j := by
  unfold ofBranches
  split
  next sets hsets =>
    rw [eq_map_of_chars hsets]
    simp only [Matches, CharSet.has_foldl_union, CharSet.not_has_empty, Bool.false_or, List.any_eq_true, List.mem_map]
    constructor
    · rintro ⟨rfl, c, hc, s, hs, hsc⟩
      exact ⟨.one s, ⟨s, hs, rfl⟩, rfl, c, hc, hsc⟩
    · rintro ⟨_, ⟨s, hs, rfl⟩, rfl, c, hc, hsc⟩
      exact ⟨rfl, c, hc, s, hs, hsc⟩
  next => exact matches_anyOf

end ShortForms

/-- A pattern is found in a text exactly if it matches some stretch of it. -/
theorem foundIn_iff (p : Pattern) (text : String) :
    p.foundIn text = true ↔ ∃ i j, i ≤ text.toList.length ∧ Matches text.toList p i j := by
  have hall : Within text.toList.length (placesWhere (fun _ _ => true) none text.toList) := by
    intro i hi
    rw [testBit_placesWhere, Bool.and_true] at hi
    exact of_decide_eq_true hi
  have hends := follows_ends p _ hall
  simp only [testBit_placesWhere, Bool.and_true, decide_eq_true_eq] at hends
  rw [foundIn, bne_iff_ne]
  constructor
  · intro hne
    obtain ⟨j, hj⟩ := Nat.exists_testBit_of_ne_zero hne
    obtain ⟨i, hi, hmatch⟩ := (hends j).mp hj
    exact ⟨i, j, hi, hmatch⟩
  · rintro ⟨i, j, hi, hmatch⟩ hzero
    have hj := (hends j).mpr ⟨i, hi, hmatch⟩
    rw [hzero, Nat.zero_testBit] at hj
    cases hj

end Pattern

end Chip8.Text

namespace Chip8.Verbosity

/-- A notice is shown exactly if the directives let it through and the pattern, if there is one, matches a stretch of
its text. -/
theorem shows_iff (v : Verbosity) (n : Notice) :
    v.shows n = true ↔ v.passes n.level n.area = true ∧
      ∀ p ∈ v.pattern, ∃ i j, i ≤ n.text.toList.length ∧ Text.Pattern.Matches n.text.toList p i j := by
  rw [shows, Bool.and_eq_true, Option.all_eq_true]
  simp only [Text.Pattern.foundIn_iff, Option.mem_def]

end Chip8.Verbosity
