import Chip8.Json.Reader
import Chip8.Proofs.Json.Token
import Chip8.Proofs.Outcome

namespace Chip8.Json

theorem exact_ofNat {n : Nat} (hn : n < UInt64.size) : Number.Exact (.int n) := by
  have hle : n ≤ Lexeme.maxSignificand := Nat.le_sub_one_of_lt hn
  constructor
  · exact Int.le_trans (Int.neg_nonpos_of_nonneg (Int.natCast_nonneg _)) (Int.natCast_nonneg n)
  · exact Int.ofNat_le.mpr hle

theorem kept_ofNat {n : Nat} (hn : n < UInt64.size) (depth : Nat) : Kept depth (.ofNat n) := by
  cases depth <;> exact exact_ofNat hn

theorem keptItems_map {α : Type} (items : List α) {depth : Nat} {f : α → Json} (h : ∀ a, Kept depth (f a)) :
    KeptItems depth (items.map f) := by
  induction items with
  | nil => trivial
  | cons a items ih => exact ⟨h a, ih⟩

theorem unsignedAs_ofNat (wanted : Wanted) {bits n : Nat} (hn : n < 1 <<< bits) :
    (ofNat n).unsignedAs wanted bits = .ok n := by
  have hint : 0 ≤ (n : Int) ∧ (n : Int) < (1 <<< bits : Nat) :=
    ⟨Int.natCast_nonneg n, Int.ofNat_lt.mpr hn⟩
  simp only [ofNat, unsignedAs, Number.unsigned, if_pos hint, Int.toNat_natCast]

theorem word64?_ofNat (n : UInt64) : (ofNat n.toNat).word64? = some n := by
  have hn : 0 ≤ (n.toNat : Int) ∧ (n.toNat : Int) < UInt64.size :=
    ⟨Int.natCast_nonneg _, Int.ofNat_lt.mpr n.toNat_lt_size⟩
  rw [ofNat, word64?, if_pos hn, Int.toNat_natCast, UInt64.ofNat_toNat]

theorem member?_cons (name other : String) (v : Json) (members : List (String × Json)) :
    (object ((other, v) :: members)).member? name =
      if name = other then some v else (object members).member? name := by
  by_cases h : name = other
  · subst h
    simp [member?]
  · have hb : (name == other) = false := by simpa using h
    simp only [member?, List.lookup_cons, hb, if_neg h]

section Items

variable {α : Type} {f : α → Json} {read : Json → Except Error α} (h : ∀ a, read (f a) = .ok a)

include h

theorem mapM_map (items : List α) : (items.map f).mapM read = .ok items := by
  induction items with
  | nil => rfl
  | cons a items ih =>
    simp only [List.map_cons, List.mapM_cons, h, ih, Outcome.ok_bind, Outcome.pure_eq_ok]

theorem sequence_map (items : List α) : (array (items.map f)).sequence read = .ok items :=
  mapM_map h items

theorem arrayOf_map {n : Nat} (items : Vector α n) :
    (array (items.toList.map f)).arrayOf n read = .ok items := by
  have hlen : (items.toList.map f).length = n := by rw [List.length_map, Vector.length_toList]
  have htake : (items.toList.map f).take n = items.toList.map f :=
    List.take_of_length_le (Nat.le_of_eq hlen)
  simp only [arrayOf, htake, mapM_map h, hlen, Outcome.ok_bind, Nat.lt_irrefl, if_false,
    Vector.length_toList, dite_true]
  rfl

end Items

variable {v : Json}

theorem unsignedAs_eq_ok_iff {wanted : Wanted} {bits n : Nat} :
    v.unsignedAs wanted bits = .ok n ↔ v = .ofNat n ∧ n < 1 <<< bits := by
  constructor
  · intro h
    cases v with
    | number x =>
      cases x with
      | int z =>
        simp only [unsignedAs, Number.unsigned] at h
        split at h
        next hz =>
          cases h
          obtain ⟨k, rfl⟩ := Int.eq_ofNat_of_zero_le hz.1
          exact ⟨rfl, Int.ofNat_lt.mp hz.2⟩
        next => cases h
      | real x => cases h
    | _ => cases h
  · rintro ⟨rfl, hn⟩
    exact unsignedAs_ofNat wanted hn

theorem word64?_eq_some_iff {n : UInt64} : v.word64? = some n ↔ v = .ofNat n.toNat := by
  constructor
  · intro h
    cases v with
    | number x =>
      cases x with
      | int z =>
        simp only [word64?] at h
        split at h
        next hz =>
          cases h
          obtain ⟨k, rfl⟩ := Int.eq_ofNat_of_zero_le hz.1
          have hk : k < UInt64.size := Int.ofNat_lt.mp hz.2
          rw [Int.toNat_natCast, UInt64.toNat_ofNat_of_lt' hk]
          rfl
        next => cases h
      | real x => cases h
    | _ => cases h
  · rintro rfl
    exact word64?_ofNat n

theorem text?_eq_some_iff {s : String} : v.text? = some s ↔ v = .string s := by
  cases v <;> simp [text?]

theorem boolean_eq_ok_iff {b : Bool} : v.boolean = .ok b ↔ v = .bool b := by
  cases v <;> simp [boolean, mismatch]

section Items

variable {α : Type} {f : α → Json} {read : Json → Except Error α}
  (h : ∀ v a, read v = .ok a ↔ v = f a)

include h

theorem mapM_eq_ok_iff {items : List Json} {as : List α} : items.mapM read = .ok as ↔ items = as.map f := by
  constructor
  · intro hitems
    induction items generalizing as with
    | nil =>
      cases hitems
      rfl
    | cons v items ih =>
      rw [List.mapM_cons] at hitems
      obtain ⟨a, ha, hrest⟩ := Outcome.bind_eq_ok_iff.mp hitems
      obtain ⟨rest, hr, hall⟩ := Outcome.bind_eq_ok_iff.mp hrest
      cases hall
      rw [List.map_cons, ← (h v a).mp ha, ← ih hr]
  · rintro rfl
    exact mapM_map (fun a => (h (f a) a).mpr rfl) as

theorem sequence_eq_ok_iff {as : List α} : v.sequence read = .ok as ↔ v = .array (as.map f) := by
  cases v with
  | array items =>
    rw [sequence, mapM_eq_ok_iff h]
    constructor
    · rintro rfl
      rfl
    · intro he
      cases he
      rfl
  | _ => exact ⟨nofun, nofun⟩

theorem arrayOf_eq_ok_iff {n : Nat} {as : Vector α n} :
    v.arrayOf n read = .ok as ↔ v = .array (as.toList.map f) := by
  constructor
  · intro ha
    cases v with
    | array items =>
      simp only [arrayOf] at ha
      obtain ⟨read, hread, hrest⟩ := Outcome.bind_eq_ok_iff.mp ha
      split at hrest
      next => cases hrest
      next hn =>
        split at hrest
        next hlen =>
          cases hrest
          rw [List.take_of_length_le (Nat.not_lt.mp hn)] at hread
          rw [(mapM_eq_ok_iff h).mp hread]
          rfl
        next => cases hrest
    | _ => cases ha
  · rintro rfl
    exact arrayOf_map (fun a => (h (f a) a).mpr rfl) as

end Items

section Fields

variable {α : Type} {name record : String} {read : Json → Except Error α} {a : α}

theorem required_eq_ok_iff {o : Option α} : required name o = .ok a ↔ o = some a := by
  cases o <;> simp [required]

theorem field?_eq_ok_some_iff :
    v.field? name read = .ok (some a) ↔ ∃ w, v.member? name = some w ∧ read w = .ok a := by
  unfold field?
  cases v.member? name with
  | none => simp
  | some w => cases hw : read w <;> simp [hw]

theorem item_eq_ok_iff {fields k : Nat} {items : List Json} :
    item record fields items k read = .ok a ↔ ∃ w, items[k]? = some w ∧ read w = .ok a := by
  unfold item
  cases items[k]? <;> simp

theorem noMoreThan_eq_ok_iff {fields : Nat} {items : List Json} :
    noMoreThan fields items = .ok () ↔ items.length ≤ fields := by
  unfold noMoreThan
  split
  next h => simp [Nat.not_le.mpr h]
  next h => simp [Nat.not_lt.mp h]

end Fields

end Chip8.Json
