import Chip8.Options
import Chip8.Proofs.Outcome

namespace Chip8.Options

theorem lt_of_unsigned? {bits n : Nat} {s : String} (h : unsigned? bits s = some n) : n < 1 <<< bits := by
  obtain ⟨-, hn⟩ := Option.filter_eq_some_iff.mp h
  exact of_decide_eq_true hn

theorem lt_of_word32? {n : Nat} {s : String} (h : word32? s = some n) : n < UInt32.size := by
  unfold word32? at h
  split at h
  next =>
    obtain ⟨-, hn⟩ := Option.filter_eq_some_iff.mp h
    rw [beq_iff_eq.mp hn]
    decide
  next => exact lt_of_unsigned? h

/-- Numbers in the range of the settings that they go into. -/
structure InRange (ipf seed : Option Nat) : Prop where
  ipf : ∀ n ∈ ipf, n < UInt32.size
  seed : ∀ n ∈ seed, n < UInt64.size

namespace Draft

def Bounded (d : Draft) : Prop := InRange d.ipf d.seed

variable {α : Type} {d d' : Draft}

theorem bounded_empty : empty.Bounded := ⟨nofun, nofun⟩

/-- A place is filled with what its text is read as. -/
theorem read_of_fill {slot : Slot} {old o : Option α} {value : String} {result : Except (Option String) α}
    (h : fill slot old value result = .ok o) {a : α} (ha : a ∈ o) : result = .ok a := by
  unfold fill at h
  split at h
  next => cases h
  next =>
    split at h
    next =>
      cases h
      rw [Option.mem_some_iff.mp ha]
    next => cases h

theorem number_eq_ok_iff {o : Option Nat} {n : Nat} : number o = .ok n ↔ o = some n := by
  cases o <;> simp [number]

theorem bounded_put (hd : d.Bounded) {slot : Slot} {value : String} (h : d.put slot value = .ok d') : d'.Bounded := by
  obtain ⟨hipf, hseed⟩ := hd
  cases slot with
  | ipf =>
    obtain ⟨o, ho, hd'⟩ := Outcome.bind_eq_ok_iff.mp h
    cases hd'
    refine ⟨fun n hn => ?_, hseed⟩
    exact lt_of_word32? (number_eq_ok_iff.mp (read_of_fill ho hn))
  | seed =>
    obtain ⟨o, ho, hd'⟩ := Outcome.bind_eq_ok_iff.mp h
    cases hd'
    refine ⟨hipf, fun n hn => ?_⟩
    exact lt_of_unsigned? (number_eq_ok_iff.mp (read_of_fill ho hn))
  | log =>
    simp only [put] at h
    cases hc : categoryLevel value with
    | error e =>
      rw [hc] at h
      cases h
    | ok setting =>
      rw [hc] at h
      cases h
      exact ⟨hipf, hseed⟩
  | _ =>
    obtain ⟨o, -, hd'⟩ := Outcome.bind_eq_ok_iff.mp h
    cases hd'
    exact ⟨hipf, hseed⟩

theorem bounded_turnOn (hd : d.Bounded) {w : Switch} (h : d.turnOn w = .ok d') : d'.Bounded := by
  obtain ⟨hipf, hseed⟩ := hd
  cases w with
  | help => cases h
  | _ =>
    unfold turnOn at h
    dsimp only at h
    split at h
    next => cases h
    next =>
      cases h
      exact ⟨hipf, hseed⟩

end Draft

namespace State

def Bounded (s : State) : Prop := s.draft.Bounded

variable {s s' : State} (hs : s.Bounded)

include hs

theorem bounded_settle (h : s.settle = .ok s') : s'.Bounded := by
  unfold settle at h
  split at h
  next =>
    cases h
    exact hs
  next => cases h
  next =>
    obtain ⟨d, hd, hs'⟩ := Outcome.bind_eq_ok_iff.mp h
    cases hs'
    exact Draft.bounded_put hs hd

theorem bounded_positional {arg : String} (h : s.positional arg = .ok s') : s'.Bounded := by
  unfold positional at h
  split at h
  next => cases h
  next =>
    obtain ⟨t, ht, hs'⟩ := Outcome.bind_eq_ok_iff.mp h
    have hbounded := bounded_settle hs ht
    cases hs'
    exact hbounded

theorem bounded_option {name : String} {value : Option String} (h : s.option name value = .ok s') : s'.Bounded := by
  unfold option at h
  split at h
  next =>
    obtain ⟨t, ht, h⟩ := Outcome.bind_eq_ok_iff.mp h
    obtain ⟨d, hd, hs'⟩ := Outcome.bind_eq_ok_iff.mp h
    cases hs'
    exact Draft.bounded_put (bounded_settle hs ht) hd
  next =>
    obtain ⟨t, ht, hs'⟩ := Outcome.bind_eq_ok_iff.mp h
    have hbounded := bounded_settle hs ht
    cases hs'
    exact hbounded
  next => cases h
  next =>
    obtain ⟨t, ht, h⟩ := Outcome.bind_eq_ok_iff.mp h
    obtain ⟨d, hd, hs'⟩ := Outcome.bind_eq_ok_iff.mp h
    cases hs'
    exact Draft.bounded_turnOn (bounded_settle hs ht) hd
  next => cases h

theorem bounded_plain {arg : String} (h : s.plain arg = .ok s') : s'.Bounded := by
  unfold plain at h
  split at h
  next =>
    cases h
    exact hs
  next => exact bounded_positional hs h

omit hs in
theorem short_ne_ok (letters : List Char) : s.short letters ≠ .ok s' := by
  unfold short
  split
  next =>
    intro h
    obtain ⟨t, -, hs'⟩ := Outcome.bind_eq_ok_iff.mp h
    cases hs'
  next => exact nofun

theorem bounded_argument {arg : String} (h : s.argument arg = .ok s') : s'.Bounded := by
  unfold argument at h
  split at h
  next =>
    split at h
    next => exact bounded_option hs h
    next => exact bounded_option hs h
  next => exact bounded_plain hs h
  next => exact absurd h (short_ne_ok _)
  next => exact bounded_plain hs h

theorem bounded_positionals {args : List String} (h : s.positionals args = .ok s') : s'.Bounded := by
  induction args generalizing s with
  | nil =>
    cases h
    exact hs
  | cons arg rest ih =>
    obtain ⟨t, ht, h⟩ := Outcome.bind_eq_ok_iff.mp h
    exact ih (bounded_positional hs ht) h

theorem bounded_arguments {args : List String} (h : s.arguments args = .ok s') : s'.Bounded := by
  induction args generalizing s with
  | nil =>
    cases h
    exact hs
  | cons arg rest ih =>
    unfold arguments at h
    split at h
    next he => cases he
    next he =>
      cases he
      exact bounded_positionals hs h
    next he =>
      cases he
      obtain ⟨t, ht, h⟩ := Outcome.bind_eq_ok_iff.mp h
      exact ih (bounded_argument hs ht) h

end State

/-- The numbers of a command line that is accepted fit into the settings. -/
theorem bounded_ofArguments {args : List String} {o : Options} (h : ofArguments args = .ok o) :
    InRange o.ipf o.seed := by
  obtain ⟨s, hs, h⟩ := Outcome.bind_eq_ok_iff.mp h
  obtain ⟨t, ht, h⟩ := Outcome.bind_eq_ok_iff.mp h
  have hstart : State.start.Bounded := Draft.bounded_empty
  have hbounded := State.bounded_settle (State.bounded_arguments hstart hs) ht
  unfold Draft.complete at h
  split at h
  next => cases h
  next =>
    cases h
    exact hbounded

end Chip8.Options
