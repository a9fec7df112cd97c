import Chip8.Proofs.Json.Grammar
import Chip8.Proofs.Json.Reader
import Chip8.Settings

namespace Chip8

namespace Json

/-- The values of the members with a given name. -/
def valuesOf (name : String) (members : List (Name × Written)) : List Written :=
  (members.filter fun m => m.1.text = name).map Prod.snd

section Fields

variable {α : Type} (members : List (Name × Written)) (name : String) (Reads : Written → α → Prop)

/-- The value of a field: what its only member is read as, or the default without a member. -/
def Gives (default a : α) : Prop :=
  match valuesOf name members with
  | [] => a = default
  | [w] => Reads w a
  | _ => False

/-- A field whose member comes twice, or is none of the field's values. -/
def Spoils : Prop :=
  2 ≤ (valuesOf name members).length ∨ ∃ w ∈ valuesOf name members, ∀ a, ¬ Reads w a

end Fields

section Fields

variable {α : Type} {members : List (Name × Written)} {name : String} {Reads : Written → α → Prop}

theorem valuesOf_cons_self (m : Name) (w : Written) (h : m.text = name) :
    valuesOf name ((m, w) :: members) = w :: valuesOf name members := by
  simp [valuesOf, h]

theorem valuesOf_cons_of_ne (m : Name) (w : Written) (h : m.text ≠ name) :
    valuesOf name ((m, w) :: members) = valuesOf name members := by
  simp [valuesOf, h]

theorem exists_gives_iff (default : α) :
    (∃ a, Gives members name Reads default a) ↔ ¬ Spoils members name Reads := by
  unfold Gives Spoils
  match valuesOf name members with
  | [] => simp
  | [w] => simp
  | _ :: _ :: _ => simp

/-- Reads the values of one field one after the other. -/
def readAll (name : String) (read : Document → Except Error α) : Option α → List Written → Except Error (Option α)
  | old, [] => .ok old
  | old, w :: ws => do readAll name read (← once name old (read w.document)) ws

/-- A field takes what its only member is read as. -/
theorem readAll_iff (members : List (Name × Written)) (name : String) (default a : α)
    {read : Document → Except Error α} {Reads : Written → α → Prop}
    (h : ∀ w ∈ valuesOf name members, ∀ a, read w.document = .ok a ↔ Reads w a) :
    (∃ o, readAll name read none (valuesOf name members) = .ok o ∧ o.getD default = a) ↔
      Gives members name Reads default a := by
  unfold Gives
  match hvalues : valuesOf name members with
  | [] => simp [readAll, eq_comm]
  | [w] =>
    rw [hvalues] at h
    have hw := h w (List.mem_singleton_self w)
    dsimp only
    rw [← hw, readAll, once]
    cases read w.document <;> simp [readAll]
  | w :: _ :: _ =>
    simp only [readAll, once]
    cases read w.document <;> simp

end Fields

section Numbers

open Lexeme

variable {n : Numeral} {bits k : Nat}

theorem Lexeme.Parts.exists_real {p : Parts} {x : Number} (h : p.real = .ok x) : ∃ y, x = .real y := by
  have hjoined {m : Except Error Magnitude}
      (h : (do return Number.real ⟨p.negative, ← m⟩) = Except.ok x) : ∃ y, x = .real y := by
    obtain ⟨m, -, hx⟩ := Outcome.bind_eq_ok_iff.mp h
    exact ⟨_, (Except.ok.inj hx).symm⟩
  unfold Parts.real at h
  dsimp only at h
  -- whatever the magnitude comes from
  split at h
  next => exact hjoined h
  next =>
    split at h
    next =>
      split at h
      next => cases h
      next => exact hjoined h
    next => exact hjoined h

/-- A number with a fraction or an exponent, or out of the range that is kept exactly, is no whole number. -/
theorem real_unsigned_ne_ok {p : Parts} {wanted : Wanted} :
    (do (← p.real).unsigned bits wanted) ≠ .ok k := by
  intro h
  obtain ⟨x, hx, hread⟩ := Outcome.bind_eq_ok_iff.mp h
  obtain ⟨y, rfl⟩ := Parts.exists_real hx
  cases hread

theorem Numeral.eq_ofNat (hn : ¬ n.parts.negative = true)
    (hplain : ¬ ((!n.parts.fraction.isEmpty) = true ∨ n.parts.exponent.isSome = true)) : n = .ofNat n.whole := by
  obtain ⟨negative, whole, fraction, exponent⟩ := n
  obtain ⟨hfraction, hexponent⟩ := not_or.mp hplain
  have hf : fraction = none := by
    cases fraction with
    | none => rfl
    | some digits =>
      have hsome : digits.chars.isEmpty = false := List.isEmpty_eq_false_iff.mpr digits.ne_nil
      exact absurd (by simp [Numeral.parts, hsome]) hfraction
  have he : exponent = none := by
    cases exponent with
    | none => rfl
    | some e => exact absurd rfl hexponent
  have hnegative : negative = false := Bool.eq_false_iff.mpr hn
  rw [hf, he, hnegative]
  rfl

/-- The unsigned whole numbers are those written by their digits and nothing else, if they are in range. -/
theorem unsigned_parts_iff {wanted : Wanted} (hbits : bits ≤ 64) :
    (do (← n.parts.value).unsigned bits wanted) = .ok k ↔ n = .ofNat k ∧ k < 1 <<< bits := by
  have hwhole : decimal n.parts.whole = n.whole := decimal_digits n.whole
  constructor
  · intro h
    unfold Parts.value at h
    dsimp only at h
    split at h
    next => exact absurd h real_unsigned_ne_ok
    next hplain =>
      split at h
      next hneg =>
        split at h
        next => exact absurd h real_unsigned_ne_ok
        next hrange =>
          -- what is left is below zero
          have hbelow : ¬ (0 ≤ -(decimal n.parts.whole : Int) ∧
              -(decimal n.parts.whole : Int) < (1 <<< bits : Nat)) := by omega
          rw [Outcome.ok_bind, Number.unsigned, if_neg hbelow] at h
          cases h
      next hpos =>
        split at h
        next hle =>
          rw [Outcome.ok_bind, Number.unsigned] at h
          split at h
          next hrange =>
            cases h
            rw [hwhole, Int.toNat_natCast] at *
            exact ⟨Numeral.eq_ofNat hpos hplain, Int.ofNat_lt.mp hrange.2⟩
          next => cases h
        next => exact absurd h real_unsigned_ne_ok
  · rintro ⟨rfl, hk⟩
    have hsize : 1 <<< bits ≤ UInt64.size := by
      rw [Nat.one_shiftLeft]
      exact Nat.pow_le_pow_right (by decide) hbits
    have hle : k ≤ maxSignificand := Nat.le_sub_one_of_lt (Nat.lt_of_lt_of_le hk hsize)
    have hvalue : (Numeral.ofNat k).parts.value = .ok (.int k) := value_nonnegative hle
    have hrange : 0 ≤ (k : Int) ∧ (k : Int) < (1 <<< bits : Nat) := ⟨Int.natCast_nonneg k, Int.ofNat_lt.mpr hk⟩
    rw [hvalue, Outcome.ok_bind, Number.unsigned, if_pos hrange, Int.toNat_natCast]

/-- What is found in the place of something else is never read as it. -/
theorem Document.mismatch_ne_ok {α : Type} (d : Document) (wanted : Wanted) (a : α) : d.mismatch wanted ≠ .ok a := by
  cases d with
  | literal l => cases l <;> exact nofun
  | number n =>
    intro h
    obtain ⟨x, -, hx⟩ := Outcome.bind_eq_ok_iff.mp h
    cases hx
  | string s =>
    intro h
    obtain ⟨x, -, hx⟩ := Outcome.bind_eq_ok_iff.mp h
    cases hx
  | _ => exact nofun

theorem unsigned_document_iff {w : Written} (hbits : bits ≤ 64) :
    w.document.unsigned bits = .ok k ↔ w = .number (.ofNat k) ∧ k < 1 <<< bits := by
  cases w with
  | number n =>
    rw [Written.number.injEq, ← unsigned_parts_iff hbits]
    rfl
  | bool b => cases b <;> exact iff_of_false nofun nofun
  | _ =>
    refine iff_of_false (fun h => ?_) nofun
    simp only [Written.document, Document.unsigned] at h
    exact Document.mismatch_ne_ok _ _ _ h

end Numbers

theorem Document.readWith_of_whole {α : Type} (d : Document) (read : Document → Except Error α) :
    Root.readWith ⟨d, false⟩ read = read d := by
  rw [Root.readWith]
  cases read d <;> rfl

/-- A null is nothing, and everything else is something. -/
theorem optional_document {α : Type} {w : Written} (hw : w ≠ .null) (read : Document → Except Error α) :
    w.document.optional read = (read w.document).map some := by
  cases w with
  | null => exact absurd rfl hw
  | bool b => cases b <;> rfl
  | _ => rfl

/-- A whole number, written by its digits and nothing else. -/
def Written.whole (n : Nat) : Written := .number (.ofNat n)

theorem unsigned_document_ofNat {k bits : Nat} (hk : k < 1 <<< bits) : (ofNat k).document.unsigned bits = .ok k := by
  have hrange : 0 ≤ (k : Int) ∧ (k : Int) < (1 <<< bits : Nat) := ⟨Int.natCast_nonneg k, Int.ofNat_lt.mpr hk⟩
  rw [ofNat, document, Document.unsigned, Lexeme.ofNumber, Outcome.ok_bind, Number.unsigned, if_pos hrange,
    Int.toNat_natCast]

theorem boolean_document_iff {w : Written} {b : Bool} : w.document.boolean = .ok b ↔ w = .bool b := by
  cases w with
  | bool b' => cases b' <;> simp [Written.document, Document.boolean]
  | _ =>
    refine iff_of_false (fun h => ?_) nofun
    simp only [Written.document, Document.boolean] at h
    exact Document.mismatch_ne_ok _ _ _ h

end Json

open Json (Name Written Document Gives Spoils valuesOf)

namespace MachineSettings

variable {members : List (Name × Written)} {w : Written}

def IsInstructions (w : Written) (n : UInt32) : Prop := w = .whole n.toNat

/-- What stands for a seed, or for its absence. -/
def IsSeed (w : Written) : Option UInt64 → Prop
  | none => w = .null
  | some n => w = .whole n.toNat

/-- The settings that members describe: a field has the value that its member gives, or its default where it has
none; members with other names are passed over. -/
structure Described (members : List (Name × Written)) (s : MachineSettings) : Prop where
  instructions :
    Gives members "instructions_per_frame" IsInstructions default.instructionsPerFrame s.instructionsPerFrame
  seed : Gives members "seed" IsSeed default.seed s.seed

/-- Members that describe no settings: one comes twice or has a value that is none of its field's. -/
def Spoiled (members : List (Name × Written)) : Prop :=
  Spoils members "instructions_per_frame" IsInstructions ∨ Spoils members "seed" IsSeed

theorem exists_described_iff (members : List (Name × Written)) : (∃ s, Described members s) ↔ ¬ Spoiled members := by
  rw [Spoiled, not_or, ← Json.exists_gives_iff default.instructionsPerFrame, ← Json.exists_gives_iff default.seed]
  constructor
  · rintro ⟨s, hn, hseed⟩
    exact ⟨⟨_, hn⟩, ⟨_, hseed⟩⟩
  · rintro ⟨⟨n, hn⟩, ⟨seed, hseed⟩⟩
    exact ⟨⟨n, seed⟩, hn, hseed⟩

theorem readInstructions_iff {n : UInt32} : readInstructions w.document = .ok n ↔ IsInstructions w n := by
  simp only [readInstructions, Outcome.map_eq_ok_iff, Json.unsigned_document_iff (by decide : 32 ≤ 64)]
  constructor
  · rintro ⟨k, ⟨rfl, hk⟩, rfl⟩
    rw [IsInstructions, UInt32.toNat_ofNat_of_lt' hk]
    rfl
  · intro hw
    exact ⟨n.toNat, ⟨hw, n.toNat_lt⟩, UInt32.ofNat_toNat⟩

theorem readSeed_iff {seed : Option UInt64} : readSeed w.document = .ok seed ↔ IsSeed w seed := by
  by_cases hw : w = .null
  · subst hw
    cases seed with
    | none => exact iff_of_true rfl rfl
    | some n => exact iff_of_false nofun nofun
  · simp only [readSeed, Json.optional_document hw, Outcome.map_eq_ok_iff,
      Json.unsigned_document_iff (Nat.le_refl 64)]
    cases seed with
    | none => exact iff_of_false (by rintro ⟨-, -, ⟨⟩⟩) hw
    | some n =>
      constructor
      · rintro ⟨-, ⟨k, ⟨rfl, hk⟩, rfl⟩, ⟨⟩⟩
        rw [IsSeed, UInt64.toNat_ofNat_of_lt' hk]
        rfl
      · intro hn
        exact ⟨n, ⟨n.toNat, ⟨hn, n.toNat_lt⟩, UInt64.ofNat_toNat⟩, rfl⟩

theorem readMembers_iff (members : List (Name × Written)) (draft draft' : Draft) :
    Document.readMembers readField draft (Written.memberDocuments members) .closed = .ok draft' ↔
      Json.readAll "instructions_per_frame" readInstructions draft.instructionsPerFrame
          (valuesOf "instructions_per_frame" members) = .ok draft'.instructionsPerFrame ∧
        Json.readAll "seed" readSeed draft.seed (valuesOf "seed" members) = .ok draft'.seed := by
  induction members generalizing draft with
  | nil =>
    obtain ⟨n, seed⟩ := draft
    obtain ⟨n', seed'⟩ := draft'
    simp [Written.memberDocuments, Document.readMembers, Document.objectEnd, valuesOf, Json.readAll]
  | cons m members ih =>
    obtain ⟨name, w⟩ := m
    simp only [Written.memberDocuments, Document.readMembers, Json.Lexeme.ofString, Outcome.ok_bind]
    by_cases hn : name.text = "instructions_per_frame"
    · have hother : name.text ≠ "seed" := by rw [hn]; decide
      rw [Json.valuesOf_cons_self _ _ hn, Json.valuesOf_cons_of_ne _ _ hother, hn, readField, Json.readAll]
      cases Json.once "instructions_per_frame" draft.instructionsPerFrame (readInstructions w.document) with
      | error e => simp
      | ok o => exact ih _
    · by_cases hs : name.text = "seed"
      · rw [Json.valuesOf_cons_of_ne _ _ hn, Json.valuesOf_cons_self _ _ hs, hs, readField, Json.readAll]
        cases Json.once "seed" draft.seed (readSeed w.document) with
        | error e => simp
        | ok o => exact ih _
      · rw [Json.valuesOf_cons_of_ne _ _ hn, Json.valuesOf_cons_of_ne _ _ hs, readField, Written.skim_document]
        · exact ih draft
        · exact hn
        · exact hs

theorem complete_eq_iff {s : MachineSettings} {draft : Draft} :
    draft.complete = s ↔
      draft.instructionsPerFrame.getD default.instructionsPerFrame = s.instructionsPerFrame ∧
        draft.seed.getD default.seed = s.seed := by
  rw [Draft.complete, mk.injEq]

/-- An object is read as the settings that its members describe. -/
theorem ofDocument_iff {s : MachineSettings} :
    ofDocument (Written.object members).document = .ok s ↔ Described members s := by
  have hinstructions := Json.readAll_iff members "instructions_per_frame" default.instructionsPerFrame
    s.instructionsPerFrame fun _ _ _ => readInstructions_iff
  have hseed := Json.readAll_iff members "seed" default.seed s.seed fun _ _ _ => readSeed_iff
  simp only [Written.document, ofDocument, Outcome.bind_eq_ok_iff, readMembers_iff, Outcome.pure_eq_ok, Except.ok.injEq,
    complete_eq_iff]
  constructor
  · rintro ⟨draft, ⟨hn, hs⟩, hn', hs'⟩
    exact ⟨hinstructions.mp ⟨_, hn, hn'⟩, hseed.mp ⟨_, hs, hs'⟩⟩
  · rintro ⟨hn, hs⟩
    obtain ⟨n, hread, hn'⟩ := hinstructions.mpr hn
    obtain ⟨seed, hread', hs'⟩ := hseed.mpr hs
    exact ⟨⟨n, seed⟩, ⟨hread, hread'⟩, hn', hs'⟩

end MachineSettings

namespace Settings

variable {members : List (Name × Written)} {w : Written}

def IsMachine (w : Written) (m : MachineSettings) : Prop :=
  ∃ members, w = .object members ∧ MachineSettings.Described members m

def IsKeys (w : Written) (keys : UInt16) : Prop := w = .whole keys.toNat

def IsRealtime (w : Written) (realtime : Bool) : Prop := w = .bool realtime

/-- The settings that members describe. -/
structure Described (members : List (Name × Written)) (s : Settings) : Prop where
  machine : Gives members "machine" IsMachine default.machine s.machine
  keys : Gives members "keys" IsKeys default.keys s.keys
  realtime : Gives members "realtime" IsRealtime default.realtime s.realtime

/-- Members that describe no settings. -/
def Spoiled (members : List (Name × Written)) : Prop :=
  Spoils members "machine" IsMachine ∨ Spoils members "keys" IsKeys ∨ Spoils members "realtime" IsRealtime

theorem exists_described_iff (members : List (Name × Written)) : (∃ s, Described members s) ↔ ¬ Spoiled members := by
  rw [Spoiled, not_or, not_or, ← Json.exists_gives_iff default.machine, ← Json.exists_gives_iff default.keys,
    ← Json.exists_gives_iff default.realtime]
  constructor
  · rintro ⟨s, hm, hk, hr⟩
    exact ⟨⟨_, hm⟩, ⟨_, hk⟩, ⟨_, hr⟩⟩
  · rintro ⟨⟨m, hm⟩, ⟨k, hk⟩, ⟨r, hr⟩⟩
    exact ⟨⟨m, k, r⟩, hm, hk, hr⟩

/-- The machine is not written as an array of its fields. -/
def MachineNamed (members : List (Name × Written)) : Prop :=
  ∀ items, .array items ∉ valuesOf "machine" members

theorem readMachine_iff {m : MachineSettings} (hw : ∀ items, w ≠ .array items) :
    MachineSettings.ofDocument w.document = .ok m ↔ IsMachine w m := by
  cases w with
  | object members =>
    rw [MachineSettings.ofDocument_iff]
    constructor
    · exact fun h => ⟨members, rfl, h⟩
    · rintro ⟨_, ⟨⟩, h⟩
      exact h
  | array items => exact absurd rfl (hw items)
  | bool b => cases b <;> exact iff_of_false nofun nofun
  | _ =>
    refine iff_of_false (fun h => ?_) nofun
    simp only [Written.document, MachineSettings.ofDocument] at h
    exact Document.mismatch_ne_ok _ _ _ h

theorem readKeys_iff {keys : UInt16} : readKeys w.document = .ok keys ↔ IsKeys w keys := by
  simp only [readKeys, Outcome.map_eq_ok_iff, Json.unsigned_document_iff (by decide : 16 ≤ 64)]
  constructor
  · rintro ⟨k, ⟨rfl, hk⟩, rfl⟩
    rw [IsKeys, UInt16.toNat_ofNat_of_lt' hk]
    rfl
  · intro hw
    exact ⟨keys.toNat, ⟨hw, keys.toNat_lt⟩, UInt16.ofNat_toNat⟩

theorem readMembers_iff (members : List (Name × Written)) (draft draft' : Draft) :
    Document.readMembers readField draft (Written.memberDocuments members) .closed = .ok draft' ↔
      Json.readAll "machine" MachineSettings.ofDocument draft.machine (valuesOf "machine" members) =
          .ok draft'.machine ∧
        Json.readAll "keys" readKeys draft.keys (valuesOf "keys" members) = .ok draft'.keys ∧
        Json.readAll "realtime" Document.boolean draft.realtime (valuesOf "realtime" members) =
          .ok draft'.realtime := by
  induction members generalizing draft with
  | nil =>
    obtain ⟨m, k, r⟩ := draft
    obtain ⟨m', k', r'⟩ := draft'
    simp [Written.memberDocuments, Document.readMembers, Document.objectEnd, valuesOf, Json.readAll]
  | cons m members ih =>
    obtain ⟨name, w⟩ := m
    simp only [Written.memberDocuments, Document.readMembers, Json.Lexeme.ofString, Outcome.ok_bind]
    by_cases hm : name.text = "machine"
    · have hk : name.text ≠ "keys" := by rw [hm]; decide
      have hr : name.text ≠ "realtime" := by rw [hm]; decide
      rw [Json.valuesOf_cons_self _ _ hm, Json.valuesOf_cons_of_ne _ _ hk, Json.valuesOf_cons_of_ne _ _ hr, hm,
        readField, Json.readAll]
      cases Json.once "machine" draft.machine (MachineSettings.ofDocument w.document) with
      | error e => simp
      | ok o => exact ih _
    · by_cases hk : name.text = "keys"
      · have hr : name.text ≠ "realtime" := by rw [hk]; decide
        rw [Json.valuesOf_cons_of_ne _ _ hm, Json.valuesOf_cons_self _ _ hk, Json.valuesOf_cons_of_ne _ _ hr, hk,
          readField, Json.readAll]
        cases Json.once "keys" draft.keys (readKeys w.document) with
        | error e => simp
        | ok o => exact ih _
      · by_cases hr : name.text = "realtime"
        · rw [Json.valuesOf_cons_of_ne _ _ hm, Json.valuesOf_cons_of_ne _ _ hk, Json.valuesOf_cons_self _ _ hr, hr,
            readField, Json.readAll]
          cases Json.once "realtime" draft.realtime w.document.boolean with
          | error e => simp
          | ok o => exact ih _
        · rw [Json.valuesOf_cons_of_ne _ _ hm, Json.valuesOf_cons_of_ne _ _ hk, Json.valuesOf_cons_of_ne _ _ hr,
            readField, Written.skim_document]
          · exact ih draft
          · exact hm
          · exact hk
          · exact hr

theorem complete_eq_iff {s : Settings} {draft : Draft} :
    draft.complete = s ↔
      draft.machine.getD default.machine = s.machine ∧ draft.keys.getD default.keys = s.keys ∧
        draft.realtime.getD default.realtime = s.realtime := by
  rw [Draft.complete, mk.injEq]

section Objects

variable {text : String} (htext : (Written.object members).Spells text) (hnamed : MachineNamed members)

include htext hnamed

/-- An object is read as the settings that its members describe. -/
theorem ofText_eq_ok_iff {s : Settings} : ofText text = .ok s ↔ Described members s := by
  have hmachine := Json.readAll_iff members "machine" default.machine s.machine
    fun w hw _ => readMachine_iff fun items h => hnamed items (h ▸ hw)
  have hkeys := Json.readAll_iff members "keys" default.keys s.keys fun _ _ _ => readKeys_iff
  have hrealtime := Json.readAll_iff members "realtime" default.realtime s.realtime
    fun _ _ _ => Json.boolean_document_iff
  rw [ofText, Written.ofText_of_spells htext, Document.readWith_of_whole]
  simp only [Written.document, ofDocument, Outcome.bind_eq_ok_iff, readMembers_iff, Outcome.pure_eq_ok, Except.ok.injEq,
    complete_eq_iff]
  constructor
  · rintro ⟨draft, ⟨hm, hk, hr⟩, hm', hk', hr'⟩
    exact ⟨hmachine.mp ⟨_, hm, hm'⟩, hkeys.mp ⟨_, hk, hk'⟩, hrealtime.mp ⟨_, hr, hr'⟩⟩
  · rintro ⟨hm, hk, hr⟩
    obtain ⟨m, hread, hm'⟩ := hmachine.mpr hm
    obtain ⟨k, hread', hk'⟩ := hkeys.mpr hk
    obtain ⟨r, hread'', hr'⟩ := hrealtime.mpr hr
    exact ⟨⟨m, k, r⟩, ⟨hread, hread', hread''⟩, hm', hk', hr'⟩

/-- An object is refused exactly if its members describe no settings. -/
theorem ofText_eq_error_iff : (∃ e, ofText text = .error e) ↔ Spoiled members := by
  have hdescribed := exists_described_iff members
  constructor
  · rintro ⟨e, he⟩
    refine Classical.byContradiction fun hsound => ?_
    obtain ⟨s, hs⟩ := hdescribed.mpr hsound
    rw [(ofText_eq_ok_iff htext hnamed).mpr hs] at he
    cases he
  · intro hspoiled
    cases h : ofText text with
    | error e => exact ⟨e, rfl⟩
    | ok s => exact absurd hspoiled (hdescribed.mp ⟨s, (ofText_eq_ok_iff htext hnamed).mp h⟩)

end Objects

end Settings

theorem MachineSettings.exact_toJson (s : MachineSettings) : Json.Exact s.toJson := by
  have hinstructions : s.instructionsPerFrame.toNat < UInt64.size :=
    Nat.lt_trans s.instructionsPerFrame.toNat_lt (by decide)
  refine ⟨Json.exact_ofNat hinstructions, ?_, trivial⟩
  cases s.seed with
  | none => trivial
  | some seed => exact Json.exact_ofNat seed.toNat_lt_size

theorem MachineSettings.ofDocument_toJson (s : MachineSettings) : ofDocument s.toJson.document = .ok s := by
  obtain ⟨n, seed⟩ := s
  have hinstructions : readInstructions (Json.ofNat n.toNat).document = .ok n := by
    rw [readInstructions, Json.unsigned_document_ofNat n.toNat_lt, Outcome.map_ok, UInt32.ofNat_toNat]
  cases seed with
  | none =>
    have hseed : readSeed (.literal .null) = .ok none := rfl
    simp [toJson, Json.document, Json.memberDocuments, ofDocument, Document.readMembers, Json.Lexeme.ofString,
      readField, Json.once, hinstructions, hseed, Document.objectEnd, Draft.complete]
  | some seed =>
    have hseed : readSeed (Json.ofNat seed.toNat).document = .ok (some seed) := by
      change ((Document.unsigned 64 (Json.ofNat seed.toNat).document).map UInt64.ofNat).map some = _
      rw [Json.unsigned_document_ofNat seed.toNat_lt, Outcome.map_ok, Outcome.map_ok, UInt64.ofNat_toNat]
    simp [toJson, Json.document, Json.memberDocuments, ofDocument, Document.readMembers, Json.Lexeme.ofString,
      readField, Json.once, hinstructions, hseed, Document.objectEnd, Draft.complete]

namespace Settings

theorem exact_toJson (s : Settings) : Json.Exact s.toJson :=
  ⟨s.machine.exact_toJson, Json.exact_ofNat (Nat.lt_trans s.keys.toNat_lt (by decide)), trivial, trivial⟩

theorem ofDocument_toJson (s : Settings) : ofDocument s.toJson.document = .ok s := by
  obtain ⟨m, keys, realtime⟩ := s
  have hmachine := m.ofDocument_toJson
  have hkeys : readKeys (Json.ofNat keys.toNat).document = .ok keys := by
    rw [readKeys, Json.unsigned_document_ofNat keys.toNat_lt, Outcome.map_ok, UInt16.ofNat_toNat]
  cases realtime with
  | true =>
    simp [toJson, Json.document, Json.memberDocuments, ofDocument, Document.readMembers, Json.Lexeme.ofString,
      readField, Json.once, hmachine, hkeys, Document.boolean, Document.objectEnd, Draft.complete]
  | false =>
    simp [toJson, Json.document, Json.memberDocuments, ofDocument, Document.readMembers, Json.Lexeme.ofString,
      readField, Json.once, hmachine, hkeys, Document.boolean, Document.objectEnd, Draft.complete]

theorem ofText_text (s : Settings) : ofText s.text = .ok s := by
  rw [ofText, text, Json.document_compact s.exact_toJson, Document.readWith_of_whole, ofDocument_toJson]

theorem ofText_laidOut (s : Settings) : ofText s.toJson.laidOut = .ok s := by
  rw [ofText, Json.document_laidOut s.exact_toJson, Document.readWith_of_whole, ofDocument_toJson]

end Settings

end Chip8
