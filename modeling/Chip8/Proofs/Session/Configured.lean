import Chip8.Proofs.Options
import Chip8.Proofs.Session.Pacing
import Chip8.Proofs.Settings

namespace Chip8

namespace Settings

open Json (Name Written)

variable {members : List (Name × Written)} {text : String} (htext : (Written.object members).Spells text)
  (hnamed : MachineNamed members)

include htext hnamed

/-- A file with an object gives the settings that the object describes, without a notice. -/
theorem ofFile_of_described {s : Settings} (h : Described members s) (path : String) :
    ofFile path (.ok text) = (s, []) := by
  simp only [ofFile, (ofText_eq_ok_iff htext hnamed).mpr h]

/-- A file with an object that is spoiled gives the defaults, with a notice. -/
theorem ofFile_of_spoiled (h : Spoiled members) (path : String) :
    ∃ notice, ofFile path (.ok text) = (default, [.settingsWarning notice]) := by
  obtain ⟨e, he⟩ := (ofText_eq_error_iff htext hnamed).mpr h
  simp only [ofFile, he]
  exact ⟨_, rfl⟩

end Settings

namespace Session

variable {host : Host} {o : Options}

/-- The settings of the file of a run, or the defaults if it has none. -/
def given (host : Host) (o : Options) : Settings :=
  match o.config with
  | none => .default
  | some path => (Settings.ofFile path (host.readText path)).1

theorem settings_eq (host : Host) (o : Options) : settings host o = (given host o).override o := by
  unfold settings given
  cases o.config <;> rfl

/-- Each field is that of the options, if they give it, and else the given one. -/
structure Merged (given : Settings) (o : Options) (used : Settings) : Prop where
  instructions : used.machine.instructionsPerFrame.toNat = o.ipf.getD given.machine.instructionsPerFrame.toNat
  seed : used.machine.seed.map UInt64.toNat = o.seed.or (given.machine.seed.map UInt64.toNat)
  keys : used.keys = o.keys.getD given.keys
  realtime : used.realtime = (given.realtime || o.realtime)

theorem merged_override (given : Settings) (h : Options.InRange o.ipf o.seed) :
    Merged given o (given.override o) where
  instructions := by
    unfold Settings.override
    cases hipf : o.ipf with
    | none => rfl
    | some n => exact UInt32.toNat_ofNat_of_lt' (h.ipf n hipf)
  seed := by
    unfold Settings.override
    cases hseed : o.seed with
    | none => rfl
    | some n => exact congrArg some (UInt64.toNat_ofNat_of_lt' (h.seed n hseed))
  keys := rfl
  realtime := rfl

/-- The console that a run with these settings has ready for its first frame: from power-on with them, the program was
mounted, the save restored if there is one, and the keys set. -/
def ReadyWith (used : Settings) (host : Host) (o : Options) (c : Console) : Prop :=
  ∃ bytes save, host.read o.rom = .ok bytes ∧ Restores host o save ∧
    (Console.powerOn used.machine host.chance).Completes (preparation bytes.toList save used.keys) c

/-- What a run with these settings comes to. It ends well exactly if its log file can be opened, the commands that get
its console ready and those of all its frames succeed, and its save can be written; a failure of a frame is reported
for the first frame that fails; and there is a pause after each frame that goes well, if frames are paced. -/
structure RunsWith (used : Settings) (host : Host) (o : Options) (out : Outcome) : Prop where
  exit : out.exit = 0 ↔ LogWritable host o ∧ ∃ c d, ReadyWith used (outside host o) o c ∧
    c.Completes (Console.watching o.render o.frames) d ∧
    (∀ path, o.save = some path → host.writable path = .ok ()) ∧
    out.saves = (o.save.toList.map fun path => (path, d.save.laidOut)) ∧
    (o.render = false → out.stdout = d.machine.display.text)
  fails : ∀ number cause, out.FailsWith ⟨some ("frame " ++ Nat.repr number), cause⟩ ↔
    LogWritable host o ∧ ∃ c n d e, ReadyWith used (outside host o) o c ∧ number = n + 1 ∧ n < o.frames ∧
      c.Completes (Console.watching o.render n) d ∧ d.stepFrame.2 = .error e ∧ cause = e.message
  pauses : ∀ c n d, LogWritable host o → ReadyWith used (outside host o) o c →
    c.Completes (Console.watching o.render n) d →
    (n = o.frames ∨ n < o.frames ∧ ∃ e, d.stepFrame.2 = .error e) → out.pauses = if used.realtime then n else 0

theorem runsWith_settings (host : Host) (hd : o.disassemble = false) :
    RunsWith (settings (outside host o) o) host o (outcome host o) where
  exit := exit_eq_zero_iff_ready hd
  fails _ _ := failsWith_frame_iff_ready hd
  pauses _ _ _ hlog hready hcompletes hlast := pauses_of_completes hd hlog hready hcompletes hlast

open Json (Name Written)

/-- Settings and their text. First, settings are read back from their text. Second, an object with members in any order,
of which some are those of fields and others have other names, is read as the settings that it describes: a field has
the value of its member, or its default without one, ten instructions per frame, no seed, no key and no pacing. If a
member of a field comes twice or has a value that is none of its field's, the object is refused, and all settings of a
file with that text are the defaults. Third, each field of the settings that a run has is that of its options, if they
give it, and else that of its file. -/
theorem settings_merge_by_field :
    (∀ s : Settings, Settings.ofText s.text = .ok s ∧ Settings.ofText s.toJson.laidOut = .ok s) ∧
    (∀ (members : List (Name × Written)) (text : String), (Written.object members).Spells text →
      Settings.MachineNamed members →
      (∀ s, Settings.ofText text = .ok s ↔ Settings.Described members s) ∧
      ((∃ e, Settings.ofText text = .error e) ↔ Settings.Spoiled members) ∧
      ∀ path, (∀ s, Settings.Described members s → Settings.ofFile path (.ok text) = (s, [])) ∧
        (Settings.Spoiled members →
          ∃ notice, Settings.ofFile path (.ok text) = (.default, [.settingsWarning notice]))) ∧
    ∀ (host : Host) (args : List String) (o : Options), Options.ofArguments args = .ok o → o.disassemble = false →
      ∃ used, Merged (given (outside host o) o) o used ∧ RunsWith used host o (Outcome.ofArguments host args) := by
  refine ⟨fun s => ⟨s.ofText_text, s.ofText_laidOut⟩, fun members text htext hnamed => ?_,
    fun host args o hargs hd => ?_⟩
  · refine ⟨fun s => Settings.ofText_eq_ok_iff htext hnamed, Settings.ofText_eq_error_iff htext hnamed,
      fun path => ⟨fun s h => Settings.ofFile_of_described htext hnamed h path,
        fun h => Settings.ofFile_of_spoiled htext hnamed h path⟩⟩
  · have hout : Outcome.ofArguments host args = outcome host o := by rw [Outcome.ofArguments, hargs]
    have hmerged := merged_override (given (outside host o) o) (Options.bounded_ofArguments hargs)
    rw [← settings_eq] at hmerged
    rw [hout]
    exact ⟨_, hmerged, runsWith_settings host hd⟩

section Dice

/-- Members in another order than the fields, with one of another name. -/
def diceMembers : List (Name × Written) := [
  (.plain "realtime" rfl, .bool true),
  (.plain "title" rfl, .string (Name.plain "dice" rfl).letters),
  (.plain "machine" rfl, .object [(.plain "seed" rfl, .whole 99)])]

def diceText : String := "\x7b \"realtime\": true,\n\"title\":\"dice\", \"machine\": \x7b\"seed\": 99\x7d\x7d\n"

def twiceMembers : List (Name × Written) := [
  (.plain "keys" rfl, .whole 1), (.plain "keys" rfl, .whole 2)]

def twiceText : String := "\x7b\"keys\":1,\"keys\":2\x7d"

theorem spells_dice : (Written.object diceMembers).Spells diceText := by
  unfold Written.Spells diceText
  repeat first | exact .nil | refine .blank (by decide) ?_ | refine .piece _ ?_

theorem spells_twice : (Written.object twiceMembers).Spells twiceText := by
  unfold Written.Spells twiceText
  repeat first | exact .nil | refine .piece _ ?_

/-- An outside with a program and a settings file. -/
def configured : Host := {
  holding dice with
  read := fun p => if p = "settings" then .ok diceText.toUTF8 else (holding dice).read p }

def diceLine : List String :=
  ["game", "--config", "settings", "--ipf", "1", "--keys", "0x5", "--frames", "2"]

def diceOptions : Options :=
  { short 2 none "c" with config := some "settings", seed := none, keys := some 5, save := none }

theorem dice_settings_merge :
    Settings.ofText diceText = .ok ⟨⟨10, some 99⟩, 0, true⟩ ∧ (∃ e, Settings.ofText twiceText = .error e) ∧
      RunsWith ⟨⟨1, some 99⟩, 5, true⟩ configured diceOptions (Outcome.ofArguments configured diceLine) ∧
      (Outcome.ofArguments configured diceLine).pauses = 2 := by
  obtain ⟨-, hread, hrun⟩ := settings_merge_by_field
  have hnamed : Settings.MachineNamed diceMembers := fun items h => by cases List.mem_singleton.mp h
  have hdescribed : Settings.Described diceMembers ⟨⟨10, some 99⟩, 0, true⟩ := ⟨⟨_, rfl, rfl, rfl⟩, rfl, rfl⟩
  have hspoiled : Settings.Spoiled twiceMembers := .inr (.inl (.inl (Nat.le_refl 2)))
  obtain ⟨hok, -, hfile⟩ := hread _ _ spells_dice hnamed
  obtain ⟨-, herror, -⟩ := hread _ _ spells_twice fun items h => by cases h
  obtain ⟨used, hmerged, hruns⟩ := hrun configured diceLine diceOptions rfl rfl
  have hgiven : given (outside configured diceOptions) diceOptions = ⟨⟨10, some 99⟩, 0, true⟩ := by
    have htext : configured.readText "settings" = .ok diceText := Host.readText_of_read rfl
    change (Settings.ofFile "settings" (configured.readText "settings")).1 = _
    rw [htext, (hfile "settings").1 _ hdescribed]
  have hused : used = ⟨⟨1, some 99⟩, 5, true⟩ := by
    rw [hgiven] at hmerged
    obtain ⟨hinstructions, hseed, hkeys, hrealtime⟩ := hmerged
    obtain ⟨⟨n, seed⟩, keys, realtime⟩ := used
    obtain ⟨k, rfl, hk⟩ := Option.map_eq_some_iff.mp hseed
    cases (UInt32.toNat_inj (b := 1)).mp hinstructions
    cases (UInt64.toNat_inj (b := 99)).mp hk
    cases hkeys
    cases hrealtime
    rfl
  subst hused
  have hexit : (Outcome.ofArguments configured diceLine).exit = 0 := by decide +kernel
  obtain ⟨hlog, c, d, hready, hcompletes, -⟩ := hruns.exit.mp hexit
  exact ⟨(hok _).mpr hdescribed, herror.mpr hspoiled, hruns, hruns.pauses c 2 d hlog hready hcompletes (.inl rfl)⟩

end Dice

end Session

end Chip8
