import Chip8.Proofs.Completion
import Chip8.Proofs.Session.Composition

namespace Chip8

namespace Session

variable {host : Host} {o : Options}

/-- The save that a run restores before its first frame, if it is to restore one. -/
def Restores (host : Host) (o : Options) (save : Option Json) : Prop :=
  match o.load with
  | none => save = none
  | some path => ∃ text v, host.readText path = .ok text ∧ Json.ofText text = .ok v ∧ save = some v

/-- The commands that get a console ready for its first frame. -/
def preparation (program : List UInt8) (save : Option Json) (keys : UInt16) : List Command :=
  .mount Console.programSlot program :: (save.toList.map .restore ++ [.setKeys keys])

/-- The console that a run has ready for its first frame: from power-on with the settings of the run, the
program was mounted, the save restored if there is one, and the keys set. -/
def Ready (host : Host) (o : Options) (c : Console) : Prop :=
  ∃ bytes save, host.read o.rom = .ok bytes ∧ Restores host o save ∧
    (Console.powerOn (settings host o).machine host.chance).Completes
      (preparation bytes.toList save (settings host o).keys) c

theorem loaded_eq_ok_iff {program : List UInt8} {c : Console} :
    loaded host o program = .ok c ↔
      (Console.powerOn (settings host o).machine host.chance).Completes
        [.mount Console.programSlot program] c := by
  rw [loaded, Outcome.bind_eq_ok_iff, Console.completes_cons_iff, Console.completes_nil_iff]
  constructor
  · rintro ⟨⟨⟩, hmount, hc⟩
    exact ⟨Answer.succeeded_ofUnit.mpr (Outcome.mapError_eq_ok_iff.mp hmount), Except.ok.inj hc⟩
  · rintro ⟨hmount, hc⟩
    exact ⟨(), Outcome.mapError_eq_ok_iff.mpr (Answer.succeeded_ofUnit.mp hmount), congrArg _ hc⟩

theorem reopened_eq_ok_iff {path : String} {c d : Console} :
    reopened host path c = .ok d ↔
      ∃ text v, host.readText path = .ok text ∧ Json.ofText text = .ok v ∧
        c.Completes [.restore v] d := by
  simp only [reopened, inContext, Outcome.bind_eq_ok_iff, Outcome.mapError_eq_ok_iff,
    Console.completes_cons_iff, Console.completes_nil_iff]
  constructor
  · rintro ⟨text, htext, v, hv, ⟨⟩, hrestore, hd⟩
    exact ⟨text, v, htext, hv, Answer.succeeded_ofRestore.mpr hrestore, Except.ok.inj hd⟩
  · rintro ⟨text, v, htext, hv, hrestore, hd⟩
    exact ⟨text, htext, v, hv, (), Answer.succeeded_ofRestore.mp hrestore, congrArg _ hd⟩

theorem restoring_eq_ok_iff {c d : Console} {keys : UInt16} :
    (match o.load with
      | some path => do return (← reopened host path c).setKeys keys
      | none => do return (← pure c).setKeys keys) = .ok d ↔
      ∃ save, Restores host o save ∧
        ∃ c', c.Completes (save.toList.map .restore) c' ∧ c'.setKeys keys = d := by
  unfold Restores
  cases o.load with
  | none => simp [Console.completes_nil_iff]
  | some path =>
    simp only [Outcome.bind_eq_ok_iff, reopened_eq_ok_iff]
    constructor
    · rintro ⟨c', ⟨text, v, htext, hv, hc'⟩, hd⟩
      exact ⟨some v, ⟨text, v, htext, hv, rfl⟩, c', hc', Except.ok.inj hd⟩
    · rintro ⟨save, ⟨text, v, htext, hv, rfl⟩, c', hc', hd⟩
      exact ⟨c', ⟨text, v, htext, hv, hc'⟩, congrArg _ hd⟩

theorem completes_preparation_iff {program : List UInt8} {save : Option Json} {keys : UInt16}
    {c d : Console} :
    c.Completes (preparation program save keys) d ↔
      ∃ c₁ c₂, c.Completes [.mount Console.programSlot program] c₁ ∧
        c₁.Completes (save.toList.map .restore) c₂ ∧ c₂.setKeys keys = d := by
  have hkeys (c₂ : Console) : c₂.Completes [.setKeys keys] d ↔ c₂.setKeys keys = d :=
    Console.completes_cons_iff.trans ((and_iff_right rfl).trans Console.completes_nil_iff)
  rw [preparation, ← List.singleton_append, Console.completes_append_iff]
  simp only [Console.completes_append_iff, hkeys, exists_and_left]

/-- The run gets to its first frame exactly if all that it does before succeeds. -/
theorem opening_eq_ok_iff {c : Console} : opening host o = .ok c ↔ Ready host o c := by
  simp only [opening, Ready, inContext, Outcome.bind_eq_ok_iff, Outcome.mapError_eq_ok_iff,
    completes_preparation_iff]
  constructor
  · rintro ⟨bytes, hread, c₁, hloaded, hrestored⟩
    obtain ⟨save, hsave, c₂, hcompletes, hc⟩ := restoring_eq_ok_iff.mp hrestored
    exact ⟨bytes, save, hread, hsave, c₁, c₂, loaded_eq_ok_iff.mp hloaded, hcompletes, hc⟩
  · rintro ⟨bytes, save, hread, hsave, c₁, c₂, hmounted, hcompletes, hc⟩
    exact ⟨bytes, hread, c₁, loaded_eq_ok_iff.mpr hmounted,
      restoring_eq_ok_iff.mpr ⟨save, hsave, c₂, hcompletes, hc⟩⟩

section Listings

/-- What a run for a listing ends with and leaves. -/
def listed (host : Host) (o : Options) : Except Trouble Unit × List Effect :=
  match host.read o.rom with
  | .error e => (.error ⟨some ("reading " ++ o.rom), e.message⟩, [])
  | .ok bytes => (.ok (), [.show (Listing.text (listing programStart bytes.toList))])

theorem yields_listing (hlog : o.logFile = none) (hd : o.disassemble = true) :
    Yields (play host o) (listed host o).1 (listed host o).2 := by
  refine (yields_setUpLogging host hlog).then ?_
  unfold listed
  cases host.read o.rom with
  | error e => exact (yields_within _ _ (.error e)).bind_error
  | ok bytes =>
    refine (yields_within _ _ (.ok bytes)).then ?_
    simp only [hd]
    exact yields_emit _

end Listings

section Endings

variable {c d : Console}

/-- A run that fails before it has anything to save leaves nothing but what it has shown of its frames. -/
theorem account_of_error {t : Trouble} (h : (account host o).1 = .error t) :
    (∃ path e, o.save = some path ∧ host.writable path = .error e ∧
      t = ⟨some ("writing " ++ path), e.message⟩) ∨
      ∃ texts : List String, (account host o).2 = texts.map redraw ∧ (o.render = false → texts = []) := by
  unfold account at h ⊢
  cases hopen : opening host o with
  | error u => exact .inr ⟨[], rfl, fun _ => rfl⟩
  | ok c =>
    rw [hopen] at h
    unfold rolling at h ⊢
    cases hend : (c.film o.render o.frames).ending with
    | error x =>
      refine .inr ⟨(c.film o.render o.frames).texts, by simp only [hend], fun hrender => ?_⟩
      rw [hrender, Console.texts_film_false]
    | ok d =>
      -- after the last frame only the writing of the save can fail
      left
      simp only [hend, saving] at h
      cases hsave : o.save with
      | none => simp [hsave] at h
      | some path =>
        cases hw : host.writable path with
        | ok _ => simp [hsave, hw] at h
        | error e =>
          simp only [hsave, hw] at h
          cases h
          exact ⟨path, e, rfl, hw, rfl⟩

variable (hlog : o.logFile = none)

include hlog

theorem nothing_left_of_exit (hexit : (outcome host o).exit ≠ 0) :
    (∃ path e, o.save = some path ∧ host.writable path = .error e ∧
      (outcome host o).FailsWith ⟨some ("writing " ++ path), e.message⟩) ∨
      (outcome host o).saves = [] ∧ (o.render = false → (outcome host o).stdout = "") := by
  cases hd : o.disassemble with
  | true =>
    have hy : Yields (play host o) _ _ := yields_listing hlog hd
    have hfails := mt (exit_eq_zero_iff hy).mpr hexit
    unfold listed at hy hfails
    cases hread : host.read o.rom with
    | ok bytes => simp [hread] at hfails
    | error e =>
      simp only [hread] at hy
      exact .inr ⟨saves_outcome hy, fun _ => stdout_outcome hy⟩
  | false =>
    have hy : Yields (play host o) _ _ := yields_play hlog hd
    cases hr : (account host o).1 with
    | ok _ => exact absurd ((exit_eq_zero_iff hy).mpr hr) hexit
    | error t =>
      rcases account_of_error hr with ⟨path, e, hs, hw, rfl⟩ | ⟨texts, htexts, hrender⟩
      · exact .inl ⟨path, e, hs, hw, (failsWith_iff hy).mpr hr⟩
      · rw [htexts] at hy
        refine .inr ⟨(saves_outcome hy).trans (saved_redraw texts), fun hr => ?_⟩
        rw [stdout_outcome hy, hrender hr]
        rfl

theorem outcome_of_listing (hd : o.disassemble = true) :
    ((outcome host o).exit = 0 ↔ ∃ bytes, host.read o.rom = .ok bytes) ∧
      ∀ bytes, host.read o.rom = .ok bytes →
        (outcome host o).stdout = Listing.text (listing programStart bytes.toList) ∧
          (outcome host o).saves = [] := by
  have hy : Yields (play host o) _ _ := yields_listing hlog hd
  unfold listed at hy
  cases hread : host.read o.rom with
  | error e =>
    simp only [hread] at hy
    rw [exit_eq_zero_iff hy]
    exact ⟨iff_of_false nofun nofun, nofun⟩
  | ok bytes =>
    simp only [hread] at hy
    refine ⟨iff_of_true ((exit_eq_zero_iff hy).mpr rfl) ⟨bytes, rfl⟩, ?_⟩
    rintro _ ⟨⟩
    exact ⟨(stdout_outcome hy).trans (by simp [Effect.shown?, String.join]), saves_outcome hy⟩

variable (hd : o.disassemble = false)

include hd

theorem exit_eq_zero_iff_completes :
    (outcome host o).exit = 0 ↔ ∃ c d, Ready host o c ∧
      c.Completes (Console.watching o.render o.frames) d ∧
      (∀ path, o.save = some path → host.writable path = .ok ()) ∧
      (outcome host o).saves = (o.save.toList.map fun path => (path, d.save.laidOut)) ∧
      (o.render = false → (outcome host o).stdout = d.machine.display.text) := by
  constructor
  · intro hexit
    obtain ⟨c, d, hopen, hend⟩ := exists_film_of_exit hlog hd hexit
    have hw (path : String) (hs : o.save = some path) : host.writable path = .ok () := by
      have hok := (exit_eq_zero_iff (yields_play hlog hd)).mp hexit
      simp only [account_of_opening hopen, rolling, hend, saving, hs] at hok
      cases hw : host.writable path with
      | ok _ => rfl
      | error e => simp [hw] at hok
    obtain ⟨-, hsaves, hstdout⟩ := outcome_of_writable hlog hd hopen hend hw
    refine ⟨c, d, opening_eq_ok_iff.mp hopen, Console.ending_film_eq_ok_iff.mp hend, hw, hsaves, ?_⟩
    intro hrender
    rw [hstdout, hrender, Console.texts_film_false]
    simp
  · rintro ⟨c, d, hc, hcompletes, hw, -⟩
    exact (outcome_of_writable hlog hd (opening_eq_ok_iff.mpr hc)
      (Console.ending_film_eq_ok_iff.mpr hcompletes) hw).1

/-- A trouble with a frame is reported exactly if all goes well before that frame and the frame fails. -/
theorem failsWith_frame_iff {number : Nat} {cause : String} :
    (outcome host o).FailsWith ⟨some ("frame " ++ Nat.repr number), cause⟩ ↔
      ∃ c n d e, Ready host o c ∧ number = n + 1 ∧ n < o.frames ∧
        c.Completes (Console.watching o.render n) d ∧ d.stepFrame.2 = .error e ∧ cause = e.message := by
  constructor
  · intro hfails
    obtain ⟨c, ⟨n, e⟩, hopen, hend, rfl, rfl⟩ := exists_film_of_failsWith hlog hd hfails
    obtain ⟨hn, d, hd, he⟩ := Console.ending_film_eq_error_iff.mp hend
    exact ⟨c, n, d, e, opening_eq_ok_iff.mp hopen, Nat.add_comm 1 n, hn, hd, he, rfl⟩
  · rintro ⟨c, n, d, e, hc, rfl, hn, hd', he, rfl⟩
    have hend : (c.film o.render o.frames).ending = .error (n, e) :=
      Console.ending_film_eq_error_iff.mpr ⟨hn, d, hd', he⟩
    rw [Nat.add_comm]
    exact (outcome_of_error hlog hd (opening_eq_ok_iff.mpr hc) hend).1

end Endings

/-- A run without a log file leaves all or nothing. If it fails, for whatever reason other than that its save
cannot be written, then it saves nothing and shows nothing but perhaps its frames. If it is for a listing, it
fails only if the program cannot be read, shows the listing of the program, of whatever size, a line for each word
and one for an odd byte at the end, and saves nothing. Otherwise it ends well exactly if the commands that get its
console ready and those of all its frames succeed and its save can be written; then the save is that of the console
that these commands lead to, and so is the display that it shows at the end. And a failure of a frame is reported
for the first frame that fails. -/
theorem runs_leave_all_or_nothing (host : Host) {args : List String} (hargs : Options.ofArguments args = .ok o)
    (hlog : o.logFile = none) :
    let out := Outcome.ofArguments host args
    let hex (width n : Nat) : String := .ofList (((Nat.toDigits 16 n).map Char.toUpper).leftpad width '0')
    (out.exit ≠ 0 →
      (∃ path e, o.save = some path ∧ host.writable path = .error e ∧
        out.FailsWith ⟨some ("writing " ++ path), e.message⟩) ∨
      out.saves = [] ∧ (o.render = false → out.stdout = "")) ∧
    ((∀ addr word i, Listing.Line.text ⟨addr, word, some i⟩ =
        hex 3 addr.toNat ++ ": " ++ hex 4 word.toNat ++ "  " ++ i.mnemonic) ∧
      (∀ addr word, Listing.Line.text ⟨addr, word, none⟩ =
        hex 3 addr.toNat ++ ": " ++ hex 2 word.toNat ++ "    DB " ++ ("0x" ++ hex 2 word.toNat)) ∧
      (∀ addr, listing addr [] = []) ∧ (∀ addr b, listing addr [b] = [⟨addr, b.toUInt16, none⟩]) ∧
      ∀ addr hi lo rest, listing addr (hi :: lo :: rest) =
        ⟨addr, Word.ofBytes hi lo, some (.decode (Word.ofBytes hi lo))⟩ :: listing (addr + 2) rest) ∧
    (o.disassemble = true →
      (out.exit = 0 ↔ ∃ bytes, host.read o.rom = .ok bytes) ∧
      ∀ bytes, host.read o.rom = .ok bytes →
        out.stdout = String.join ((listing 0x200 bytes.toList).map fun line => line.text ++ "\n") ∧
          out.saves = []) ∧
    (o.disassemble = false →
      (out.exit = 0 ↔ ∃ c d, Ready host o c ∧ c.Completes (Console.watching o.render o.frames) d ∧
        (∀ path, o.save = some path → host.writable path = .ok ()) ∧
        out.saves = (o.save.toList.map fun path => (path, d.save.laidOut)) ∧
        (o.render = false → out.stdout = d.machine.display.text)) ∧
      ∀ number cause, out.FailsWith ⟨some ("frame " ++ Nat.repr number), cause⟩ ↔
        ∃ c n d e, Ready host o c ∧ number = n + 1 ∧ n < o.frames ∧
          c.Completes (Console.watching o.render n) d ∧ d.stepFrame.2 = .error e ∧ cause = e.message) := by
  have hout : Outcome.ofArguments host args = outcome host o := by rw [Outcome.ofArguments, hargs]
  rw [hout]
  exact ⟨nothing_left_of_exit hlog,
    ⟨fun _ _ _ => rfl, fun _ _ => rfl, fun _ => rfl, fun _ _ => rfl, fun _ _ _ _ => rfl⟩,
    outcome_of_listing hlog, fun hd => ⟨exit_eq_zero_iff_completes hlog hd, fun _ _ => failsWith_frame_iff hlog hd⟩⟩

/-- A program that does not fit into memory. -/
def overlong : List UInt8 := List.replicate 4000 0xFF

def brief : List UInt8 := [0x00, 0xE0, 0x12, 0x00, 0x0B]

/-- The options of a run that lists its program. -/
def shortListing : Options := { short 60 none "c" with ipf := none, seed := none, disassemble := true }

theorem short_runs_leave_all_or_nothing :
    let failed := Outcome.ofArguments (holding lost) (shortLine "2" ["--save", "c"])
    let ended := Outcome.ofArguments (holding dice) (shortLine "2" ["--save", "c"])
    let listed (program : List UInt8) :=
      Outcome.ofArguments (holding program) ["game", "--disassemble", "--save", "c"]
    (failed.saves = [] ∧ failed.stdout = "") ∧
      (∃ d : Console, ended.saves = [("c", d.save.laidOut)] ∧ ended.stdout = d.machine.display.text) ∧
      (∃ bytes, (holding overlong).read "game" = .ok bytes ∧ (listed overlong).exit = 0 ∧
        (listed overlong).stdout =
          String.join ((listing 0x200 bytes.toList).map fun line => line.text ++ "\n") ∧
        (listed overlong).saves = []) ∧
      (listed brief).exit = 0 ∧
        (listed brief).stdout = "200: 00E0  CLS\n202: 1200  JP 0x200\n204: 0B    DB 0x0B\n" ∧
        (listed brief).saves = [] := by
  have hframes : Options.ofArguments (shortLine "2" ["--save", "c"]) = .ok (short 2 none "c") := rfl
  have hlisting : Options.ofArguments ["game", "--disassemble", "--save", "c"] = .ok shortListing := rfl
  have hfails : (Outcome.ofArguments (holding lost) (shortLine "2" ["--save", "c"])).exit ≠ 0 := by
    decide +kernel
  have hends : (Outcome.ofArguments (holding dice) (shortLine "2" ["--save", "c"])).exit = 0 := by
    decide +kernel
  have hread (program : List UInt8) : (holding program).read "game" = .ok ⟨program.toArray⟩ := rfl
  intro failed ended listed
  obtain ⟨hnothing, -⟩ := runs_leave_all_or_nothing (holding lost) hframes rfl
  obtain ⟨-, -, -, hall⟩ := runs_leave_all_or_nothing (holding dice) hframes rfl
  obtain ⟨-, -, hoverlong, -⟩ := runs_leave_all_or_nothing (holding overlong) hlisting rfl
  obtain ⟨-, -, hbrief, -⟩ := runs_leave_all_or_nothing (holding brief) hlisting rfl
  refine ⟨?_, ?_, ?_, ?_⟩
  · rcases hnothing hfails with ⟨path, e, -, hw, -⟩ | ⟨hsaves, hstdout⟩
    · cases hw
    · exact ⟨hsaves, hstdout rfl⟩
  · obtain ⟨c, d, -, -, -, hsaves, hstdout⟩ := (hall rfl).1.mp hends
    exact ⟨d, hsaves, hstdout rfl⟩
  · obtain ⟨hexit, hshown⟩ := hoverlong rfl
    exact ⟨_, hread overlong, hexit.mpr ⟨_, hread overlong⟩, hshown _ (hread overlong)⟩
  · obtain ⟨hexit, hshown⟩ := hbrief rfl
    obtain ⟨hstdout, hsaves⟩ := hshown _ (hread brief)
    have hbytes : (⟨brief.toArray⟩ : ByteArray).toList = brief := by decide +kernel
    rw [hbytes] at hstdout
    exact ⟨hexit.mpr ⟨_, hread brief⟩, hstdout, hsaves⟩

end Session

end Chip8
