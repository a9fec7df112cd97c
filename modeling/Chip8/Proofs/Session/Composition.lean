import Chip8.Proofs.Saves.RoundTrip
import Chip8.Proofs.Session.Account

namespace Chip8

namespace Console

/-- What restores a save and then holds the keys that were held is a twin. -/
theorem twin_setKeys {c d : Console} {mask : UInt16} (hc : c.program.isSome) (hd : d.program.isSome)
    (hf : d.settings.instructionsPerFrame = c.settings.instructionsPerFrame)
    (hk : c.machine.keypad = ⟨mask⟩) : Twin False c ((d.takingOver c).setKeys mask) := by
  refine ⟨⟨?_, rfl, False.elim⟩, hf, hc, hd⟩
  change { c.machine with keypad := ⟨mask⟩ } = c.machine
  rw [← hk]

end Console

/-- The outside that a run with its own chance and its own wish for notices finds after another one without a
log file: what that one saved is in its files. -/
def Host.next (h : Host) (out : Outcome) (chance : Random) (verbosity : Verbosity) : Host where
  read := fun p =>
    match out.saves.reverse.find? fun s => h.same s.1 p with
    | some s => .ok s.2.toUTF8
    | none => h.read p
  writable := h.writable
  same := h.same
  chance := chance
  verbosity := verbosity

/-- The files, other than saves to restore, that runs with given options read. -/
def Options.inputs (runs : List Options) : List String := runs.flatMap fun o => o.rom :: o.config.toList

theorem Options.rom_mem_inputs {o : Options} {runs : List Options} (ho : o ∈ runs) :
    o.rom ∈ inputs runs :=
  List.mem_flatMap.mpr ⟨o, ho, List.mem_cons_self⟩

theorem Options.config_mem_inputs {o : Options} {runs : List Options} (ho : o ∈ runs) {path : String}
    (hp : o.config = some path) : path ∈ inputs runs :=
  List.mem_flatMap.mpr ⟨o, ho, List.mem_cons_of_mem _ (by simp [hp])⟩

namespace Host

/-- Files that can be written and are neither each other nor files that runs read. -/
structure Apart (h : Host) (outputs : List String) (runs : List Options) : Prop where
  writable : ∀ p ∈ outputs, h.writable p = .ok ()
  same : ∀ p ∈ outputs, h.same p p
  distinct : outputs.Pairwise fun p q => h.same p q = false
  inputs : ∀ p ∈ outputs, ∀ q ∈ Options.inputs runs, h.same p q = false

/-- The same in the files that runs read, and all files where they were. -/
structure Agrees (runs : List Options) (h h' : Host) : Prop where
  read : ∀ p ∈ Options.inputs runs, h'.read p = h.read p
  writable : h'.writable = h.writable
  same : h'.same = h.same

variable {h h' h'' : Host} {out : Outcome} {chance : Random} {verbosity : Verbosity} {p path text : String}
  {runs : List Options}

theorem Agrees.trans (hh : Agrees runs h h') (hh' : Agrees runs h' h'') : Agrees runs h h'' where
  read p hp := (hh'.read p hp).trans (hh.read p hp)
  writable := hh'.writable.trans hh.writable
  same := hh'.same.trans hh.same

/-- Files that are not saved to stay as they are. -/
theorem read_next_of_apart (hs : ∀ s ∈ out.saves, h.same s.1 p = false) :
    (h.next out chance verbosity).read p = h.read p := by
  have hnone : (out.saves.reverse.find? fun s => h.same s.1 p) = none := by
    rw [List.find?_eq_none]
    intro s hmem
    rw [hs s (List.mem_reverse.mp hmem)]
    exact Bool.false_ne_true
  simp only [next, hnone]

theorem read_next_of_saved (hs : out.saves = [(path, text)]) (hp : h.same path p) :
    (h.next out chance verbosity).read p = .ok text.toUTF8 := by
  simp only [next, hs, List.reverse_cons, List.reverse_nil, List.nil_append, List.find?_cons, hp]

theorem read_next_of_other (hs : out.saves = [(path, text)]) (hp : h.same path p = false) :
    (h.next out chance verbosity).read p = h.read p := by
  refine read_next_of_apart fun s hmem => ?_
  rw [hs, List.mem_singleton] at hmem
  rw [hmem]
  exact hp

theorem agrees_next (hread : ∀ p ∈ Options.inputs runs, (h.next out chance verbosity).read p = h.read p) :
    Agrees runs h (h.next out chance verbosity) := ⟨hread, rfl, rfl⟩

theorem readText_of_read (hr : h.read p = .ok text.toUTF8) : h.readText p = .ok text := by
  have htext : String.fromUTF8? text.toUTF8 = some text := dif_pos text.isValidUTF8
  rw [readText, hr, Outcome.ok_bind, htext]
  rfl

end Host

namespace Session

variable {host : Host} {o : Options} {bytes : ByteArray} {m : Machine}

theorem loaded_eq (host : Host) (o : Options) (program : List UInt8) :
    loaded host o program = inContext ("loading " ++ o.rom) Failure.message
      ((Machine.powerOn.load program).map
        (Console.started (settings host o).machine host.chance program)) := by
  unfold loaded
  rw [Console.mount_powerOn]
  cases Machine.powerOn.load program <;> rfl

theorem opening_of_load_none (hload : o.load = none) {c : Console} (h : opening host o = .ok c) :
    ∃ bytes m, host.read o.rom = .ok bytes ∧ Machine.powerOn.load bytes.toList = .ok m ∧
      c = (Console.started (settings host o).machine host.chance bytes.toList m).setKeys
        (settings host o).keys := by
  obtain ⟨bytes, hbytes, h⟩ := Outcome.bind_eq_ok_iff.mp h
  obtain ⟨c', hc', h⟩ := Outcome.bind_eq_ok_iff.mp h
  rw [loaded_eq, inContext, Outcome.mapError_eq_ok_iff] at hc'
  rw [hload] at h
  cases h
  cases hm : Machine.powerOn.load bytes.toList with
  | error e =>
    rw [hm] at hc'
    cases hc'
  | ok m =>
    rw [hm] at hc'
    cases hc'
    exact ⟨bytes, m, Outcome.mapError_eq_ok_iff.mp hbytes, hm, rfl⟩

theorem opening_of_read (hload : o.load = none) (hread : host.read o.rom = .ok bytes)
    (hm : Machine.powerOn.load bytes.toList = .ok m) :
    opening host o =
      .ok ((Console.started (settings host o).machine host.chance bytes.toList m).setKeys
        (settings host o).keys) := by
  rw [opening, hread, inContext, Outcome.mapError_ok, Outcome.ok_bind, loaded_eq, hm, hload]
  rfl

/-- The text of a save in a file makes a console take over from the one that was saved. -/
theorem opening_of_save {path : String} {d : Console} (hload : o.load = some path)
    (hread : host.read o.rom = .ok bytes) (hm : Machine.powerOn.load bytes.toList = .ok m)
    (hfile : host.read path = .ok d.save.laidOut.toUTF8) (hd : d.machine.Valid) :
    opening host o =
      .ok (((Console.started (settings host o).machine host.chance bytes.toList m).takingOver d).setKeys
        (settings host o).keys) := by
  have hkept : Json.Kept Json.Document.maxDepth d.save :=
    Save.kept_ofMachine hd d.processor.executed (Json.Document.maxDepth - 4)
  have hreopened (c : Console) : reopened host path c = .ok (c.takingOver d) := by
    rw [reopened, Host.readText_of_read hfile, inContext, Outcome.mapError_ok, Outcome.ok_bind,
      Json.ofText_laidOut hkept, Outcome.mapError_ok, Outcome.ok_bind, Console.restore_save hd]
    rfl
  rw [opening, hread, inContext, Outcome.mapError_ok, Outcome.ok_bind, loaded_eq, hm, hload]
  simp only [inContext, Outcome.map_ok, Outcome.mapError_ok, Outcome.ok_bind, hreopened, Outcome.pure_eq_ok]

theorem settings_of_agrees {host' : Host} {runs : List Options}
    (h : Host.Agrees runs host host') (ho : o ∈ runs) : settings host' o = settings host o := by
  unfold settings
  cases hconfig : o.config with
  | none => rfl
  | some path =>
    have htext : host'.readText path = host.readText path := by
      rw [Host.readText, Host.readText, h.read path (Options.config_mem_inputs ho hconfig)]
    simp only [htext]

/-- The instructions that each frame of a run executes. -/
def executed (host : Host) (o : Options) : List (List Instruction) :=
  match opening host o with
  | .error _ => []
  | .ok c => (c.film o.render o.frames).executed

end Session

/-- Options for three runs of one program with the same settings: `whole` runs `m + n` frames and saves to
`c`, `first` runs `m` frames and saves to `a`, and `second` goes on from that save, runs `n` frames and
saves to `b`. -/
structure Options.Split (host : Host) (whole first second : Options) (m n : Nat) (a b c : String) : Prop where
  frames : whole.frames = m + n ∧ first.frames = m ∧ second.frames = n
  saves : whole.save = some c ∧ first.save = some a ∧ second.save = some b
  loads : whole.load = none ∧ first.load = none ∧ second.load = some a
  plain : ∀ o ∈ [whole, first, second], o.disassemble = false ∧ o.logFile = none
  alike : ∀ o ∈ [first, second], o.rom = whole.rom ∧ o.render = whole.render ∧
    (Session.settings host o).machine = (Session.settings host whole).machine ∧
    (Session.settings host o).keys = (Session.settings host whole).keys
  files : host.Apart [a, b, c] [whole, first, second]

namespace Session

section Composition

variable {host host' : Host} {whole first second : Options} {m n : Nat} {a b c : String} {c₀ d₀ : Console}

/-- Where the first frames of the whole run end well, so does the first run, with their save and what they
show. -/
theorem first_run (hs : Options.Split host whole first second m n a b c)
    (hopen : opening host whole = .ok c₀) (hend : (c₀.film whole.render m).ending = .ok d₀)
    (hseed : (settings host whole).machine.seed.isSome ∨ Quiet (c₀.film whole.render m).executed.flatten)
    (h' : Host.Agrees [whole, first, second] host host') :
    (outcome host' first).exit = 0 ∧ (outcome host' first).saves = [(a, d₀.save.laidOut)] ∧
      (outcome host' first).stdout = String.join ((c₀.film whole.render m).texts.map ("\x1b[H" ++ ·)) ++
        if whole.render then "" else d₀.machine.display.text := by
  obtain ⟨bytes, loaded, hread, hm, hc₀⟩ := opening_of_load_none hs.loads.1 hopen
  obtain ⟨hrom, hrender, hmachine, hkeys⟩ := hs.alike first (by simp)
  have hmem : first ∈ [whole, first, second] := by simp
  have hread' : host'.read first.rom = .ok bytes := by
    rw [h'.read _ (Options.rom_mem_inputs hmem), hrom, hread]
  have hopen' := opening_of_read hs.loads.2.1 hread' hm
  rw [settings_of_agrees h' hmem, hmachine, hkeys] at hopen'
  have htwin := (Console.twin_started (settings host whole).machine host.chance host'.chance bytes.toList
    loaded).setKeys (settings host whole).keys
  rw [← hc₀] at htwin
  have hvalid : c₀.machine.Valid := by
    rw [hc₀]
    exact Console.started_valid _ _ hm _
  have hfilm := htwin.film whole.render m hvalid hseed
  obtain ⟨d₁, hend', hd₁⟩ := hfilm.ending_ok hend
  have hw : host'.writable a = .ok () := by
    rw [h'.writable]
    exact hs.files.writable a (by simp)
  rw [← hrender, ← hs.frames.2.1] at hend'
  obtain ⟨hdisassemble, hlog⟩ := hs.plain first hmem
  obtain ⟨hexit, hsaves, hstdout⟩ := outcome_of_ok hlog hdisassemble hopen' hend' hs.saves.2.1 hw
  rw [hd₁.save] at hsaves
  rw [hrender, hs.frames.2.1, hfilm.texts, hd₁.machine] at hstdout
  exact ⟨hexit, hsaves, hstdout⟩

theorem second_opening (hs : Options.Split host whole first second m n a b c)
    (hopen : opening host whole = .ok c₀) (hend : (c₀.film whole.render m).ending = .ok d₀)
    (h' : Host.Agrees [whole, first, second] host host')
    (hfile : host'.read a = .ok d₀.save.laidOut.toUTF8) :
    d₀.machine.Valid ∧ ∃ c₂, opening host' second = .ok c₂ ∧ Console.Twin False d₀ c₂ := by
  obtain ⟨bytes, loaded, hread, hm, hc₀⟩ := opening_of_load_none hs.loads.1 hopen
  obtain ⟨hrom, -, hmachine, hkeys⟩ := hs.alike second (by simp)
  have hmem : second ∈ [whole, first, second] := by simp
  have hvalid : c₀.machine.Valid := by
    rw [hc₀]
    exact Console.started_valid _ _ hm _
  obtain ⟨hvalid₀, hsettings, hprogram, hkeypad⟩ := Console.film_ok hvalid hend
  rw [hc₀] at hsettings hprogram hkeypad
  have hread' : host'.read second.rom = .ok bytes := by
    rw [h'.read _ (Options.rom_mem_inputs hmem), hrom, hread]
  have hopen' := opening_of_save hs.loads.2.2 hread' hm hfile hvalid₀
  rw [settings_of_agrees h' hmem, hmachine, hkeys] at hopen'
  refine ⟨hvalid₀, _, hopen', Console.twin_setKeys ?_ rfl ?_ hkeypad⟩
  · rw [hprogram]
    rfl
  · rw [hsettings]
    rfl

/-- The first run and what the second one finds: the film that it makes is the rest of the whole run's. -/
theorem film_second_run (hs : Options.Split host whole first second m n a b c)
    (hopen : opening host whole = .ok c₀) (hend : (c₀.film whole.render m).ending = .ok d₀)
    (hseed : (settings host whole).machine.seed.isSome ∨ Quiet (c₀.film whole.render m).executed.flatten)
    (hquiet : Quiet (d₀.film whole.render n).executed.flatten)
    (h' : Host.Agrees [whole, first, second] host host') (chance : Random) (verbosity : Verbosity) :
    let out := outcome host' first
    let host'' := host'.next out chance verbosity
    out.exit = 0 ∧
      out.stdout = (String.join ((c₀.film whole.render m).texts.map ("\x1b[H" ++ ·)) ++
        if whole.render then "" else d₀.machine.display.text) ∧
      Host.Agrees [whole, first, second] host host'' ∧
      (∀ p, host.same a p = false → host''.read p = host'.read p) ∧
      ∃ c₂, opening host'' second = .ok c₂ ∧
        Film.Twin False (d₀.film whole.render n) (c₂.film whole.render n) := by
  intro out host''
  obtain ⟨hexit, hsaves, hstdout⟩ := first_run hs hopen hend hseed h'
  have hother (p : String) (hp : host.same a p = false) : host''.read p = host'.read p := by
    rw [← h'.same] at hp
    exact Host.read_next_of_other hsaves hp
  have hagrees : Host.Agrees [whole, first, second] host' host'' :=
    Host.agrees_next fun p hp => hother p (hs.files.inputs a (by simp) p hp)
  have hfile : host''.read a = .ok d₀.save.laidOut.toUTF8 := by
    refine Host.read_next_of_saved hsaves ?_
    rw [h'.same]
    exact hs.files.same a (by simp)
  obtain ⟨hvalid, c₂, hopen₂, htwin⟩ := second_opening hs hopen hend (h'.trans hagrees) hfile
  exact ⟨hexit, hstdout, h'.trans hagrees, hother, c₂, hopen₂, htwin.film _ n hvalid (.inr hquiet)⟩

/-- What the frames of the whole run draw, told apart where its first frames end well. -/
theorem quiet_of_executed (hs : Options.Split host whole first second m n a b c)
    (hquiet : Quiet ((executed host whole).drop m).flatten)
    (hseed : (settings host whole).machine.seed = none → Quiet (executed host whole).flatten)
    (hopen : opening host whole = .ok c₀) (hm : (c₀.film whole.render m).ending = .ok d₀) :
    ((settings host whole).machine.seed.isSome ∨ Quiet (c₀.film whole.render m).executed.flatten) ∧
      Quiet (d₀.film whole.render n).executed.flatten := by
  have hexecuted : executed host whole =
      (c₀.film whole.render m).executed ++ (d₀.film whole.render n).executed := by
    rw [executed, hopen, hs.frames.1]
    dsimp only
    rw [Console.film_add_of_ok hm]
  rw [hexecuted, List.drop_left' (Console.film_length_of_ok hm)] at hquiet
  refine ⟨?_, hquiet⟩
  cases hnone : (settings host whole).machine.seed with
  | some seed => exact .inl rfl
  | none =>
    have hall := hseed hnone
    rw [hexecuted, List.flatten_append, Quiet.append_iff] at hall
    exact .inr hall.1

section Runs

variable (hs : Options.Split host whole first second m n a b c)
  (hquiet : Quiet ((executed host whole).drop m).flatten)
  (hseed : (settings host whole).machine.seed = none → Quiet (executed host whole).flatten)
  (chance₁ chance₂ chance₃ : Random) (verbosity₁ verbosity₂ verbosity₃ : Verbosity)

include hs hquiet hseed

theorem compose_of_ok (hexit : (outcome host whole).exit = 0) :
    let host₁ := host.next (outcome host whole) chance₁ verbosity₁
    let out₁ := outcome host₁ first
    let host₂ := host₁.next out₁ chance₂ verbosity₂
    let out₂ := outcome host₂ second
    let host₃ := host₂.next out₂ chance₃ verbosity₃
    out₁.exit = 0 ∧ out₂.exit = 0 ∧
      (∃ bytes, host₃.read b = .ok bytes ∧ host₃.read c = .ok bytes) ∧
      (whole.render = false → out₂.stdout = (outcome host whole).stdout) ∧
      (whole.render = true → out₁.stdout ++ out₂.stdout = (outcome host whole).stdout) := by
  intro host₁ out₁ host₂ out₂ host₃
  obtain ⟨hdisassemble, hlog⟩ := hs.plain whole (by simp)
  obtain ⟨hdisassemble₂, hlog₂⟩ := hs.plain second (by simp)
  obtain ⟨-, hrender, -⟩ := hs.alike second (by simp)
  obtain ⟨c₀, e₀, hopen, hend⟩ := exists_film_of_exit hlog hdisassemble hexit
  have hfilm := hend
  rw [hs.frames.1] at hfilm
  cases hm : (c₀.film whole.render m).ending with
  | error x =>
    -- then the whole film would end there too
    rw [Console.film_add_of_error hm, hm] at hfilm
    cases hfilm
  | ok d₀ =>
    rw [Console.film_add_of_ok hm, Outcome.mapError_eq_ok_iff] at hfilm
    obtain ⟨hfirst, hrest⟩ := quiet_of_executed hs hquiet hseed hopen hm
    have hw : host.writable c = .ok () := hs.files.writable c (by simp)
    obtain ⟨-, hsaves, hstdout⟩ := outcome_of_ok hlog hdisassemble hopen hend hs.saves.1 hw
    have hagrees₁ : Host.Agrees [whole, first, second] host host₁ :=
      Host.agrees_next fun p hp => Host.read_next_of_other hsaves (hs.files.inputs c (by simp) p hp)
    obtain ⟨hexit₁, hstdout₁, hagrees₂, hother, c₂, hopen₂, htwin⟩ :=
      film_second_run hs hopen hm hfirst hrest hagrees₁ chance₂ verbosity₂
    obtain ⟨e₂, hend₂, he₂⟩ := htwin.ending_ok hfilm
    rw [← hrender, ← hs.frames.2.2] at hend₂
    have hw₂ : host₂.writable b = .ok () := by
      rw [hagrees₂.writable]
      exact hs.files.writable b (by simp)
    obtain ⟨hexit₂, hsaves₂, hstdout₂⟩ :=
      outcome_of_ok hlog₂ hdisassemble₂ hopen₂ hend₂ hs.saves.2.2 hw₂
    rw [he₂.save] at hsaves₂
    obtain ⟨⟨-, hac⟩, hbc⟩ :
        (host.same a b = false ∧ host.same a c = false) ∧ host.same b c = false := by
      simpa using hs.files.distinct
    refine ⟨hexit₁, hexit₂, ⟨e₀.save.laidOut.toUTF8, ?_, ?_⟩, fun hr => ?_, fun hr => ?_⟩
    · refine Host.read_next_of_saved hsaves₂ ?_
      rw [hagrees₂.same]
      exact hs.files.same b (by simp)
    · -- the file of the whole run is not written again
      have hkept : host₃.read c = host₂.read c := by
        rw [← hagrees₂.same] at hbc
        exact Host.read_next_of_other hsaves₂ hbc
      rw [hkept, hother c hac]
      exact Host.read_next_of_saved hsaves (hs.files.same c (by simp))
    · rw [hstdout₂, hstdout, hrender, hr, Console.texts_film_false, Console.texts_film_false,
        he₂.machine]
    · rw [hrender, hs.frames.2.2, htwin.texts, hr] at hstdout₂
      rw [hs.frames.1, Console.film_add_of_ok hm, List.map_append, String.join_append, hr] at hstdout
      rw [hr] at hstdout₁
      rw [hstdout₂, hstdout₁, hstdout]
      simp

theorem compose_of_error {frame : Nat} {cause : String} (hframe : m < frame)
    (hfails : (outcome host whole).FailsWith ⟨some ("frame " ++ Nat.repr frame), cause⟩) :
    let host₁ := host.next (outcome host whole) chance₁ verbosity₁
    let out₁ := outcome host₁ first
    let host₂ := host₁.next out₁ chance₂ verbosity₂
    let out₂ := outcome host₂ second
    out₁.exit = 0 ∧ out₂.FailsWith ⟨some ("frame " ++ Nat.repr (frame - m)), cause⟩ ∧
      out₂.saves = [] := by
  intro host₁ out₁ host₂ out₂
  obtain ⟨hdisassemble, hlog⟩ := hs.plain whole (by simp)
  obtain ⟨hdisassemble₂, hlog₂⟩ := hs.plain second (by simp)
  obtain ⟨-, hrender, -⟩ := hs.alike second (by simp)
  obtain ⟨c₀, x, hopen, hend, hnumber, hcause⟩ := exists_film_of_failsWith hlog hdisassemble hfails
  have hfilm := hend
  rw [hs.frames.1] at hfilm
  cases hm : (c₀.film whole.render m).ending with
  | error y =>
    -- then the frame that fails would be one of the first
    rw [Console.film_add_of_error hm, hm] at hfilm
    cases hfilm
    have hlt := Console.film_lt_of_error hm
    omega
  | ok d₀ =>
    obtain ⟨hfirst, hrest⟩ := quiet_of_executed hs hquiet hseed hopen hm
    obtain ⟨-, hsaves⟩ := outcome_of_error hlog hdisassemble hopen hend
    have hagrees₁ : Host.Agrees [whole, first, second] host host₁ :=
      Host.agrees_next fun p _ => Host.read_next_of_apart (by simp [hsaves])
    obtain ⟨hexit₁, -, -, -, c₂, hopen₂, htwin⟩ :=
      film_second_run hs hopen hm hfirst hrest hagrees₁ chance₂ verbosity₂
    rw [Console.film_add_of_ok hm] at hfilm
    cases hy : (d₀.film whole.render n).ending with
    | ok e₀ =>
      rw [hy] at hfilm
      cases hfilm
    | error y =>
      rw [hy] at hfilm
      cases hfilm
      have hend₂ := htwin.ending_error hy
      rw [← hrender, ← hs.frames.2.2] at hend₂
      obtain ⟨hfails₂, hsaves₂⟩ := outcome_of_error hlog₂ hdisassemble₂ hopen₂ hend₂
      have hshift : frame - m = 1 + y.1 := by
        rw [hnumber, Film.later]
        omega
      rw [hshift, hcause]
      exact ⟨hexit₁, hfails₂, hsaves₂⟩

end Runs

end Composition

/-- Three runs one after the other with the same program and the same settings: all of `m + n` frames,
saving to `c`; `m` frames, saving to `a`; and, from that save, `n` frames, saving to `b`. Suppose that the
first one executes no instruction that draws a random byte after its first `m` frames, and none at all
without a seed. If it exits with zero, so do the others, `b` and `c` hold the same bytes in the end, and the
same is shown: by the last run if only the end is shown, and by the last two together if frames are. If it
fails in a frame after the first `m`, the last one fails in the corresponding frame for the same cause and
saves nothing. -/
theorem runs_compose {host : Host} {whole first second : Options} {m n : Nat} {a b c : String}
    (hs : Options.Split host whole first second m n a b c) {args args₁ args₂ : List String}
    (hargs : Options.ofArguments args = .ok whole) (hargs₁ : Options.ofArguments args₁ = .ok first)
    (hargs₂ : Options.ofArguments args₂ = .ok second)
    (hquiet : Quiet ((executed host whole).drop m).flatten)
    (hseed : (settings host whole).machine.seed = none → Quiet (executed host whole).flatten)
    (chance₁ chance₂ chance₃ : Random) (verbosity₁ verbosity₂ verbosity₃ : Verbosity) :
    let out := Outcome.ofArguments host args
    let host₁ := host.next out chance₁ verbosity₁
    let out₁ := Outcome.ofArguments host₁ args₁
    let host₂ := host₁.next out₁ chance₂ verbosity₂
    let out₂ := Outcome.ofArguments host₂ args₂
    let host₃ := host₂.next out₂ chance₃ verbosity₃
    (out.exit = 0 →
      out₁.exit = 0 ∧ out₂.exit = 0 ∧
      (∃ bytes, host₃.read b = .ok bytes ∧ host₃.read c = .ok bytes) ∧
      (whole.render = false → out₂.stdout = out.stdout) ∧
      (whole.render = true → out₁.stdout ++ out₂.stdout = out.stdout)) ∧
    ∀ frame cause, m < frame → out.FailsWith ⟨some ("frame " ++ Nat.repr frame), cause⟩ →
      out₁.exit = 0 ∧ out₂.FailsWith ⟨some ("frame " ++ Nat.repr (frame - m)), cause⟩ ∧
        out₂.saves = [] := by
  have hout {args : List String} {o : Options} (hargs : Options.ofArguments args = .ok o) (h : Host) :
      Outcome.ofArguments h args = outcome h o := by rw [Outcome.ofArguments, hargs]
  simp only [hout hargs, hout hargs₁, hout hargs₂]
  exact ⟨compose_of_ok hs hquiet hseed chance₁ chance₂ chance₃ verbosity₁ verbosity₂ verbosity₃,
    fun _ _ => compose_of_error hs hquiet hseed chance₁ chance₂ verbosity₁ verbosity₂⟩

def holding (program : List UInt8) : Host where
  read := fun p => if p = "game" then .ok ⟨program.toArray⟩ else .error .missing
  writable := fun _ => .ok ()
  same := fun p q => p == q
  chance := .ofSeed 0
  verbosity := .silent

/-- Frames of one instruction each, with a seed. -/
def short (frames : Nat) (load : Option String) (save : String) : Options where
  rom := "game"
  config := none
  frames := frames
  ipf := some 1
  seed := some 7
  keys := none
  realtime := false
  render := false
  disassemble := false
  load := load
  save := some save
  logLevel := none
  logLevels := []
  logFile := none
  logRateLimit := none

theorem split_short (program : List UInt8) :
    Options.Split (holding program) (short 2 none "c") (short 1 none "a") (short 1 (some "a") "b") 1 1
      "a" "b" "c" where
  frames := ⟨rfl, rfl, rfl⟩
  saves := ⟨rfl, rfl, rfl⟩
  loads := ⟨rfl, rfl, rfl⟩
  plain := by simp [short]
  alike := by simp [short, settings, Settings.override]
  files := {
    writable := fun _ _ => rfl
    same := by simp [holding]
    distinct := by simp [holding]
    inputs := by simp [holding, Options.inputs, short] }

/-- A program that rolls a die in its first frame. -/
def dice : List UInt8 := [0xC0, 0xFF, 0xF0, 0x18]

/-- A program that jumps to the end of memory. -/
def lost : List UInt8 := [0x1F, 0xFF]

def shortLine (frames : String) (files : List String) : List String :=
  ["game", "--ipf", "1", "--seed", "7", "--frames", frames] ++ files

def afterWhole (program : List UInt8) : Host :=
  (holding program).next (Outcome.ofArguments (holding program) (shortLine "2" ["--save", "c"])) (.ofSeed 1)
    .silent

def afterFirst (program : List UInt8) : Host :=
  (afterWhole program).next (Outcome.ofArguments (afterWhole program) (shortLine "1" ["--save", "a"]))
    (.ofSeed 2) .silent

def secondFrame (program : List UInt8) : Outcome :=
  Outcome.ofArguments (afterFirst program) (shortLine "1" ["--load", "a", "--save", "b"])

theorem short_runs_compose :
    let last := (afterFirst dice).next (secondFrame dice) (.ofSeed 3) .silent
    ((secondFrame dice).exit = 0 ∧ ∃ bytes, last.read "b" = .ok bytes ∧ last.read "c" = .ok bytes) ∧
      (secondFrame lost).FailsWith (frameTrouble 1 (.fetchOutOfBounds 0xFFF)) := by
  have hwhole : Options.ofArguments (shortLine "2" ["--save", "c"]) = .ok (short 2 none "c") := rfl
  have hfirst : Options.ofArguments (shortLine "1" ["--save", "a"]) = .ok (short 1 none "a") := rfl
  have hsecond : Options.ofArguments (shortLine "1" ["--load", "a", "--save", "b"]) =
      .ok (short 1 (some "a") "b") := rfl
  -- for any program, so that nothing is evaluated where the theorem is applied
  have hruns (program : List UInt8)
      (hquiet : Quiet ((executed (holding program) (short 2 none "c")).drop 1).flatten) (e : Failure) :
      let out := Outcome.ofArguments (holding program) (shortLine "2" ["--save", "c"])
      let last := (afterFirst program).next (secondFrame program) (.ofSeed 3) .silent
      (out.exit = 0 →
        (secondFrame program).exit = 0 ∧
          ∃ bytes, last.read "b" = .ok bytes ∧ last.read "c" = .ok bytes) ∧
      (out.FailsWith (frameTrouble 2 e) → (secondFrame program).FailsWith (frameTrouble 1 e)) := by
    obtain ⟨hends, hfails⟩ := runs_compose (split_short program) hwhole hfirst hsecond hquiet nofun
      (.ofSeed 1) (.ofSeed 2) (.ofSeed 3) .silent .silent .silent
    simp only [secondFrame, afterFirst, afterWhole]
    exact ⟨fun h => ⟨(hends h).2.1, (hends h).2.2.1⟩, fun h => (hfails 2 e.message (by decide) h).2.1⟩
  have hdice : Quiet ((executed (holding dice) (short 2 none "c")).drop 1).flatten := by decide +kernel
  have hexit : (Outcome.ofArguments (holding dice) (shortLine "2" ["--save", "c"])).exit = 0 := by
    decide +kernel
  have hlost : Quiet ((executed (holding lost) (short 2 none "c")).drop 1).flatten := by decide +kernel
  have hfails : Outcome.ofArguments (holding lost) (shortLine "2" ["--save", "c"]) =
      ⟨(frameTrouble 2 (.fetchOutOfBounds 0xFFF)).lines.map .report, 1⟩ := by decide +kernel
  have hends := (hruns dice hdice .noProgram).1 hexit
  have hloses := (hruns lost hlost (.fetchOutOfBounds 0xFFF)).2
  rw [hfails] at hloses
  exact ⟨hends, hloses ⟨rfl, List.suffix_rfl⟩⟩

end Session

end Chip8
