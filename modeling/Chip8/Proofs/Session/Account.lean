import Chip8.Proofs.Film
import Chip8.Proofs.Session.Effects

namespace Chip8

namespace Session

section Parts

variable {host : Host} {o : Options}

theorem yields_setUpLogging (host : Host) (ho : o.logFile = none) :
    Yields (setUpLogging host o) (.ok host) [] := by
  unfold setUpLogging
  rw [ho]
  refine (yields_modify fun s => ?_).then (yields_pure host)
  rfl

def settings (host : Host) (o : Options) : Settings :=
  match o.config with
  | none => Settings.default.override o
  | some path => (Settings.ofFile path (host.readText path)).1.override o

theorem yields_effectiveSettings (host : Host) (o : Options) :
    Yields (effectiveSettings host o) (.ok (settings host o)) [] := by
  unfold effectiveSettings settings
  cases o.config with
  | none => exact yields_pure _
  | some path => exact (yields_notices _).then (yields_pure _)

/-- A console at power-on with a program in it. -/
def loaded (host : Host) (o : Options) (program : List UInt8) : Except Trouble Console := do
  let r := (Console.powerOn (settings host o).machine host.chance).mount Console.programSlot program
  inContext ("loading " ++ o.rom) Failure.message r.2
  return r.1

theorem yields_mounted (host : Host) (o : Options) (program : List UInt8) :
    Yields (mounted host o (settings host o) program) (loaded host o program) [] := by
  refine (yields_tell _).then ?_
  refine (yields_within _ _ _).silent fun _ => ?_
  exact (yields_notify _).then (yields_pure _)

/-- A console after it restored the save in a file. -/
def reopened (host : Host) (path : String) (c : Console) : Except Trouble Console := do
  let text ← inContext ("reading " ++ path) FileTrouble.message (host.readText path)
  let save ← (Json.ofText text).mapError fun e => ⟨none, e.message⟩
  inContext ("restoring " ++ path) Save.Refusal.message (c.restore save).2
  return (c.restore save).1

theorem yields_restored (host : Host) (path : String) (c : Console) :
    Yields (restored host path c) (reopened host path c) [] := by
  refine (yields_within _ _ _).silent fun text => ?_
  cases Json.ofText text with
  | error e => exact yields_throw _
  | ok save =>
    refine (yields_within _ _ _).silent fun _ => ?_
    exact (yields_notify _).then (yields_pure _)

/-- The console before the first frame. -/
def opening (host : Host) (o : Options) : Except Trouble Console := do
  let bytes ← inContext ("reading " ++ o.rom) FileTrouble.message (host.read o.rom)
  let c ← loaded host o bytes.toList
  let c ← match o.load with
    | some path => reopened host path c
    | none => pure c
  return c.setKeys (settings host o).keys

theorem yields_withKeys (mask : UInt16) (c : Console) : Yields (withKeys mask c) (.ok (c.setKeys mask)) [] :=
  (yields_tell _).then (yields_pure _)

def frameTrouble (number : Nat) (e : Failure) : Trouble := ⟨some ("frame " ++ Nat.repr number), e.message⟩

def redraw (text : String) : Effect := .show ("\x1b[H" ++ text)

theorem yields_showUpdate (c : Console) :
    Yields (showUpdate c) (.ok (c.look true).1) ((c.look true).2.toList.map redraw) := by
  unfold showUpdate Console.look
  cases c.takeUpdate with
  | mk d text =>
    cases text with
    | none => exact yields_pure d
    | some text => exact (yields_emit (redraw text)).bind (yields_pure d)

theorem yields_pause (paced : Bool) (c : Console) :
    Yields (if paced then emit .pause >>= fun _ => pure c else pure c) (.ok c) [] := by
  cases paced with
  | false => exact yields_pure c
  | true => exact (yields_emit .pause).then (yields_pure c)

section Frames

variable (paced : Bool) (number : Nat) {c d : Console}

theorem yields_frame_of_error {e : Failure} (hs : c.stepFrame = (d, .error e)) :
    Yields (frame o paced number c) (.error (frameTrouble number e)) [] := by
  refine (yields_tell _).then ?_
  rw [hs]
  exact (yields_within _ _ (.error e)).bind_error

theorem yields_frame_of_ok {f : Frame} (hs : c.stepFrame = (d, .ok f)) :
    Yields (frame o paced number c) (.ok (d.look o.render).1) ((d.look o.render).2.toList.map redraw) := by
  refine (yields_tell _).then ?_
  rw [hs]
  refine (yields_within _ _ (.ok f)).then ?_
  cases o.render with
  | false => exact (yields_pure d).then (yields_pause paced d)
  | true =>
    refine Yields.finish (yields_showUpdate d) ?_
    exact yields_pause paced _

theorem yields_frames (count first : Nat) (c : Console) :
    Yields (frames o paced count first c)
      ((c.film o.render count).ending.mapError fun x => frameTrouble (first + x.1) x.2)
      ((c.film o.render count).texts.map redraw) := by
  fun_induction Console.film c o.render count generalizing first with
  | case1 c => exact yields_pure c
  | case2 c count d e hs => exact (yields_frame_of_error paced first hs).bind_error
  | case3 c count d f hs ih =>
    have hrest := (yields_frame_of_ok paced first hs).bind (ih (first + 1))
    -- the frames after this one are numbered from the next number on
    have hnumber : (fun x : Nat × Failure => frameTrouble (first + 1 + x.1) x.2) =
        fun x => frameTrouble (first + (Film.later 1 x).1) (Film.later 1 x).2 :=
      funext fun x => by rw [Film.later, Nat.add_assoc]
    rw [← List.map_append, hnumber] at hrest
    rw [Film.cons, Outcome.mapError_mapError]
    exact hrest

end Frames

/-- The save at the end of a run, if one is wanted and its file can be written. -/
def saving (host : Host) (o : Options) (c : Console) : Except Trouble Unit × List Effect :=
  match o.save with
  | none => (.ok (), [])
  | some path =>
    match host.writable path with
    | .error e => (.error ⟨some ("writing " ++ path), e.message⟩, [])
    | .ok () => (.ok (), [.save path c.save.laidOut])

/-- The display at the end of a run whose frames are not shown. -/
def lastShown (o : Options) (c : Console) : List Effect :=
  if o.render then [] else [.show c.machine.display.text]

theorem yields_saving (host : Host) (o : Options) (c : Console) :
    Yields
      (match o.save with
        | none => pure ()
        | some path => do
          within ("writing " ++ path) FileTrouble.message (host.writable path)
          emit (.save path c.save.laidOut))
      (saving host o c).1 (saving host o c).2 := by
  unfold saving
  cases o.save with
  | none => exact yields_pure ()
  | some path =>
    dsimp only
    cases host.writable path with
    | error e => exact (yields_within _ _ (.error e)).bind_error
    | ok _ => exact (yields_within _ _ (.ok ())).then (yields_emit _)

theorem yields_conclude (host : Host) (o : Options) (c : Console) :
    Yields (conclude host o c) (saving host o c).1 (lastShown o c ++ (saving host o c).2) := by
  have hsave := yields_saving host o c
  unfold conclude lastShown
  cases o.render with
  | false => exact (yields_emit _).bind ((yields_notify _).then hsave)
  | true => exact (yields_notify _).then hsave

/-- How a run ends that is ready for its first frame, and its lasting effects from then on. -/
def rolling (host : Host) (o : Options) (c : Console) : Except Trouble Unit × List Effect :=
  let film := c.film o.render o.frames
  let shown := film.texts.map redraw
  match film.ending with
  | .error x => (.error (frameTrouble (1 + x.1) x.2), shown)
  | .ok c => ((saving host o c).1, shown ++ (lastShown o c ++ (saving host o c).2))

theorem yields_rolling (host : Host) (o : Options) (paced : Bool) (c : Console) :
    Yields (frames o paced o.frames 1 c >>= conclude host o) (rolling host o c).1 (rolling host o c).2 := by
  have hframes := yields_frames (o := o) paced o.frames 1 c
  unfold rolling
  dsimp only
  cases hending : (c.film o.render o.frames).ending with
  | error x =>
    rw [hending] at hframes
    exact hframes.bind_error
  | ok d =>
    rw [hending] at hframes
    exact hframes.bind (yields_conclude host o d)

/-- How a run ends, and its lasting effects. -/
def account (host : Host) (o : Options) : Except Trouble Unit × List Effect :=
  match opening host o with
  | .error t => (.error t, [])
  | .ok c => rolling host o c

/-- What a run does after logging is set up, if it is not for a listing. -/
def running (host : Host) (o : Options) : Act Unit := do
  let bytes ← within ("reading " ++ o.rom) FileTrouble.message (host.read o.rom)
  let settings ← effectiveSettings host o
  let c ← mounted host o settings bytes.toList
  let c ← match o.load with
    | some path => restored host path c
    | none => pure c
  let c ← withKeys settings.keys c
  let c ← frames o settings.realtime o.frames 1 c
  conclude host o c

theorem play_eq (hd : o.disassemble = false) : play host o = setUpLogging host o >>= fun host => running host o := by
  unfold play
  simp only [hd, Bool.false_eq_true, if_false]
  rfl

theorem yields_running (host : Host) (o : Options) :
    Yields (running host o) (account host o).1 (account host o).2 := by
  unfold running account opening
  cases host.read o.rom with
  | error e => exact (yields_within _ _ (.error e)).bind_error
  | ok bytes =>
    refine (yields_within _ _ (.ok bytes)).then ?_
    simp only [inContext, Outcome.mapError_ok, Outcome.ok_bind]
    refine (yields_effectiveSettings host o).then ?_
    have hloaded := yields_mounted host o bytes.toList
    cases hc : loaded host o bytes.toList with
    | error t =>
      rw [hc] at hloaded
      exact hloaded.bind_error
    | ok c =>
      rw [hc] at hloaded
      refine hloaded.then ?_
      -- the rest of the run is the same with and without a save to restore
      have hroll (c : Console) : Yields
          (withKeys (settings host o).keys c >>= fun c =>
            frames o (settings host o).realtime o.frames 1 c >>= conclude host o)
          (rolling host o (c.setKeys (settings host o).keys)).1
          (rolling host o (c.setKeys (settings host o).keys)).2 :=
        (yields_withKeys _ c).then (yields_rolling host o _ _)
      cases o.load with
      | none => exact (yields_pure c).then (hroll c)
      | some path =>
        have hreopened := yields_restored host path c
        dsimp only [Outcome.ok_bind]
        cases hr : reopened host path c with
        | error t =>
          rw [hr] at hreopened
          exact hreopened.bind_error
        | ok d =>
          rw [hr] at hreopened
          exact hreopened.then (hroll d)

/-- A run without a log file that is not for a listing ends and leaves what its account says. -/
theorem yields_play (hlog : o.logFile = none) (hd : o.disassemble = false) :
    Yields (play host o) (account host o).1 (account host o).2 := by
  rw [play_eq hd]
  exact (yields_setUpLogging host hlog).then (yields_running host o)

end Parts

section Outcomes

variable {host : Host} {o : Options} {r : Except Trouble Unit} {out : List Effect}

theorem exists_outcome_eq : Yields (play host o) r out → ∃ s : Session, s.lasting = out ∧
    outcome host o = match r with
      | .ok () => ⟨s.effects.reverse, 0⟩
      | .error t => ⟨s.effects.reverse ++ t.lines.map .report, 1⟩ := by
  intro h
  obtain ⟨s, hs, hrun⟩ := h (start host)
  have hstart : (start host).lasting = [] := by
    rw [lasting, List.filter_eq_nil_iff]
    intro e he
    obtain ⟨line, -, rfl⟩ := List.mem_map.mp (List.mem_reverse.mp he)
    exact Bool.false_ne_true
  refine ⟨s, by rw [hs, hstart, List.nil_append], ?_⟩
  rw [outcome, hrun]
  cases r <;> rfl

variable (h : Yields (play host o) r out)

include h

theorem lasting_outcome : (outcome host o).effects.filter Effect.lasting = out := by
  obtain ⟨s, hs, hout⟩ := exists_outcome_eq h
  rw [hout, ← hs]
  cases r with
  | ok _ => rfl
  | error t => exact (List.filter_append ..).trans (by rw [t.lasting_lines, List.append_nil, lasting])

theorem exit_eq_zero_iff : (outcome host o).exit = 0 ↔ r = .ok () := by
  obtain ⟨s, -, hout⟩ := exists_outcome_eq h
  rw [hout]
  cases r <;> simp

theorem failsWith_iff {t : Trouble} : (outcome host o).FailsWith t ↔ r = .error t := by
  obtain ⟨s, -, hout⟩ := exists_outcome_eq h
  rw [hout]
  cases r with
  | ok _ => simp [Outcome.FailsWith]
  | error u =>
    constructor
    · rintro ⟨-, hlines⟩
      rw [Trouble.eq_of_lines hlines (List.suffix_append _ _)]
    · rintro ⟨⟩
      exact ⟨rfl, List.suffix_append _ _⟩

theorem stdout_outcome : (outcome host o).stdout = String.join (out.filterMap Effect.shown?) := by
  have hshown (e : Effect) (he : e.lasting = false) : e.shown? = none := by
    cases e <;> first | rfl | cases he
  rw [Outcome.stdout, ← lasting_outcome h, Effect.filterMap_lasting hshown]

theorem saves_outcome : (outcome host o).saves = out.filterMap Effect.saved? := by
  have hsaved (e : Effect) (he : e.lasting = false) : e.saved? = none := by
    cases e <;> first | rfl | cases he
  rw [Outcome.saves, ← lasting_outcome h, Effect.filterMap_lasting hsaved]

end Outcomes

theorem frameless_reopened (host : Host) (path : String) (c : Console) :
    Frameless (reopened host path c) := by
  refine (frameless_inContext _ _ (append_ne_frame rfl (by decide) path)).bind fun text => ?_
  have hparsed : Frameless ((Json.ofText text).mapError fun e => (⟨none, e.message⟩ : Trouble)) := by
    cases Json.ofText text with
    | ok save => exact frameless_ok save
    | error e =>
      rintro t number ⟨⟩
      exact nofun
  refine hparsed.bind fun save => ?_
  exact (frameless_inContext _ _ (append_ne_frame rfl (by decide) path)).bind fun _ => frameless_ok _

/-- Whatever is in the way of the first frame, it is no trouble with a frame. -/
theorem frameless_opening (host : Host) (o : Options) : Frameless (opening host o) := by
  refine (frameless_inContext _ _ (append_ne_frame rfl (by decide) o.rom)).bind fun bytes => ?_
  have hloaded : Frameless (loaded host o bytes.toList) :=
    (frameless_inContext _ _ (append_ne_frame rfl (by decide) o.rom)).bind fun _ => frameless_ok _
  refine hloaded.bind fun c => ?_
  cases o.load with
  | none => exact frameless_ok _
  | some path => exact (frameless_reopened host path c).bind fun _ => frameless_ok _

theorem frameless_saving (host : Host) (o : Options) (c : Console) : Frameless (saving host o c).1 := by
  unfold saving
  cases o.save with
  | none => exact frameless_ok ()
  | some path =>
    dsimp only
    cases host.writable path with
    | ok _ => exact frameless_ok ()
    | error e => exact frameless_error (append_ne_frame rfl (by decide) path)

section Endings

variable {host : Host} {o : Options} {c d : Console}

theorem account_of_opening (h : opening host o = .ok c) : account host o = rolling host o c := by
  rw [account, h]

theorem shown_redraw (texts : List String) :
    (texts.map redraw).filterMap Effect.shown? = texts.map ("\x1b[H" ++ ·) := by
  rw [List.filterMap_map, ← List.filterMap_eq_map]
  rfl

theorem saved_redraw (texts : List String) : (texts.map redraw).filterMap Effect.saved? = [] := by
  rw [List.filterMap_map, List.filterMap_eq_nil_iff]
  intro text _
  rfl

variable (hlog : o.logFile = none) (hd : o.disassemble = false)

include hlog hd

/-- A run whose frames all go well and whose save, if one is wanted, can be written exits with zero, shows the
film and perhaps the last display, and writes the save of the last console. -/
theorem outcome_of_writable (hopen : opening host o = .ok c)
    (hend : (c.film o.render o.frames).ending = .ok d)
    (hw : ∀ path, o.save = some path → host.writable path = .ok ()) :
    (outcome host o).exit = 0 ∧
      (outcome host o).saves = (o.save.toList.map fun path => (path, d.save.laidOut)) ∧
      (outcome host o).stdout = String.join ((c.film o.render o.frames).texts.map ("\x1b[H" ++ ·)) ++
        if o.render then "" else d.machine.display.text := by
  have hsaving : saving host o d = (.ok (), o.save.toList.map fun path => .save path d.save.laidOut) := by
    unfold saving
    cases hs : o.save with
    | none => rfl
    | some path =>
      dsimp only
      rw [hw path hs]
      rfl
  have haccount : account host o = (.ok (), (c.film o.render o.frames).texts.map redraw ++
      (lastShown o d ++ o.save.toList.map fun path => .save path d.save.laidOut)) := by
    rw [account_of_opening hopen, rolling]
    simp only [hend, hsaving]
  have hy : Yields (play host o) _ _ := yields_play hlog hd
  rw [haccount] at hy
  refine ⟨(exit_eq_zero_iff hy).mpr rfl, ?_, ?_⟩
  · rw [saves_outcome hy, List.filterMap_append, saved_redraw, lastShown]
    cases o.render <;> cases o.save <;> rfl
  · have hlast : (lastShown o d ++ o.save.toList.map fun path => Effect.save path d.save.laidOut).filterMap
        Effect.shown? = if o.render then [] else [d.machine.display.text] := by
      unfold lastShown
      cases o.render <;> cases o.save <;> rfl
    rw [stdout_outcome hy, List.filterMap_append, shown_redraw, hlast, String.join_append]
    cases o.render <;> simp

theorem outcome_of_ok {path : String} (hopen : opening host o = .ok c)
    (hend : (c.film o.render o.frames).ending = .ok d) (hs : o.save = some path)
    (hw : host.writable path = .ok ()) :
    (outcome host o).exit = 0 ∧ (outcome host o).saves = [(path, d.save.laidOut)] ∧
      (outcome host o).stdout = String.join ((c.film o.render o.frames).texts.map ("\x1b[H" ++ ·)) ++
        if o.render then "" else d.machine.display.text := by
  have hwritable (p : String) (hp : o.save = some p) : host.writable p = .ok () := by
    rw [hs] at hp
    cases hp
    exact hw
  have hout := outcome_of_writable hlog hd hopen hend hwritable
  rw [hs] at hout
  exact hout

/-- A run with a frame that fails says which one and why, and saves nothing. -/
theorem outcome_of_error {x : Nat × Failure} (hopen : opening host o = .ok c)
    (hend : (c.film o.render o.frames).ending = .error x) :
    (outcome host o).FailsWith (frameTrouble (1 + x.1) x.2) ∧ (outcome host o).saves = [] := by
  have haccount : account host o = (.error (frameTrouble (1 + x.1) x.2),
      (c.film o.render o.frames).texts.map redraw) := by
    rw [account_of_opening hopen, rolling]
    simp only [hend]
  refine ⟨(failsWith_iff (yields_play hlog hd)).mpr (by rw [haccount]), ?_⟩
  rw [saves_outcome (yields_play hlog hd), haccount, saved_redraw]

theorem exists_film_of_exit (h : (outcome host o).exit = 0) :
    ∃ c d, opening host o = .ok c ∧ (c.film o.render o.frames).ending = .ok d := by
  have hok := (exit_eq_zero_iff (yields_play hlog hd)).mp h
  unfold account at hok
  cases hopen : opening host o with
  | error t =>
    rw [hopen] at hok
    cases hok
  | ok c =>
    rw [hopen] at hok
    cases hend : (c.film o.render o.frames).ending with
    | error x =>
      simp only [rolling, hend] at hok
      cases hok
    | ok d => exact ⟨c, d, rfl, hend⟩

/-- A run that fails with a frame has a film that ends there. -/
theorem exists_film_of_failsWith {number : Nat} {cause : String}
    (h : (outcome host o).FailsWith ⟨some ("frame " ++ Nat.repr number), cause⟩) :
    ∃ c x, opening host o = .ok c ∧ (c.film o.render o.frames).ending = .error x ∧
      number = 1 + x.1 ∧ cause = x.2.message := by
  have herror := (failsWith_iff (yields_play hlog hd)).mp h
  unfold account at herror
  cases hopen : opening host o with
  | error t =>
    rw [hopen] at herror
    cases herror
    -- no trouble before the first frame is one with a frame, and so below with one after the last
    exact absurd rfl (frameless_opening host o _ _ hopen)
  | ok c =>
    rw [hopen] at herror
    cases hend : (c.film o.render o.frames).ending with
    | error x =>
      simp only [rolling, hend, frameTrouble, Except.error.injEq, Trouble.mk.injEq, Option.some.injEq,
        String.append_right_inj] at herror
      exact ⟨c, x, rfl, hend, (number_of_repr herror.1).symm, herror.2.symm⟩
    | ok d =>
      simp only [rolling, hend] at herror
      exact absurd rfl (frameless_saving host o d _ _ herror)

end Endings

end Session

end Chip8
