import Chip8.Proofs.Session.LogFile

namespace Chip8

def Outcome.pauses (out : Outcome) : Nat := out.effects.count .pause

/-- The number of frames of a film that go well, of so many that were to be. -/
def Film.wentWell (film : Film) (count : Nat) : Nat :=
  match film.ending with
  | .ok _ => count
  | .error x => x.1

theorem Film.wentWell_cons (film : Film) (count : Nat) (instructions : List Instruction) (text : Option String) :
    (film.cons instructions text).wentWell (count + 1) = 1 + film.wentWell count := by
  unfold wentWell cons
  cases film.ending with
  | ok c => exact Nat.add_comm count 1
  | error x => rfl

namespace Session

def pauses (s : Session) : Nat := s.effects.count .pause

/-- The session after a step, however the step ends. -/
def after {α : Type} : EStateM.Result Trouble Session α → Session
  | .ok _ s => s
  | .error _ s => s

/-- Whatever was before and however it ends, a step of a run pauses so often. -/
def Pausing {α : Type} (x : Act α) (n : Nat) : Prop := ∀ s : Session, (after (x.run s)).pauses = s.pauses + n

section Steps

variable {α β : Type} {x : Act α} {f : α → Act β} {a : α} {t : Trouble} {out : List Effect} {m n : Nat}

theorem pausing_pure (a : α) : Pausing (pure a) 0 := fun _ => rfl

theorem pausing_throw (t : Trouble) : Pausing (throw t : Act α) 0 := fun _ => rfl

theorem Pausing.bind_ok (hx : Pausing x m) (hy : Yields x (.ok a) out) (hf : Pausing (f a) n) :
    Pausing (x >>= f) (m + n) := by
  intro s
  obtain ⟨s₁, -, hrun⟩ := hy s
  have hx := hx s
  rw [hrun] at hx
  rw [EStateM.run_bind, hrun, ← Nat.add_assoc]
  exact (hf s₁).trans (congrArg (· + n) hx)

theorem Pausing.bind_error (hx : Pausing x m) (hy : Yields x (.error t) out) : Pausing (x >>= f) m := by
  intro s
  obtain ⟨s₁, -, hrun⟩ := hy s
  have hx := hx s
  rw [hrun] at hx
  rw [EStateM.run_bind, hrun]
  exact hx

/-- A first step that succeeds without a pause. -/
theorem Pausing.then (hx : Pausing x 0) (hy : Yields x (.ok a) out) (hf : Pausing (f a) n) : Pausing (x >>= f) n := by
  have h := hx.bind_ok hy hf
  rwa [Nat.zero_add] at h

/-- Steps without a pause may fail. -/
theorem Pausing.bind (hx : Pausing x 0) (hf : ∀ a, Pausing (f a) 0) : Pausing (x >>= f) 0 := by
  intro s
  have hx := hx s
  rw [EStateM.run_bind]
  cases hrun : x.run s with
  | ok a s₁ =>
    rw [hrun] at hx
    exact (hf a s₁).trans hx
  | error t s₁ =>
    rw [hrun] at hx
    exact hx

theorem pausing_modify {g : Session → Session} (hg : ∀ s, (g s).pauses = s.pauses) : Pausing (modify g) 0 := hg

theorem pausing_emit_of_ne (e : Effect) (he : e ≠ .pause) : Pausing (emit e) 0 := fun _ => List.count_cons_of_ne he

theorem pausing_emit_pause : Pausing (emit .pause) 1 := fun _ => List.count_cons_self

theorem pausing_tell (events : Unit → List Event) : Pausing (tell events) 0 := by
  refine pausing_modify fun s => ?_
  have hlines (lines : List String) : (lines.map s.lineEffect).count .pause = 0 := by
    rw [List.count_eq_zero]
    intro hmem
    obtain ⟨line, -, hline⟩ := List.mem_map.mp hmem
    unfold lineEffect at hline
    split at hline <;> cases hline
  rw [pauses, hear, List.count_append, hlines, Nat.zero_add]
  rfl

theorem pausing_notify (n : Notice) : Pausing (notify n) 0 := by
  refine pausing_modify fun s => ?_
  split
  · exact List.count_cons_of_ne (a := Effect.pause) (b := .report n.line) nofun
  · rfl

theorem pausing_notices (notices : List Notice) : Pausing (notices.forM notify) 0 := by
  induction notices with
  | nil => exact pausing_pure ()
  | cons n notices ih => exact (pausing_notify n).bind fun _ => ih

theorem pausing_within {ε : Type} (context : String) (message : ε → String) (r : Except ε α) :
    Pausing (within context message r) 0 := by
  cases r with
  | ok a => exact pausing_pure a
  | error e => exact pausing_throw _

end Steps

section Parts

variable {host : Host} {o : Options}

theorem pausing_setUpLogging (host : Host) (o : Options) : Pausing (setUpLogging host o) 0 := by
  unfold setUpLogging
  refine (pausing_modify fun s => ?_).bind fun _ => ?_
  · rfl
  cases o.logFile with
  | none => exact pausing_pure host
  | some path =>
    refine (pausing_within _ _ _).bind fun _ => (pausing_emit_of_ne (.openLog path) nofun).bind fun _ => ?_
    refine (pausing_modify fun s => ?_).bind fun _ => pausing_pure (host.withFile path)
    rfl

theorem pausing_effectiveSettings (host : Host) (o : Options) : Pausing (effectiveSettings host o) 0 := by
  unfold effectiveSettings
  cases o.config with
  | none => exact pausing_pure _
  | some path => exact (pausing_notices _).bind fun _ => pausing_pure _

theorem pausing_mounted (host : Host) (o : Options) (settings : Settings) (program : List UInt8) :
    Pausing (mounted host o settings program) 0 := by
  refine (pausing_tell _).bind fun _ => (pausing_within _ _ _).bind fun _ => ?_
  exact (pausing_notify _).bind fun _ => pausing_pure _

theorem pausing_restored (host : Host) (path : String) (c : Console) : Pausing (restored host path c) 0 := by
  refine (pausing_within _ _ _).bind fun text => ?_
  cases Json.ofText text with
  | error e => exact pausing_throw _
  | ok save =>
    refine (pausing_within _ _ _).bind fun _ => ?_
    exact (pausing_notify _).bind fun _ => pausing_pure _

theorem pausing_withKeys (mask : UInt16) (c : Console) : Pausing (withKeys mask c) 0 :=
  (pausing_tell _).bind fun _ => pausing_pure _

theorem pausing_showUpdate (c : Console) : Pausing (showUpdate c) 0 := by
  unfold showUpdate
  cases c.takeUpdate with
  | mk d text =>
    cases text with
    | none => exact pausing_pure d
    | some text => exact (pausing_emit_of_ne (redraw text) nofun).bind fun _ => pausing_pure d

theorem pausing_conclude (host : Host) (o : Options) (c : Console) : Pausing (conclude host o c) 0 := by
  have hshown {x : Act Unit} (hx : Pausing x 0) :
      Pausing (if !o.render then emit (.show c.machine.display.text) >>= fun _ => x else x) 0 := by
    cases o.render with
    | false => exact (pausing_emit_of_ne (.show c.machine.display.text) nofun).bind fun _ => hx
    | true => exact hx
  unfold conclude
  refine hshown ((pausing_notify _).bind fun _ => ?_)
  cases o.save with
  | none => exact pausing_pure ()
  | some path => exact (pausing_within _ _ _).bind fun _ => pausing_emit_of_ne (.save path c.save.laidOut) nofun

section Frames

variable (paced : Bool) (number : Nat) {c d : Console}

def paces (paced : Bool) (count : Nat) : Nat := if paced then count else 0

theorem paces_zero : paces paced 0 = 0 := ite_self 0

theorem paces_add (m n : Nat) : paces paced m + paces paced n = paces paced (m + n) := by
  cases paced <;> rfl

theorem pausing_frame_of_error {e : Failure} (hs : c.stepFrame = (d, .error e)) :
    Pausing (frame o paced number c) (paces paced 0) := by
  rw [paces_zero]
  refine (pausing_tell _).bind fun _ => ?_
  rw [hs]
  exact (pausing_within _ _ (.error e)).bind_error (yields_within _ _ (.error e))

theorem pausing_frame_of_ok {f : Frame} (hs : c.stepFrame = (d, .ok f)) :
    Pausing (frame o paced number c) (paces paced 1) := by
  have hpause (c : Console) :
      Pausing (if paced then emit .pause >>= fun _ => pure c else pure c) (paces paced 1) := by
    cases paced with
    | false => exact pausing_pure c
    | true => exact pausing_emit_pause.bind_ok (f := fun _ => pure c) (yields_emit .pause) (pausing_pure c)
  refine (pausing_tell _).then (yields_tell _) ?_
  rw [hs]
  refine (pausing_within _ _ (.ok f)).then (yields_within _ _ (.ok f)) ?_
  cases o.render with
  | false => exact (pausing_pure d).then (yields_pure d) (hpause d)
  | true => exact (pausing_showUpdate d).then (yields_showUpdate d) (hpause _)

/-- Frames pause once for each of them that goes well, if they are paced. -/
theorem pausing_frames (count first : Nat) (c : Console) :
    Pausing (frames o paced count first c) (paces paced ((c.film o.render count).wentWell count)) := by
  fun_induction Console.film c o.render count generalizing first with
  | case1 c =>
    rw [Film.wentWell, Film.start, paces_zero]
    exact pausing_pure c
  | case2 c count d e hs =>
    exact (pausing_frame_of_error paced first hs).bind_error (yields_frame_of_error paced first hs)
  | case3 c count d f hs ih =>
    rw [Film.wentWell_cons, ← paces_add]
    exact (pausing_frame_of_ok paced first hs).bind_ok (yields_frame_of_ok paced first hs) (ih (first + 1))

end Frames

variable {c : Console}

/-- What a run that is ready for its first frame pauses. -/
theorem pausing_rolling (paced : Bool) (c : Console) :
    Pausing (frames o paced o.frames 1 c >>= conclude host o)
      (paces paced ((c.film o.render o.frames).wentWell o.frames)) := by
  have hpausing := pausing_frames (o := o) paced o.frames 1 c
  have hyields := yields_frames (o := o) paced o.frames 1 c
  cases hending : (c.film o.render o.frames).ending with
  | error x =>
    rw [hending] at hyields
    exact hpausing.bind_error hyields
  | ok d =>
    rw [hending] at hyields
    exact hpausing.bind_ok hyields (pausing_conclude host o d)

theorem pausing_running (h : opening host o = .ok c) :
    Pausing (running host o) (paces (settings host o).realtime ((c.film o.render o.frames).wentWell o.frames)) := by
  obtain ⟨bytes, hbytes, h⟩ := Outcome.bind_eq_ok_iff.mp h
  obtain ⟨c', hc', h⟩ := Outcome.bind_eq_ok_iff.mp h
  have hread := yields_within ("reading " ++ o.rom) FileTrouble.message (host.read o.rom)
  have hmounted := yields_mounted host o bytes.toList
  rw [hbytes] at hread
  rw [hc'] at hmounted
  have hroll (c : Console) : Pausing
      (withKeys (settings host o).keys c >>= fun c =>
        frames o (settings host o).realtime o.frames 1 c >>= conclude host o)
      (paces (settings host o).realtime
        (((c.setKeys (settings host o).keys).film o.render o.frames).wentWell o.frames)) :=
    (pausing_withKeys _ c).then (yields_withKeys _ c) (pausing_rolling _ _)
  unfold running
  refine (pausing_within _ _ _).then hread ?_
  refine (pausing_effectiveSettings host o).then (yields_effectiveSettings host o) ?_
  refine (pausing_mounted host o _ bytes.toList).then hmounted ?_
  cases hload : o.load with
  | none =>
    rw [hload] at h
    cases h
    exact (pausing_pure c').then (yields_pure c') (hroll c')
  | some path =>
    rw [hload] at h
    obtain ⟨d, hd, hc⟩ := Outcome.bind_eq_ok_iff.mp h
    cases hc
    have hrestored := yields_restored host path c'
    rw [hd] at hrestored
    exact (pausing_restored host path c').then hrestored (hroll d)

theorem pauses_outcome {n : Nat} (h : Pausing (play host o) n) : (outcome host o).pauses = n := by
  have hreports (lines : List String) : (lines.map Effect.report).count .pause = 0 := by
    rw [List.count_eq_zero]
    intro hmem
    obtain ⟨line, -, hline⟩ := List.mem_map.mp hmem
    cases hline
  have hrun := h (start host)
  have hstart : (start host).pauses = 0 := hreports host.verbosity.complaints.reverse
  rw [hstart, Nat.zero_add] at hrun
  unfold outcome Outcome.pauses
  cases hr : (play host o).run (start host) with
  | ok _ s =>
    rw [hr] at hrun
    exact List.count_reverse.trans hrun
  | error t s =>
    rw [hr] at hrun
    rw [List.count_append, hreports, Nat.add_zero]
    exact List.count_reverse.trans hrun

variable (hd : o.disassemble = false)

include hd

/-- A run that gets to its first frame pauses after each frame that goes well, if they are paced. -/
theorem pauses_of_ready (hlog : LogWritable host o) (hready : Ready (outside host o) o c) :
    (outcome host o).pauses =
      paces (settings (outside host o) o).realtime ((c.film o.render o.frames).wentWell o.frames) := by
  refine pauses_outcome ?_
  rw [play_eq hd]
  have hrunning := pausing_running (opening_eq_ok_iff.mpr hready)
  exact (pausing_setUpLogging host o).then (yields_setUpLogging_of_writable hlog) hrunning

/-- The frames that go well are all, or those before the one that fails. -/
theorem pauses_of_completes {n : Nat} {d : Console} (hlog : LogWritable host o) (hready : Ready (outside host o) o c)
    (hcompletes : c.Completes (Console.watching o.render n) d)
    (hlast : n = o.frames ∨ n < o.frames ∧ ∃ e, d.stepFrame.2 = .error e) :
    (outcome host o).pauses = paces (settings (outside host o) o).realtime n := by
  rw [pauses_of_ready hd hlog hready, Film.wentWell]
  rcases hlast with rfl | ⟨hn, e, he⟩
  · rw [Console.ending_film_eq_ok_iff.mpr hcompletes]
  · rw [Console.ending_film_eq_error_iff.mpr ⟨hn, d, hcompletes, he⟩]

end Parts

end Session

end Chip8
