import Chip8.Proofs.Session.Aftermath

namespace Chip8

/-- The options without a log file. -/
def Options.unlogged (o : Options) : Options := { o with logFile := none }

namespace Session

/-- The outside of a run after its log file was opened, if it has one. -/
def outside (host : Host) (o : Options) : Host :=
  match o.logFile with
  | none => host
  | some path => host.withFile path

/-- The log file can be written, if there is one. -/
def LogWritable (host : Host) (o : Options) : Prop := ∀ path, o.logFile = some path → host.writable path = .ok ()

/-- What a run leaves of its log before anything else. -/
def openings (o : Options) : List Effect := o.logFile.toList.map .openLog

variable {host : Host} {o : Options}

theorem writable_outside (host : Host) (o : Options) : (outside host o).writable = host.writable := by
  unfold outside
  cases o.logFile <;> rfl

theorem logWritable_or_error (host : Host) (o : Options) :
    LogWritable host o ∨ ∃ path e, o.logFile = some path ∧ host.writable path = .error e := by
  unfold LogWritable
  cases o.logFile with
  | none => exact .inl nofun
  | some path =>
    cases hw : host.writable path with
    | ok _ =>
      left
      rintro _ ⟨⟩
      exact hw
    | error e => exact .inr ⟨path, e, rfl, hw⟩

theorem not_logWritable_of_error {path : String} {e : FileTrouble} (hlog : o.logFile = some path)
    (hw : host.writable path = .error e) : ¬ LogWritable host o := by
  intro h
  have hok := h path hlog
  rw [hw] at hok
  cases hok

theorem yields_setUpLogging_of_writable (h : LogWritable host o) :
    Yields (setUpLogging host o) (.ok (outside host o)) (openings o) := by
  unfold setUpLogging outside openings
  refine (yields_modify fun s => ?_).then ?_
  · rfl
  cases hlog : o.logFile with
  | none => exact yields_pure host
  | some path =>
    dsimp only
    rw [h path hlog]
    refine (yields_within _ _ (.ok ())).then ?_
    refine (yields_emit (.openLog path)).finish ?_
    refine (yields_modify fun s => ?_).then (yields_pure (host.withFile path))
    rfl

theorem yields_setUpLogging_of_error {path : String} {e : FileTrouble} (hlog : o.logFile = some path)
    (hw : host.writable path = .error e) :
    Yields (setUpLogging host o) (.error ⟨some ("opening log file " ++ path), e.message⟩) [] := by
  unfold setUpLogging
  refine (yields_modify fun s => ?_).then ?_
  · rfl
  rw [hlog]
  dsimp only
  rw [hw]
  exact (yields_within _ _ (.error e)).bind_error

variable (hd : o.disassemble = false)
include hd

theorem yields_play_of_writable (h : LogWritable host o) :
    Yields (play host o) (account (outside host o) o).1 (openings o ++ (account (outside host o) o).2) := by
  rw [play_eq hd]
  exact (yields_setUpLogging_of_writable h).bind (yields_running (outside host o) o)

/-- What others see of a run does not hang on its log, once the log file is open. -/
theorem outcome_of_writable_log (h : LogWritable host o) :
    let other := outcome (outside host o) o.unlogged
    ((outcome host o).exit = 0 ↔ other.exit = 0) ∧ (∀ t, (outcome host o).FailsWith t ↔ other.FailsWith t) ∧
      (outcome host o).stdout = other.stdout ∧ (outcome host o).saves = other.saves := by
  intro other
  have hy := yields_play_of_writable hd h
  have hy' : Yields (play (outside host o) o.unlogged) (account (outside host o) o).1 (account (outside host o) o).2 :=
    yields_play rfl hd
  have hsilent {α : Type} {f : Effect → Option α} (hf : ∀ path, f (.openLog path) = none) :
      (openings o).filterMap f = [] := by
    unfold openings
    cases o.logFile with
    | none => rfl
    | some path => simp [hf]
  refine ⟨?_, fun t => ?_, ?_, ?_⟩
  · rw [exit_eq_zero_iff hy, exit_eq_zero_iff hy']
  · rw [failsWith_iff hy, failsWith_iff hy']
  · rw [stdout_outcome hy, stdout_outcome hy', List.filterMap_append, hsilent fun _ => rfl, List.nil_append]
  · rw [saves_outcome hy, saves_outcome hy', List.filterMap_append, hsilent fun _ => rfl, List.nil_append]

/-- A run whose log file cannot be written fails with that and nothing else. -/
theorem outcome_of_error_log {path : String} {e : FileTrouble} (hlog : o.logFile = some path)
    (hw : host.writable path = .error e) :
    (outcome host o).exit ≠ 0 ∧
      ∀ t, (outcome host o).FailsWith t ↔ t = ⟨some ("opening log file " ++ path), e.message⟩ := by
  have hy : Yields (play host o) (.error ⟨some ("opening log file " ++ path), e.message⟩) [] := by
    rw [play_eq hd]
    exact (yields_setUpLogging_of_error hlog hw).bind_error
  refine ⟨fun hexit => ?_, fun t => ?_⟩
  · cases (exit_eq_zero_iff hy).mp hexit
  · rw [failsWith_iff hy, Except.error.injEq]
    exact eq_comm

/-- A run ends well exactly if its log file can be opened, the commands that get its console ready and those of all its
frames succeed, and its save can be written. -/
theorem exit_eq_zero_iff_ready :
    (outcome host o).exit = 0 ↔ LogWritable host o ∧ ∃ c d, Ready (outside host o) o c ∧
      c.Completes (Console.watching o.render o.frames) d ∧
      (∀ path, o.save = some path → host.writable path = .ok ()) ∧
      (outcome host o).saves = (o.save.toList.map fun path => (path, d.save.laidOut)) ∧
      (o.render = false → (outcome host o).stdout = d.machine.display.text) := by
  rcases logWritable_or_error host o with h | ⟨path, e, hlog, hw⟩
  · obtain ⟨hexit, -, hstdout, hsaves⟩ := outcome_of_writable_log hd h
    have hplain : o.unlogged.disassemble = false := hd
    have hcompletes : (outcome (outside host o) o.unlogged).exit = 0 ↔ _ := exit_eq_zero_iff_completes rfl hplain
    rw [writable_outside, ← hstdout, ← hsaves, ← hexit] at hcompletes
    exact hcompletes.trans (and_iff_right h).symm
  · have hexit := (outcome_of_error_log hd hlog hw).1
    exact iff_of_false hexit fun ⟨h, _⟩ => not_logWritable_of_error hlog hw h

/-- A trouble with a frame is reported exactly if the log file can be opened, all goes well before that frame and the
frame fails. -/
theorem failsWith_frame_iff_ready {number : Nat} {cause : String} :
    (outcome host o).FailsWith ⟨some ("frame " ++ Nat.repr number), cause⟩ ↔
      LogWritable host o ∧ ∃ c n d e, Ready (outside host o) o c ∧ number = n + 1 ∧ n < o.frames ∧
        c.Completes (Console.watching o.render n) d ∧ d.stepFrame.2 = .error e ∧ cause = e.message := by
  rcases logWritable_or_error host o with h | ⟨path, e, hlog, hw⟩
  · obtain ⟨-, hfails, -⟩ := outcome_of_writable_log hd h
    have hplain : o.unlogged.disassemble = false := hd
    exact ((hfails _).trans (failsWith_frame_iff rfl hplain)).trans (and_iff_right h).symm
  · refine iff_of_false (fun h => ?_) fun ⟨h, _⟩ => not_logWritable_of_error hlog hw h
    have hcontext := congrArg Trouble.context (((outcome_of_error_log hd hlog hw).2 _).mp h)
    exact append_ne_frame rfl (by decide) path (Nat.repr number) (Option.some.inj hcontext).symm

end Session

end Chip8
