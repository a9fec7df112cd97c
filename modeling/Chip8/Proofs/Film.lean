import Chip8.Proofs.Twins

namespace Chip8

/-- Frames in a row. -/
structure Film where
  /-- What each frame executes, the one that fails included. -/
  executed : List (List Instruction)
  texts : List String
  /-- The console after the last frame, or the number of frames that went well and the failure of the next. -/
  ending : Except (Nat × Failure) Console

namespace Film

def start (c : Console) : Film := ⟨[], [], .ok c⟩

/-- A failure with so many more frames before it. -/
def later (count : Nat) (x : Nat × Failure) : Nat × Failure := (count + x.1, x.2)

theorem later_later (m n : Nat) (x : Nat × Failure) : later m (later n x) = later (m + n) x :=
  congrArg (·, x.2) (Nat.add_assoc m n x.1).symm

/-- One frame more at the beginning, with what it executes and perhaps shows. -/
def cons (instructions : List Instruction) (text : Option String) (f : Film) : Film where
  executed := instructions :: f.executed
  texts := text.toList ++ f.texts
  ending := f.ending.mapError (later 1)

/-- The film that goes on with another one, unless it fails. -/
def append (f : Film) (g : Console → Film) : Film :=
  match f.ending with
  | .error _ => f
  | .ok c => {
      executed := f.executed ++ (g c).executed
      texts := f.texts ++ (g c).texts
      ending := (g c).ending.mapError (later f.executed.length) }

theorem start_append (c : Console) (g : Console → Film) : (start c).append g = g c := by
  have hlater : later 0 = id := funext fun x => congrArg (·, x.2) (Nat.zero_add x.1)
  simp only [start, append, List.nil_append, List.length_nil, hlater, Outcome.mapError_id]

theorem cons_append (instructions : List Instruction) (text : Option String) (f : Film)
    (g : Console → Film) :
    (f.cons instructions text).append g = (f.append g).cons instructions text := by
  cases hf : f.ending with
  | error x => simp only [append, cons, hf, Outcome.mapError_error]
  | ok c =>
    simp only [append, cons, hf, Outcome.mapError_ok, List.cons_append, List.append_assoc, List.length_cons,
      mk.injEq, true_and]
    cases (g c).ending with
    | error x => simp only [Outcome.mapError_error, later_later, Nat.add_comm]
    | ok d => rfl

variable {synced : Prop}

/-- Twins at the end, or the same failure after the same number of frames. -/
inductive EndsAlike (synced : Prop) : (x y : Except (Nat × Failure) Console) → Prop where
  | ok {c d : Console} (h : Console.Twin synced c d) : EndsAlike synced (.ok c) (.ok d)
  | error (x : Nat × Failure) : EndsAlike synced (.error x) (.error x)

theorem EndsAlike.mapError {x y : Except (Nat × Failure) Console} (h : EndsAlike synced x y)
    (f : Nat × Failure → Nat × Failure) : EndsAlike synced (x.mapError f) (y.mapError f) := by
  cases h with
  | ok h => exact .ok h
  | error x => exact .error (f x)

structure Twin (synced : Prop) (f g : Film) : Prop where
  executed : g.executed = f.executed
  texts : g.texts = f.texts
  ending : EndsAlike synced f.ending g.ending

namespace Twin

variable {f g : Film}

theorem ending_ok (h : Twin synced f g) {c : Console} (hf : f.ending = .ok c) :
    ∃ d, g.ending = .ok d ∧ Console.Twin synced c d := by
  have hending := h.ending
  rw [hf] at hending
  generalize g.ending = y at hending ⊢
  cases hending with
  | ok htwin => exact ⟨_, rfl, htwin⟩

theorem ending_error (h : Twin synced f g) {x : Nat × Failure} (hf : f.ending = .error x) :
    g.ending = .error x := by
  have hending := h.ending
  rw [hf] at hending
  generalize g.ending = y at hending ⊢
  cases hending with
  | error x => rfl

theorem cons (h : Twin synced f g) (instructions : List Instruction) (text : Option String) :
    Twin synced (f.cons instructions text) (g.cons instructions text) where
  executed := congrArg (instructions :: ·) h.executed
  texts := congrArg (text.toList ++ ·) h.texts
  ending := h.ending.mapError (later 1)

end Twin

end Film

theorem Machine.keypad_after (m : Machine) (byte : UInt8) (i : Instruction) :
    (m.after byte i).keypad = m.keypad := by
  cases i with
  | waitKey x =>
    simp only [after]
    split <;> rfl
  | _ => rfl

theorem Processor.keypad_run {p : Processor} (hp : p.machine.Valid) (n : Nat) :
    (p.run n).1.machine.keypad = p.machine.keypad := by
  let Kept (q : Processor) : Prop := q.machine.Valid ∧ q.machine.keypad = p.machine.keypad
  have hstep (q : Processor) (hq : Kept q) : Kept q.step.1 := by
    obtain ⟨hvalid, hkeypad⟩ := hq
    refine ⟨valid_step hvalid, ?_⟩
    rcases machine_step_cases hvalid with h | ⟨word, byte, -, -, h⟩
    · rw [h]
      exact hkeypad
    · rw [h, Machine.keypad_after]
      exact hkeypad
  have hrun : Kept (p.run n).1 := run_keeps hstep n ⟨hp, rfl⟩
  exact hrun.2

namespace Console

/-- Looks at the display after a frame, if frames are shown. -/
def look (c : Console) (render : Bool) : Console × Option String :=
  if render then c.takeUpdate else (c, none)

/-- So many frames in a row. -/
def film (c : Console) (render : Bool) : Nat → Film
  | 0 => .start c
  | n + 1 =>
    match c.stepFrame with
    | (_, .error e) => ⟨[c.trace .stepFrame], [], .error (0, e)⟩
    | (d, .ok _) => ((d.look render).1.film render n).cons (c.trace .stepFrame) (d.look render).2

variable {c d : Console} {render : Bool} {e : Failure} {f : Frame} {m n : Nat}

theorem film_succ_of_ok (h : c.stepFrame = (d, .ok f)) :
    c.film render (n + 1) =
      ((d.look render).1.film render n).cons (c.trace .stepFrame) (d.look render).2 := by
  rw [film, h]

theorem film_succ_of_error (h : c.stepFrame = (d, .error e)) :
    c.film render (n + 1) = ⟨[c.trace .stepFrame], [], .error (0, e)⟩ := by rw [film, h]

/-- A film of frames is the film of the first ones that goes on with that of the others. -/
theorem film_add (c : Console) (render : Bool) (m n : Nat) :
    c.film render (m + n) = (c.film render m).append (·.film render n) := by
  fun_induction film c render m with
  | case1 c => rw [Nat.zero_add, Film.start_append]
  | case2 c m d e hs =>
    -- a frame that fails ends both films
    rw [Nat.succ_add, film_succ_of_error hs]
    rfl
  | case3 c m d f hs ih => rw [Nat.succ_add, film_succ_of_ok hs, ih, Film.cons_append]

theorem texts_film_false (c : Console) (n : Nat) : (c.film false n).texts = [] := by
  fun_induction film c false n with
  | case1 c => rfl
  | case2 c n d e hs => rfl
  | case3 c n d f hs ih => exact ih

theorem film_length_of_ok (h : (c.film render n).ending = .ok d) : (c.film render n).executed.length = n := by
  fun_induction film c render n with
  | case1 c => rfl
  | case2 c n c' e hs => cases h
  | case3 c n c' f hs ih => exact congrArg Nat.succ (ih (Outcome.mapError_eq_ok_iff.mp h))

theorem film_lt_of_error {x : Nat × Failure} (h : (c.film render n).ending = .error x) : x.1 < n := by
  fun_induction film c render n generalizing x with
  | case1 c => cases h
  | case2 c n c' e hs =>
    cases h
    exact Nat.succ_pos n
  | case3 c n c' f hs ih =>
    obtain ⟨y, hy, rfl⟩ := Outcome.mapError_eq_error_iff.mp h
    have hlt := ih hy
    simp only [Film.later]
    omega

theorem film_add_of_ok (h : (c.film render m).ending = .ok d) (n : Nat) :
    c.film render (m + n) = {
      executed := (c.film render m).executed ++ (d.film render n).executed
      texts := (c.film render m).texts ++ (d.film render n).texts
      ending := (d.film render n).ending.mapError (Film.later m) } := by
  rw [film_add, Film.append, h]
  simp only [film_length_of_ok h]

theorem film_add_of_error {x : Nat × Failure} (h : (c.film render m).ending = .error x) (n : Nat) :
    c.film render (m + n) = c.film render m := by rw [film_add, Film.append, h]

theorem exists_run_of_stepFrame (h : c.stepFrame = (d, .ok f)) :
    ∃ p, c.processor.run c.settings.instructionsPerFrame.toNat = (p, .ok ()) ∧
      d = { c with processor := p }.tick := by
  unfold stepFrame at h
  split at h
  · cases h
  · split at h
    · cases h
    next p hp =>
      cases h
      exact ⟨p, hp, rfl⟩

/-- What neither a frame nor a look at the display touches. -/
structure Kept (c d : Console) : Prop where
  settings : d.settings = c.settings
  program : d.program = c.program
  keypad : d.machine.keypad = c.machine.keypad

theorem Kept.trans {a b c : Console} (h : Kept a b) (h' : Kept b c) : Kept a c :=
  ⟨h'.settings.trans h.settings, h'.program.trans h.program, h'.keypad.trans h.keypad⟩

theorem kept_look (c : Console) (render : Bool) : Kept c (c.look render).1 := by
  cases render <;> exact ⟨rfl, rfl, rfl⟩

theorem look_valid (hc : c.machine.Valid) (render : Bool) : (c.look render).1.machine.Valid := by
  cases render <;> exact hc

theorem kept_stepFrame (hc : c.machine.Valid) (h : c.stepFrame = (d, .ok f)) : Kept c d := by
  obtain ⟨p, hrun, rfl⟩ := exists_run_of_stepFrame h
  have hkeypad := Processor.keypad_run hc c.settings.instructionsPerFrame.toNat
  rw [hrun] at hkeypad
  exact ⟨rfl, rfl, hkeypad⟩

theorem film_ok (hc : c.machine.Valid) (h : (c.film render n).ending = .ok d) :
    d.machine.Valid ∧ Kept c d := by
  fun_induction film c render n with
  | case1 c =>
    cases h
    exact ⟨hc, rfl, rfl, rfl⟩
  | case2 c n c' e hs => cases h
  | case3 c n c' f hs ih =>
    have hframe := stepFrame_valid hc
    rw [hs] at hframe
    obtain ⟨hvalid, hkept⟩ := ih (look_valid hframe render) (Outcome.mapError_eq_ok_iff.mp h)
    exact ⟨hvalid, ((kept_stepFrame hc hs).trans (kept_look c' render)).trans hkept⟩

variable {synced : Prop}

theorem Twin.look (h : Twin synced c d) (render : Bool) :
    (d.look render).2 = (c.look render).2 ∧ Twin synced (c.look render).1 (d.look render).1 := by
  cases render with
  | false => exact ⟨rfl, h⟩
  | true => exact h.takeUpdate

/-- Twins make the same film as long as they are in sync or no frame draws. -/
theorem Twin.film (render : Bool) (n : Nat) (h : Twin synced c d) (hc : c.machine.Valid)
    (hq : synced ∨ Quiet (c.film render n).executed.flatten) :
    Film.Twin synced (c.film render n) (d.film render n) := by
  fun_induction Console.film c render n generalizing d with
  | case1 c => exact ⟨rfl, rfl, .ok h⟩
  | case2 c n c' e hs =>
    have hfirst : synced ∨ Quiet (c.trace .stepFrame) := by simpa using hq
    obtain ⟨hresult, -⟩ := h.stepFrame hc hfirst
    have ht : d.stepFrame = (d.stepFrame.1, .error e) := Prod.ext rfl (by rw [hresult, hs])
    rw [film_succ_of_error ht, h.trace hc _ hfirst]
    exact ⟨rfl, rfl, .error _⟩
  | case3 c n c' f hs ih =>
    -- what the whole film executes is what the first frame does and then the others
    have hparts : synced ∨ Quiet (c.trace .stepFrame) ∧
        Quiet ((c'.look render).1.film render n).executed.flatten := by simpa [Film.cons] using hq
    have hfirst := hparts.imp_right And.left
    obtain ⟨hresult, hleft⟩ := h.stepFrame hc hfirst
    have ht : d.stepFrame = (d.stepFrame.1, .ok f) := Prod.ext rfl (by rw [hresult, hs])
    have hc' := stepFrame_valid hc
    rw [hs] at hleft hc'
    obtain ⟨htext, hlook⟩ := hleft.look render
    rw [film_succ_of_ok ht, h.trace hc _ hfirst, htext]
    exact (ih hlook (look_valid hc' render) (hparts.imp_right And.right)).cons _ _

end Console

end Chip8
