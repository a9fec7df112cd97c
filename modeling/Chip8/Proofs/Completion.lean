import Chip8.Proofs.Film

namespace Chip8

def Answer.succeeded : Answer → Bool
  | .failed _ | .refused _ => false
  | _ => true

namespace Answer

theorem succeeded_ofUnit {r : Except Failure Unit} : (ofUnit r).succeeded ↔ r = .ok () := by
  cases r <;> simp [ofUnit, succeeded]

theorem succeeded_ofRestore {r : Except Save.Refusal Unit} : (ofRestore r).succeeded ↔ r = .ok () := by
  cases r <;> simp [ofRestore, succeeded]

end Answer

namespace Console

/-- The commands succeed one after the other and lead from one console to another. -/
def Completes (c : Console) (commands : List Command) (d : Console) : Prop :=
  (∀ a ∈ (c.play commands).2, a.succeeded) ∧ (c.play commands).1 = d

/-- The commands of so many frames, with a look at the display after each of them if they are shown. -/
def watching (render : Bool) (n : Nat) : List Command :=
  (List.replicate n (.stepFrame :: if render then [.takeUpdate] else [])).flatten

section Completion

variable {c d e : Console} {cmd : Command} {commands rest : List Command}

theorem completes_nil_iff : c.Completes [] d ↔ c = d := by simp [Completes, play]

theorem completes_cons_iff :
    c.Completes (cmd :: rest) d ↔ (c.perform cmd).2.succeeded ∧ (c.perform cmd).1.Completes rest d := by
  simp only [Completes, play_cons, List.forall_mem_cons, and_assoc]

theorem completes_append_iff :
    c.Completes (commands ++ rest) e ↔ ∃ d, c.Completes commands d ∧ d.Completes rest e := by
  induction commands generalizing c with
  | nil => simp [completes_nil_iff]
  | cons cmd commands ih =>
    rw [List.cons_append, completes_cons_iff, ih]
    simp only [completes_cons_iff, and_assoc, exists_and_left]

end Completion

section Watching

variable {c d : Console} {render : Bool} {n k : Nat} {f : Frame} {e : Failure}

theorem watching_succ (render : Bool) (n : Nat) :
    watching render (n + 1) = .stepFrame :: ((if render then [.takeUpdate] else []) ++ watching render n) := by
  rw [watching, List.replicate_succ, List.flatten_cons, List.cons_append, watching]

theorem completes_look_iff {rest : List Command} :
    c.Completes ((if render then [.takeUpdate] else []) ++ rest) d ↔ (c.look render).1.Completes rest d := by
  cases render with
  | false => exact Iff.rfl
  | true => exact completes_cons_iff.trans (and_iff_right rfl)

theorem completes_watching_succ_of_ok (h : c.stepFrame = (d, .ok f)) {d' : Console} :
    c.Completes (watching render (n + 1)) d' ↔ (d.look render).1.Completes (watching render n) d' := by
  have hframe : c.perform .stepFrame = (d, .frame f) := by rw [perform, h]; rfl
  rw [watching_succ, completes_cons_iff, hframe, completes_look_iff]
  exact and_iff_right rfl

theorem not_completes_watching_succ_of_error (h : c.stepFrame = (d, .error e)) {d' : Console} :
    ¬ c.Completes (watching render (n + 1)) d' := by
  have hframe : c.perform .stepFrame = (d, .failed e) := by rw [perform, h]; rfl
  rw [watching_succ, completes_cons_iff, hframe]
  rintro ⟨⟨⟩, -⟩

/-- A film runs to its end if all of its commands succeed. -/
theorem ending_film_eq_ok_iff :
    (c.film render n).ending = .ok d ↔ c.Completes (watching render n) d := by
  fun_induction film c render n with
  | case1 c =>
    rw [Film.start, Except.ok.injEq]
    exact completes_nil_iff.symm
  | case2 c n c' e hs =>
    refine iff_of_false ?_ (not_completes_watching_succ_of_error hs)
    rintro ⟨⟩
  | case3 c n c' f hs ih =>
    rw [Film.cons, Outcome.mapError_eq_ok_iff, ih]
    exact (completes_watching_succ_of_ok hs).symm

/-- A film ends early at the first frame that fails. -/
theorem ending_film_eq_error_iff :
    (c.film render n).ending = .error (k, e) ↔
      k < n ∧ ∃ d, c.Completes (watching render k) d ∧ d.stepFrame.2 = .error e := by
  fun_induction film c render n generalizing k with
  | case1 c =>
    refine iff_of_false ?_ fun h => absurd h.1 (Nat.not_lt_zero k)
    rintro ⟨⟩
  | case2 c n c' e' hs =>
    constructor
    · rintro ⟨⟩
      exact ⟨Nat.succ_pos n, c, completes_nil_iff.mpr rfl, by rw [hs]⟩
    · rintro ⟨-, d, hd, he⟩
      cases k with
      | zero =>
        cases completes_nil_iff.mp hd
        rw [hs] at he
        cases he
        rfl
      | succ k => exact absurd hd (not_completes_watching_succ_of_error hs)
  | case3 c n c' f hs ih =>
    rw [Film.cons, Outcome.mapError_eq_error_iff]
    constructor
    · rintro ⟨⟨j, e'⟩, hend, hlater⟩
      cases hlater
      obtain ⟨hj, d, hd, he⟩ := ih.mp hend
      refine ⟨by omega, d, ?_, he⟩
      rw [Nat.add_comm]
      exact (completes_watching_succ_of_ok hs).mpr hd
    · rintro ⟨hk, d, hd, he⟩
      cases k with
      | zero =>
        -- the first frame goes well
        cases completes_nil_iff.mp hd
        rw [hs] at he
        cases he
      | succ k =>
        have hrest := (completes_watching_succ_of_ok hs).mp hd
        refine ⟨(k, e), ih.mpr ⟨Nat.lt_of_succ_lt_succ hk, d, hrest, he⟩, ?_⟩
        rw [Film.later, Nat.add_comm]

end Watching

end Console

end Chip8
