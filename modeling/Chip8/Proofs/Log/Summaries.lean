import Chip8.Proofs.Log.Accounting

namespace Chip8.Log

/-- How many reports a category may still write before the limit is raised. -/
def Window.credit (w : Window) (limit : Nat) : Nat :=
  (if w.reported then 0 else 1) + if 0 < w.pending ∧ w.admitted < limit then 1 else 0

/-- How many times requests raise the limit that is in force. -/
def raises (limit : Nat) : List Request → Nat
  | [] => 0
  | .setLimit next :: rest => (if limit < next then 1 else 0) + raises next rest
  | .offer .. :: rest | .setGlobal _ :: rest | .setLevel .. :: rest | .reset :: rest => raises limit rest

theorem raises_cons (limit : Nat) (r : Request) (rest : List Request) :
    raises limit (r :: rest) =
      match r with
      | .setLimit next => (if limit < next then 1 else 0) + raises next rest
      | _ => raises limit rest := by
  cases r <;> rfl

namespace Window

theorem credit_le_of_le (w : Window) {limit next : Nat} (h : next ≤ limit) : w.credit next ≤ w.credit limit := by
  unfold credit
  apply Nat.add_le_add_left
  by_cases hdue : 0 < w.pending ∧ w.admitted < next
  · have hdue' : 0 < w.pending ∧ w.admitted < limit := ⟨hdue.1, Nat.lt_of_lt_of_le hdue.2 h⟩
    exact Nat.le_of_eq ((if_pos hdue).trans (if_pos hdue').symm)
  · rw [if_neg hdue]
    exact Nat.zero_le _

/-- Raising the limit gives credit for one report. -/
theorem credit_le_raised (w : Window) (limit next : Nat) :
    w.credit next ≤ w.credit limit + if limit < next then 1 else 0 := by
  by_cases hraised : limit < next
  · rw [if_pos hraised]
    unfold credit
    split <;> split <;> omega
  · rw [if_neg hraised]
    exact credit_le_of_le w (Nat.le_of_not_lt hraised)

/-- A message pays for the report that it writes. -/
theorem summaries_add_credit (w : Window) (limit : Nat) (c : Category) (text : Unit → String) :
    summaries ((w.ask limit).2.lines c text) + (w.ask limit).1.credit limit ≤ w.credit limit := by
  rw [summaries_lines]
  by_cases hlimit : w.admitted < limit
  · rw [ask_of_room hlimit]
    by_cases hp : w.pending = 0
    · simp [credit, hp]
    · have hpos : 0 < w.pending := Nat.pos_of_ne_zero hp
      simp [credit, hp, hpos, hlimit]
  · rw [ask_of_full (Nat.le_of_not_lt hlimit)]
    cases hr : w.reported with
    | true => simp [credit, hr, hlimit]
    | false => simp [credit, hr, hlimit]

end Window

namespace Logger

variable {log : Logger}

def credit (log : Logger) (c : Category) : Nat := (log.window c).credit log.limiter.limit

theorem summaries_add_credit_perform (log : Logger) (c : Category) (r : Request) (rest : List Request) :
    summaries (about c (log.writes r)) + (log.perform r).credit c + raises (log.perform r).limiter.limit rest ≤
      log.credit c + raises log.limiter.limit (r :: rest) := by
  unfold credit
  rw [about_writes, window_perform, limit_perform, raises_cons]
  cases r with
  | offer d l text =>
    cases hwanted : log.wanted? c (.offer d l text) with
    | none => exact Nat.le_of_eq (by simp [summaries])
    | some text' =>
      have hpaid := Window.summaries_add_credit (log.window c) log.limiter.limit c text'
      exact Nat.add_le_add_right hpaid _
  | setLimit next =>
    have hraised := Window.credit_le_raised (log.window c) log.limiter.limit next
    simp only [wanted?, summaries, List.countP_nil]
    omega
  | setGlobal l | setLevel d l | reset => exact Nat.le_of_eq (by simp [wanted?, summaries])

theorem summaries_add_credit_play (log : Logger) (c : Category) (requests : List Request) :
    summaries (about c (log.transcript requests)) + (log.play requests).credit c ≤
      log.credit c + raises log.limiter.limit requests := by
  induction requests generalizing log with
  | nil => exact Nat.le_of_eq (Nat.zero_add _)
  | cons r rest ih =>
    have hstep := summaries_add_credit_perform log c r rest
    have hrest := ih (log.perform r)
    have hplay : log.play (r :: rest) = (log.perform r).play rest := rfl
    rw [about_transcript_cons, summaries_append, hplay]
    omega

/-- Within one second of a fresh logger, a category writes no more reports than one and the number of times that
the limit is raised. -/
theorem summaries_le_raises (start : Nat) (timed : List (Nat × Request)) (c : Category)
    (hin : ∀ e ∈ timed, start ≤ e.1 ∧ e.1 < start + second) :
    let requests := timed.map Prod.snd
    (Clocked.fresh.play timed).lines = (fresh.transcript requests).map Line.text ∧
      summaries (about c (fresh.transcript requests)) ≤ 1 + raises fresh.limiter.limit requests := by
  intro requests
  have hshows := Clocked.shows_play (Clocked.shows_fresh start) hin
  have hcredit : fresh.credit c = 1 := by cases c <;> rfl
  have hbound := summaries_add_credit_play fresh c requests
  rw [hcredit] at hbound
  exact ⟨hshows.lines.trans (lines_play fresh requests), Nat.le_trans (Nat.le_add_right ..) hbound⟩

/-- Two messages are refused at limit zero, then the limit is raised and a third one is let through. -/
def raisedLate : List (Nat × Request) :=
  [(0, .setGlobal .warn), (0, .setLimit 0), (1, .offer .cpu .warn fun _ => "first"),
    (2, .offer .cpu .warn fun _ => "second"), (3, .setLimit 1), (4, .offer .cpu .warn fun _ => "third")]

theorem raisedLate_summaries :
    (∀ e ∈ raisedLate, 0 ≤ e.1 ∧ e.1 < 0 + second) ∧
      (Clocked.fresh.play raisedLate).lines = (fresh.transcript (raisedLate.map Prod.snd)).map Line.text ∧
      summaries (about .cpu (fresh.transcript (raisedLate.map Prod.snd))) ≤
        1 + raises fresh.limiter.limit (raisedLate.map Prod.snd) := by
  have hin : ∀ e ∈ raisedLate, 0 ≤ e.1 ∧ e.1 < 0 + second := by decide
  exact ⟨hin, summaries_le_raises 0 raisedLate .cpu hin⟩

/-- One report a second is not all that a category writes: the second message that was refused is reported too,
before the third one. -/
theorem raised_limit_reports_again :
    ¬ ∀ (start : Nat) (timed : List (Nat × Request)) (c : Category),
      (∀ e ∈ timed, start ≤ e.1 ∧ e.1 < start + second) →
        summaries (about c (fresh.transcript (timed.map Prod.snd))) ≤ 1 := by
  intro h
  have hone := h 0 raisedLate .cpu (by decide)
  have htwo : summaries (about .cpu (fresh.transcript (raisedLate.map Prod.snd))) = 2 := by decide
  omega

end Logger

end Chip8.Log
