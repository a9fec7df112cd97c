import Chip8.Proofs.Log.Transcript

namespace Chip8.Log

def second : Nat := 1000000000

/-- What happened to one category and when. -/
structure Slide where
  /-- When messages were let through, the oldest first. -/
  stamps : List Nat
  dropped : Nat
  lastReport : Option Nat

namespace Slide

def fresh : Slide := ⟨[], 0, none⟩

/-- Asks for one message under a limit at an instant. -/
def ask (s : Slide) (now limit : Nat) : Slide × Verdict :=
  let stamps := s.stamps.dropWhile fun stamp => decide (second < now - stamp)
  if stamps.length < limit then
    if s.dropped = 0 then (⟨stamps ++ [now], 0, s.lastReport⟩, ⟨true, none⟩)
    else (⟨stamps ++ [now], 0, some now⟩, ⟨true, some s.dropped⟩)
  else if s.lastReport.all fun last => decide (second ≤ now - last) then
    (⟨stamps, 0, some now⟩, ⟨false, some (s.dropped + 1)⟩)
  else (⟨stamps, s.dropped + 1, s.lastReport⟩, ⟨false, none⟩)

/-- A window shows what happened since an instant, if nothing happened before. -/
structure Shows (start : Nat) (s : Slide) (w : Window) : Prop where
  stamps : ∀ stamp ∈ s.stamps, start ≤ stamp
  lastReport : ∀ last ∈ s.lastReport, start ≤ last
  admitted : s.stamps.length = w.admitted
  pending : s.dropped = w.pending
  reported : s.lastReport.isSome = w.reported

theorem shows_fresh (start : Nat) : fresh.Shows start .fresh := by
  constructor
  case stamps => exact fun stamp hstamp => nomatch hstamp
  case lastReport => exact fun last hlast => nomatch hlast
  case admitted => rfl
  case pending => rfl
  case reported => rfl

section Asking

variable {start now : Nat} {s : Slide} {w : Window}

theorem dropWhile_stamps (h : ∀ stamp ∈ s.stamps, start ≤ stamp) (hnow : now < start + second) :
    (s.stamps.dropWhile fun stamp => decide (second < now - stamp)) = s.stamps := by
  cases hs : s.stamps with
  | nil => rfl
  | cons stamp rest =>
    have hstamp : start ≤ stamp := h stamp (by rw [hs]; exact List.mem_cons_self)
    have hyoung : ¬ second < now - stamp := by omega
    rw [List.dropWhile_cons, if_neg]
    simp only [hyoung, decide_false, Bool.false_eq_true, not_false_eq_true]

theorem reportDue_iff (h : ∀ last ∈ s.lastReport, start ≤ last) (hnow : now < start + second) :
    (s.lastReport.all fun last => decide (second ≤ now - last)) = !s.lastReport.isSome := by
  cases hs : s.lastReport with
  | none => rfl
  | some last =>
    have hlast : start ≤ last := h last hs
    have hyoung : ¬ second ≤ now - last := by
      unfold second at hnow ⊢
      omega
    simp only [Option.all_some, hyoung, decide_false, Option.isSome_some, Bool.not_true]

theorem shows_ask (h : s.Shows start w) (hstart : start ≤ now) (hnow : now < start + second) (limit : Nat) :
    (s.ask now limit).1.Shows start (w.ask limit).1 ∧ (s.ask now limit).2 = (w.ask limit).2 := by
  obtain ⟨hstamps, hlast, hadmitted, hpending, hreported⟩ := h
  have hstamps' : ∀ stamp ∈ s.stamps ++ [now], start ≤ stamp := by
    intro stamp hstamp
    rcases List.mem_append.mp hstamp with hstamp | hstamp
    · exact hstamps stamp hstamp
    · exact List.mem_singleton.mp hstamp ▸ hstart
  have hlength : (s.stamps ++ [now]).length = w.admitted + 1 := by
    rw [List.length_append, hadmitted, List.length_singleton]
  have hlast' : ∀ last ∈ some now, start ≤ last := by
    rintro last ⟨⟩
    exact hstart
  unfold ask Window.ask
  dsimp only
  rw [dropWhile_stamps hstamps hnow, reportDue_iff hlast hnow, hadmitted, hpending, hreported]
  by_cases hlimit : w.admitted < limit
  · rw [if_pos hlimit, if_pos hlimit]
    by_cases hp : w.pending = 0
    · rw [if_pos hp, if_pos hp]
      exact ⟨⟨hstamps', hlast, hlength, hp.symm, hreported⟩, rfl⟩
    · rw [if_neg hp, if_neg hp]
      exact ⟨⟨hstamps', hlast', hlength, rfl, rfl⟩, rfl⟩
  · rw [if_neg hlimit, if_neg hlimit]
    cases hr : w.reported with
    | true => exact ⟨⟨hstamps, hlast, hadmitted, rfl, hreported.trans hr⟩, rfl⟩
    | false => exact ⟨⟨hstamps, hlast', hadmitted, rfl, rfl⟩, rfl⟩

end Asking

end Slide

/-- A logger that reads a clock. -/
structure Clocked where
  filter : Filter
  limit : Nat
  slides : PerCategory Slide
  written : List String

namespace Clocked

def fresh : Clocked := ⟨.silent, 60, .const .fresh, []⟩

def lines (k : Clocked) : List String := k.written.reverse

/-- Offers a message at an instant; also says whether its text was made. -/
def offer (k : Clocked) (now : Nat) (c : Category) (l : Level) (text : Unit → String) : Clocked × Bool :=
  if k.filter.wants c l then
    let (slide, verdict) := (k.slides.get c).ask now k.limit
    let lines := (verdict.lines c text).map Line.text
    ({ k with slides := k.slides.set c slide, written := lines.reverse ++ k.written }, verdict.admitted)
  else (k, false)

def perform (k : Clocked) (now : Nat) : Request → Clocked
  | .offer c l text => (k.offer now c l text).1
  | .setGlobal l => { k with filter := { k.filter with global := l } }
  | .setLevel c l => { k with filter := k.filter.setLevel c l }
  | .setLimit limit => { k with limit := limit }
  | .reset => { k with filter := .silent }

def play (k : Clocked) (timed : List (Nat × Request)) : Clocked := timed.foldl (fun k e => k.perform e.1 e.2) k

/-- The logger without a clock stands for the one with a clock, if nothing happened before an instant. -/
structure Shows (start : Nat) (k : Clocked) (log : Logger) : Prop where
  filter : k.filter = log.filter
  limit : k.limit = log.limiter.limit
  slides : ∀ c, (k.slides.get c).Shows start (log.window c)
  written : k.written = log.written

section Shown

variable {start now : Nat} {k : Clocked} {log : Logger}

theorem shows_fresh (start : Nat) : fresh.Shows start .fresh := by
  constructor
  case filter => rfl
  case limit => rfl
  case slides =>
    intro c
    cases c <;> exact Slide.shows_fresh start
  case written => rfl

theorem shows_offer (h : k.Shows start log) (hstart : start ≤ now) (hnow : now < start + second) (c : Category)
    (l : Level) (text : Unit → String) :
    (k.offer now c l text).1.Shows start (log.offer c l text).1 ∧
      (k.offer now c l text).2 = (log.offer c l text).2 := by
  have hfilter := h.filter
  unfold offer
  rw [hfilter]
  cases hw : log.filter.wants c l with
  | false =>
    rw [Logger.offer_of_unwanted hw]
    exact ⟨h, rfl⟩
  | true =>
    have hlimit := h.limit
    obtain ⟨hslide, hverdict⟩ := Slide.shows_ask (h.slides c) hstart hnow log.limiter.limit
    have hsame : ((k.slides.get c).ask now k.limit).2 = log.verdict c := by
      rw [hlimit]
      exact hverdict
    rw [Logger.offer_of_wanted hw, if_pos rfl]
    dsimp only
    rw [hsame]
    refine ⟨?_, rfl⟩
    constructor
    case filter => rfl
    case limit => exact hlimit
    case slides =>
      intro d
      by_cases hd : c = d
      · subst hd
        rw [PerCategory.get_set_self, hlimit]
        change Slide.Shows start _ (PerCategory.get (PerCategory.set ..) c)
        rw [PerCategory.get_set_self]
        exact hslide
      · rw [PerCategory.get_set_ne _ hd]
        change Slide.Shows start _ (PerCategory.get (PerCategory.set ..) d)
        rw [PerCategory.get_set_ne _ hd]
        exact h.slides d
    case written => rw [h.written]

theorem shows_perform (h : k.Shows start log) (hstart : start ≤ now) (hnow : now < start + second) (r : Request) :
    (k.perform now r).Shows start (log.perform r) := by
  cases r with
  | offer c l text => exact (shows_offer h hstart hnow c l text).1
  | setGlobal l =>
    refine ⟨?_, h.limit, h.slides, h.written⟩
    change ({ k.filter with global := l } : Filter) = { log.filter with global := l }
    rw [h.filter]
  | setLevel c l =>
    refine ⟨?_, h.limit, h.slides, h.written⟩
    change k.filter.setLevel c l = log.filter.setLevel c l
    rw [h.filter]
  | setLimit limit => exact ⟨h.filter, rfl, h.slides, h.written⟩
  | reset => exact ⟨rfl, h.limit, h.slides, h.written⟩

/-- Within one second the clock makes no difference. -/
theorem shows_play (h : k.Shows start log) {timed : List (Nat × Request)}
    (hin : ∀ e ∈ timed, start ≤ e.1 ∧ e.1 < start + second) :
    (k.play timed).Shows start (log.play (timed.map Prod.snd)) := by
  induction timed generalizing k log with
  | nil => exact h
  | cons e rest ih =>
    obtain ⟨hstart, hnow⟩ := hin e List.mem_cons_self
    have hstep := shows_perform h hstart hnow e.2
    exact ih hstep fun e he => hin e (List.mem_cons_of_mem _ he)

theorem Shows.lines (h : k.Shows start log) : k.lines = log.lines := congrArg List.reverse h.written

end Shown

end Clocked

end Chip8.Log
