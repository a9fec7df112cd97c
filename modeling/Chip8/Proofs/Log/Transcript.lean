import Chip8.Log.Logger

namespace Chip8.Log

/-- Something that a logger is asked to do. -/
inductive Request where
  | offer (c : Category) (l : Level) (text : Unit → String)
  | setGlobal (l : Level)
  | setLevel (c : Category) (l : Level)
  | setLimit (limit : Nat)
  | reset

/-- Whether a request is about a category: a message of it, its level, or what is set for all of them. -/
def Request.concerns (c : Category) : Request → Bool
  | .offer d _ _ | .setLevel d _ => decide (d = c)
  | .setGlobal _ | .setLimit _ | .reset => true

/-- A line of the log, as data. -/
inductive Line where
  /-- So many messages of the category were dropped. -/
  | summary (c : Category) (dropped : Nat)
  | message (c : Category) (text : String)

namespace Line

def category : Line → Category
  | .summary c _ | .message c _ => c

def text : Line → String
  | .summary c dropped => Logger.summary c dropped
  | .message _ text => text

end Line

/-- The lines of one category. -/
def about (c : Category) (lines : List Line) : List Line := lines.filter fun line => decide (line.category = c)

/-- What a verdict on a message writes: the report that is due, then the message if it is let through. -/
def Verdict.lines (v : Verdict) (c : Category) (text : Unit → String) : List Line :=
  (v.report.map (Line.summary c)).toList ++ if v.admitted then [.message c (text ())] else []

/-- What a category sees of a logger. -/
structure View where
  limit : Nat
  global : Level
  level : Level
  window : Window
  deriving DecidableEq

namespace Logger

variable {log other : Logger} {c d : Category} {l : Level}

def perform (log : Logger) : Request → Logger
  | .offer c l text => (log.offer c l text).1
  | .setGlobal l => log.setGlobal l
  | .setLevel c l => log.setLevel c l
  | .setLimit limit => log.setLimit limit
  | .reset => log.reset

def play (log : Logger) (requests : List Request) : Logger := requests.foldl perform log

def window (log : Logger) (c : Category) : Window := log.limiter.windows.get c

/-- What the limiter says to the next message of a category. -/
def verdict (log : Logger) (c : Category) : Verdict := ((log.window c).ask log.limiter.limit).2

def view (log : Logger) (c : Category) : View :=
  ⟨log.limiter.limit, log.filter.global, log.filter.levels.get c, log.window c⟩

/-- The text of a message, if the request is one of this category and it is wanted. -/
def wanted? (log : Logger) (c : Category) : Request → Option (Unit → String)
  | .offer d l text => if d = c ∧ log.filter.wants d l then some text else none
  | _ => none

def writes (log : Logger) : Request → List Line
  | .offer c l text => if log.filter.wants c l then (log.verdict c).lines c text else []
  | _ => []

/-- What requests write one after the other. -/
def transcript (log : Logger) : List Request → List Line
  | [] => []
  | r :: rest => log.writes r ++ (log.perform r).transcript rest

/-- How many wanted messages of a category are among the requests. -/
def asked (c : Category) (log : Logger) : List Request → Nat
  | [] => 0
  | r :: rest => (log.wanted? c r).toList.length + (log.perform r).asked c rest

theorem offer_of_unwanted (h : log.filter.wants c l = false) (text : Unit → String) :
    log.offer c l text = (log, false) := by
  simp [offer, h]

theorem offer_of_wanted (h : log.filter.wants c l = true) (text : Unit → String) :
    log.offer c l text =
      ({ log with
          limiter := (log.limiter.ask c).1
          written := (((log.verdict c).lines c text).map Line.text).reverse ++ log.written },
        (log.verdict c).admitted) := by
  have hverdict : (log.limiter.ask c).2 = log.verdict c := rfl
  unfold offer
  rw [if_pos h]
  dsimp only
  rw [hverdict]
  cases log.verdict c with
  | mk admitted report => cases admitted <;> cases report <;> rfl

theorem lines_perform (log : Logger) (r : Request) :
    (log.perform r).lines = log.lines ++ (log.writes r).map Line.text := by
  cases r with
  | offer c l text =>
    cases hw : log.filter.wants c l with
    | false => simp [perform, offer_of_unwanted hw, writes, hw]
    | true => simp [perform, offer_of_wanted hw, writes, hw, lines]
  | setGlobal l | setLevel c l | setLimit limit | reset => simp [perform, writes, lines, setGlobal,
      setLevel, setLimit, reset]

/-- The texts of the lines that a history writes are what the logger writes. -/
theorem lines_play (log : Logger) (requests : List Request) :
    (log.play requests).lines = log.lines ++ (log.transcript requests).map Line.text := by
  induction requests generalizing log with
  | nil => simp [play, transcript]
  | cons r rest ih =>
    have hrest := ih (log.perform r)
    change ((log.perform r).play rest).lines = _
    rw [hrest, lines_perform, transcript, List.map_append, List.append_assoc]

theorem window_perform (log : Logger) (c : Category) (r : Request) :
    (log.perform r).window c =
      match log.wanted? c r with
      | some _ => ((log.window c).ask log.limiter.limit).1
      | none => log.window c := by
  cases r with
  | offer d l text =>
    cases hw : log.filter.wants d l with
    | false => simp [perform, offer_of_unwanted hw, wanted?, hw]
    | true =>
      simp only [perform, offer_of_wanted hw, wanted?, hw, and_true]
      by_cases hd : d = c
      · subst hd
        rw [if_pos rfl]
        exact PerCategory.get_set_self _ _ _
      · rw [if_neg hd]
        exact PerCategory.get_set_ne _ hd _
  | setGlobal l | setLevel d l | setLimit limit | reset => rfl

theorem category_of_mem_lines {v : Verdict} {text : Unit → String} {line : Line}
    (h : line ∈ v.lines c text) : line.category = c := by
  unfold Verdict.lines at h
  rcases List.mem_append.mp h with h | h
  · obtain ⟨dropped, -, rfl⟩ := Option.map_eq_some_iff.mp (Option.mem_toList.mp h)
    rfl
  · split at h
    · cases List.mem_singleton.mp h
      rfl
    · cases h

/-- A request writes lines of one category only if it is a wanted message of it. -/
theorem about_writes (log : Logger) (c : Category) (r : Request) :
    about c (log.writes r) =
      match log.wanted? c r with
      | some text => (log.verdict c).lines c text
      | none => [] := by
  cases r with
  | offer d l text =>
    cases hw : log.filter.wants d l with
    | false => simp [writes, wanted?, hw, about]
    | true =>
      simp only [writes, wanted?, hw, if_true, and_true]
      by_cases hd : d = c
      · subst hd
        rw [if_pos rfl]
        apply List.filter_eq_self.mpr
        intro line hline
        exact decide_eq_true (category_of_mem_lines hline)
      · rw [if_neg hd]
        apply List.filter_eq_nil_iff.mpr
        intro line hline
        rw [category_of_mem_lines hline]
        simp [hd]
  | setGlobal l | setLevel d l | setLimit limit | reset => rfl

theorem limit_perform (log : Logger) (r : Request) :
    (log.perform r).limiter.limit =
      match r with
      | .setLimit limit => limit
      | _ => log.limiter.limit := by
  cases r with
  | offer c l text =>
    cases hw : log.filter.wants c l with
    | false => simp only [perform, offer_of_unwanted hw]
    | true =>
      simp only [perform, offer_of_wanted hw]
      rfl
  | setGlobal l | setLevel c l | setLimit limit | reset => rfl

theorem filter_offer (log : Logger) (c : Category) (l : Level) (text : Unit → String) :
    (log.offer c l text).1.filter = log.filter := by
  cases hw : log.filter.wants c l with
  | false => rw [offer_of_unwanted hw]
  | true => rw [offer_of_wanted hw]

section Views

variable (h : log.view c = other.view c)

include h

theorem wants_of_view (l : Level) : log.filter.wants c l = other.filter.wants c l := by
  obtain ⟨-, hglobal, hlevel, -⟩ := View.mk.inj h
  unfold Filter.wants Filter.effective
  rw [hglobal, hlevel]

theorem wanted?_of_view (r : Request) : log.wanted? c r = other.wanted? c r := by
  cases r with
  | offer d l text =>
    by_cases hd : d = c
    · subst hd
      simp only [wanted?, wants_of_view h l]
    · simp only [wanted?, hd, false_and, if_false]
  | setGlobal l | setLevel d l | setLimit limit | reset => rfl

theorem ask_of_view :
    (log.window c).ask log.limiter.limit = (other.window c).ask other.limiter.limit := by
  obtain ⟨hlimit, -, -, hwindow⟩ := View.mk.inj h
  rw [hlimit, hwindow]

theorem about_writes_of_view (r : Request) : about c (log.writes r) = about c (other.writes r) := by
  have hverdict : log.verdict c = other.verdict c := congrArg Prod.snd (ask_of_view h)
  rw [about_writes, about_writes, wanted?_of_view h, hverdict]

/-- What a category sees next hangs on what it sees now. -/
theorem view_perform_of_view (r : Request) : (log.perform r).view c = (other.perform r).view c := by
  obtain ⟨hlimit, hglobal, hlevel, hwindow⟩ := View.mk.inj h
  have hwindow' : (log.perform r).window c = (other.perform r).window c := by
    rw [window_perform, window_perform, wanted?_of_view h, ask_of_view h, hwindow]
  have hlimit' : (log.perform r).limiter.limit = (other.perform r).limiter.limit := by
    rw [limit_perform, limit_perform, hlimit]
  have hfilter : (log.perform r).filter.global = (other.perform r).filter.global ∧
      (log.perform r).filter.levels.get c = (other.perform r).filter.levels.get c := by
    cases r with
    | offer d l text =>
      simp only [perform, filter_offer]
      exact ⟨hglobal, hlevel⟩
    | setGlobal l => exact ⟨rfl, hlevel⟩
    | setLevel d l =>
      refine ⟨hglobal, ?_⟩
      by_cases hd : d = c
      · subst hd
        exact (PerCategory.get_set_self _ _ _).trans (PerCategory.get_set_self _ _ _).symm
      · exact (PerCategory.get_set_ne _ hd _).trans (hlevel.trans (PerCategory.get_set_ne _ hd _).symm)
    | setLimit limit => exact ⟨hglobal, hlevel⟩
    | reset => exact ⟨rfl, rfl⟩
  rw [view, view, hlimit', hfilter.1, hfilter.2, hwindow']

end Views

section Unconcerned

variable {r : Request} (hr : r.concerns c = false)

include hr

theorem wanted?_of_unconcerned (log : Logger) : log.wanted? c r = none := by
  cases r with
  | offer d l text =>
    have hd : d ≠ c := of_decide_eq_false hr
    simp only [wanted?, hd, false_and, if_false]
  | setGlobal l | setLevel d l | setLimit limit | reset => rfl

theorem view_perform_of_unconcerned (log : Logger) : (log.perform r).view c = log.view c := by
  have hwindow : (log.perform r).window c = log.window c := by
    rw [window_perform, wanted?_of_unconcerned hr]
  cases r with
  | offer d l text =>
    have hlimit : (log.perform (.offer d l text)).limiter.limit = log.limiter.limit := limit_perform log _
    have hfilter : (log.perform (.offer d l text)).filter = log.filter := filter_offer log d l text
    simp only [view, hwindow, hlimit, hfilter]
  | setLevel d l =>
    have hd : d ≠ c := of_decide_eq_false hr
    have hlevel : (log.perform (.setLevel d l)).filter.levels.get c = log.filter.levels.get c :=
      PerCategory.get_set_ne _ hd l
    simp only [view, hwindow, hlevel]
    rfl
  | setGlobal l | setLimit limit | reset => cases hr

end Unconcerned

theorem about_transcript_cons (log : Logger) (c : Category) (r : Request) (rest : List Request) :
    about c (log.transcript (r :: rest)) = about c (log.writes r) ++ about c ((log.perform r).transcript rest) :=
  List.filter_append ..

/-- A category sees and writes the same if the requests that do not concern it are left out. -/
theorem transcript_of_filter (h : log.view c = other.view c) (requests : List Request) :
    let own := requests.filter (·.concerns c)
    (log.play requests).view c = (other.play own).view c ∧
      about c (log.transcript requests) = about c (other.transcript own) ∧
      log.asked c requests = other.asked c own := by
  induction requests generalizing log other with
  | nil => exact ⟨h, rfl, rfl⟩
  | cons r rest ih =>
    cases hr : r.concerns c with
    | true =>
      obtain ⟨hview, hlines, hasked⟩ := ih (view_perform_of_view h r)
      rw [List.filter_cons_of_pos hr]
      refine ⟨hview, ?_, ?_⟩
      · rw [about_transcript_cons, about_transcript_cons, about_writes_of_view h r, hlines]
      · rw [asked, asked, wanted?_of_view h, hasked]
    | false =>
      have hnone := wanted?_of_unconcerned hr log
      have hwrites : about c (log.writes r) = [] := by rw [about_writes, hnone]
      obtain ⟨hview, hlines, hasked⟩ := ih ((view_perform_of_unconcerned hr log).trans h)
      have hneg : ¬ r.concerns c = true := by simp [hr]
      rw [List.filter_cons_of_neg hneg]
      refine ⟨hview, ?_, ?_⟩
      · rw [about_transcript_cons, hwrites, hlines, List.nil_append]
      · rw [asked, hnone, hasked]
        exact Nat.zero_add _

end Logger

end Chip8.Log
