import Chip8.Event
import Chip8.Proofs.Log.Accounting

namespace Chip8.Log

namespace Filter

def select (f : Filter) (events : List Event) : List Event :=
  events.filter fun e => f.wants e.category e.level

variable {f : Filter} {e : Event}

theorem select_cons_of_wanted (h : f.wants e.category e.level = true) (rest : List Event) :
    f.select (e :: rest) = e :: f.select rest := List.filter_cons_of_pos h

theorem select_cons_of_unwanted (h : f.wants e.category e.level = false) (rest : List Event) :
    f.select (e :: rest) = f.select rest := by
  refine List.filter_cons_of_neg ?_
  rw [h]
  exact Bool.false_ne_true

theorem select_cons (f : Filter) (e : Event) (rest : List Event) :
    f.select (e :: rest) = f.select [e] ++ f.select rest :=
  List.filter_append [e] rest

theorem wants_silent (c : Category) (l : Level) : silent.wants c l = false := by
  cases c <;> cases l <;> rfl

end Filter

namespace Logger

variable {log : Logger} {e : Event} {events rest : List Event}

def listen (log : Logger) (e : Event) : Logger := log.perform (.offer e.category e.level fun _ => e.text)

theorem listen_of_unwanted (h : log.filter.wants e.category e.level = false) : log.listen e = log := by
  simp only [listen, perform, offer_of_unwanted h]

theorem filter_listen (log : Logger) (e : Event) : (log.listen e).filter = log.filter :=
  filter_offer log e.category e.level _

theorem tell_silent (h : log.filter = .silent) (events : List Event) : log.tell events = log := by
  induction events generalizing log with
  | nil => rfl
  | cons e rest ih =>
    have hunwanted : log.filter.wants e.category e.level = false := by
      rw [h]
      exact Filter.wants_silent e.category e.level
    change (log.listen e).tell rest = log
    rw [listen_of_unwanted hunwanted, ih h]

/-- Not to make events that nobody wants makes no difference. -/
theorem hear_eq_foldl (log : Logger) (events : List Event) :
    (log.hear fun _ => events) = events.foldl listen log := by
  unfold hear
  split
  next h => exact (tell_silent h events).symm
  next => rfl

/-- How many of the events are of a category and wanted. -/
def wanted (log : Logger) (c : Category) (events : List Event) : Nat :=
  (log.filter.select events).countP fun e => decide (e.category = c)

/-- No category reaches the limit: where something is wanted, nothing is pending and there is room for all. -/
def HasRoom (log : Logger) (events : List Event) : Prop :=
  ∀ c, log.wanted c events ≠ 0 →
    (log.window c).pending = 0 ∧ (log.window c).admitted + log.wanted c events ≤ log.limiter.limit

theorem mem_all (c : Category) : c ∈ Category.all := by cases c <;> decide

instance (log : Logger) (events : List Event) : Decidable (log.HasRoom events) :=
  decidable_of_iff
    (∀ c ∈ Category.all, log.wanted c events ≠ 0 →
      (log.window c).pending = 0 ∧ (log.window c).admitted + log.wanted c events ≤ log.limiter.limit)
    ⟨fun h c => h c (mem_all c), fun h c _ => h c⟩

theorem wanted_listen (log : Logger) (e : Event) (c : Category) (events : List Event) :
    (log.listen e).wanted c events = log.wanted c events := by
  unfold wanted
  rw [filter_listen]

section Wanted

variable (hw : log.filter.wants e.category e.level = true)

include hw

theorem wanted_cons (c : Category) (rest : List Event) :
    log.wanted c (e :: rest) = log.wanted c rest + if e.category = c then 1 else 0 := by
  unfold wanted
  rw [Filter.select_cons_of_wanted hw, List.countP_cons]
  simp only [decide_eq_true_eq]

theorem window_listen (c : Category) :
    (log.listen e).window c =
      if e.category = c then ((log.window c).ask log.limiter.limit).1 else log.window c := by
  unfold listen
  rw [window_perform]
  by_cases hc : e.category = c
  · subst hc
    simp only [wanted?, hw, and_self, if_true]
  · simp only [wanted?, hc, false_and, if_false]

theorem lines_listen (hp : (log.window e.category).pending = 0)
    (hroom : (log.window e.category).admitted < log.limiter.limit) :
    (log.listen e).lines = log.lines ++ [e.text] := by
  have hlines := lines_perform log (.offer e.category e.level fun _ => e.text)
  have hwrites : log.writes (.offer e.category e.level fun _ => e.text) =
      (log.verdict e.category).lines e.category fun _ => e.text := if_pos hw
  rw [hwrites, verdict, Window.ask_of_room hroom, if_pos hp] at hlines
  exact hlines

end Wanted

/-- Where there is room, an event is written exactly if it is wanted, and there is room for the rest. -/
theorem HasRoom.listen (h : log.HasRoom (e :: rest)) :
    (log.listen e).HasRoom rest ∧
      (log.listen e).lines = log.lines ++ (log.filter.select [e]).map Event.text := by
  cases hw : log.filter.wants e.category e.level with
  | false =>
    unfold HasRoom wanted at h
    rw [Filter.select_cons_of_unwanted hw] at h
    rw [listen_of_unwanted hw, Filter.select_cons_of_unwanted hw]
    exact ⟨h, (List.append_nil _).symm⟩
  | true =>
    have hlimit : (log.listen e).limiter.limit = log.limiter.limit := limit_perform log _
    have hown := wanted_cons hw e.category rest
    rw [if_pos rfl] at hown
    obtain ⟨hp, hfits⟩ := h e.category (by omega)
    have hroom : (log.window e.category).admitted < log.limiter.limit := by omega
    refine ⟨fun c hc => ?_, ?_⟩
    · rw [wanted_listen] at hc ⊢
      rw [hlimit, window_listen hw]
      by_cases hsame : e.category = c
      · subst hsame
        rw [if_pos rfl, Window.ask_of_room hroom]
        dsimp only
        exact ⟨rfl, by omega⟩
      · have hother := wanted_cons hw c rest
        rw [if_neg hsame, Nat.add_zero] at hother
        rw [if_neg hsame, ← hother]
        exact h c (by omega)
    · rw [Filter.select_cons_of_wanted hw]
      exact lines_listen hw hp hroom

/-- Events within one second, where no category reaches the limit: what the filter selects is written. -/
theorem lines_tell (h : log.HasRoom events) :
    (events.foldl listen log).lines = log.lines ++ (log.filter.select events).map Event.text := by
  induction events generalizing log with
  | nil => exact (List.append_nil _).symm
  | cons e rest ih =>
    obtain ⟨hroom, hline⟩ := h.listen
    rw [List.foldl_cons, ih hroom, hline, filter_listen, log.filter.select_cons e rest,
      List.map_append, List.append_assoc]

end Logger

/-- Nothing is pending, and fewer messages than the limit were let through in the second before `now`. -/
def Slide.Free (s : Slide) (now limit : Nat) : Prop :=
  s.dropped = 0 ∧ (s.stamps.dropWhile fun stamp => decide (second < now - stamp)).length < limit

instance (s : Slide) (now limit : Nat) : Decidable (s.Free now limit) := inferInstanceAs (Decidable (_ ∧ _))

theorem Slide.ask_of_free {s : Slide} {now limit : Nat} (h : s.Free now limit) :
    (s.ask now limit).2 = ⟨true, none⟩ := by
  unfold ask
  dsimp only
  rw [if_pos h.2, if_pos h.1]

namespace Clocked

variable {k : Clocked} {clock : Nat → Nat} {e : Event} {events : List Event}

/-- Offers one event at a reading of the clock; the next event comes at the next reading. -/
def listen (clock : Nat → Nat) (s : Clocked × Nat) (e : Event) : Clocked × Nat :=
  ((s.1.offer (clock s.2) e.category e.level fun _ => e.text).1, s.2 + 1)

/-- Whatever is wanted of the events finds its category free at its instant. -/
def NeverFull (clock : Nat → Nat) : Clocked × Nat → List Event → Prop
  | _, [] => True
  | s, e :: rest =>
    (s.1.filter.wants e.category e.level = true → (s.1.slides.get e.category).Free (clock s.2) s.1.limit) ∧
      NeverFull clock (listen clock s e) rest

instance decidableNeverFull (clock : Nat → Nat) (s : Clocked × Nat) (events : List Event) :
    Decidable (NeverFull clock s events) :=
  match events with
  | [] => inferInstanceAs (Decidable True)
  | e :: rest =>
    have := decidableNeverFull clock (listen clock s e) rest
    inferInstanceAs (Decidable (_ ∧ _))

theorem filter_offer (k : Clocked) (now : Nat) (c : Category) (l : Level) (text : Unit → String) :
    (k.offer now c l text).1.filter = k.filter := by
  unfold offer
  split <;> rfl

theorem lines_offer (k : Clocked) (now : Nat) (e : Event)
    (h : k.filter.wants e.category e.level = true → (k.slides.get e.category).Free now k.limit) :
    (k.offer now e.category e.level fun _ => e.text).1.lines =
      k.lines ++ (k.filter.select [e]).map Event.text := by
  unfold offer
  cases hw : k.filter.wants e.category e.level with
  | false =>
    rw [Filter.select_cons_of_unwanted hw]
    exact (List.append_nil _).symm
  | true =>
    rw [if_pos rfl, Filter.select_cons_of_wanted hw]
    dsimp only
    rw [Slide.ask_of_free (h hw)]
    exact List.reverse_cons

/-- Events at any instants, where no category is full when something of it is wanted: what the filter selects is
written. -/
theorem lines_listen (tick : Nat) (h : NeverFull clock (k, tick) events) :
    (events.foldl (listen clock) (k, tick)).1.lines =
      k.lines ++ (k.filter.select events).map Event.text := by
  induction events generalizing k tick with
  | nil => exact (List.append_nil _).symm
  | cons e rest ih =>
    obtain ⟨hfree, hrest⟩ := h
    have hline := lines_offer k (clock tick) e hfree
    have hlater := ih (tick + 1) hrest
    rw [filter_offer, hline] at hlater
    rw [List.foldl_cons, k.filter.select_cons e rest, List.map_append, ← List.append_assoc]
    exact hlater

end Clocked

end Chip8.Log
