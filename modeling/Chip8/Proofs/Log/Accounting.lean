import Chip8.Proofs.Log.Clock

namespace Chip8.Log

namespace Line

/-- The number of dropped messages that a line reports. -/
def dropped : Line → Nat
  | .summary _ dropped => dropped
  | .message _ _ => 0

def isSummary : Line → Bool
  | .summary _ _ => true
  | .message _ _ => false

end Line

/-- How many of the lines are messages. -/
def messages (lines : List Line) : Nat := lines.countP (!·.isSummary)

/-- How many of the lines are reports. -/
def summaries (lines : List Line) : Nat := lines.countP (·.isSummary)

/-- How many dropped messages the lines report. -/
def reported (lines : List Line) : Nat := lines.foldr (fun line n => line.dropped + n) 0

@[simp]
theorem messages_append (front back : List Line) : messages (front ++ back) = messages front + messages back :=
  List.countP_append

@[simp]
theorem summaries_append (front back : List Line) :
    summaries (front ++ back) = summaries front + summaries back :=
  List.countP_append

@[simp]
theorem reported_append (front back : List Line) : reported (front ++ back) = reported front + reported back := by
  induction front with
  | nil => exact (Nat.zero_add _).symm
  | cons line front ih =>
    have hcons (lines : List Line) : reported (line :: lines) = line.dropped + reported lines := rfl
    rw [List.cons_append, hcons, hcons, ih, Nat.add_assoc]

section Verdicts

variable (v : Verdict) (c : Category) (text : Unit → String)

theorem messages_lines : messages (v.lines c text) = v.admitted.toNat := by
  cases v with
  | mk admitted report => cases admitted <;> cases report <;> rfl

theorem summaries_lines : summaries (v.lines c text) = if v.report.isSome then 1 else 0 := by
  cases v with
  | mk admitted report => cases admitted <;> cases report <;> rfl

theorem reported_lines : reported (v.lines c text) = v.report.getD 0 := by
  cases v with
  | mk admitted report => cases admitted <;> cases report <;> rfl

end Verdicts

section Windows

variable {w : Window} {limit : Nat}

theorem Window.ask_of_room (h : w.admitted < limit) :
    w.ask limit = (⟨w.admitted + 1, 0, w.reported || decide (0 < w.pending)⟩,
      ⟨true, if w.pending = 0 then none else some w.pending⟩) := by
  unfold ask
  rw [if_pos h]
  by_cases hp : w.pending = 0
  · simp [hp]
  · simp [hp, Nat.pos_of_ne_zero hp]

theorem Window.ask_of_full (h : limit ≤ w.admitted) :
    w.ask limit =
      if w.reported then ({ w with pending := w.pending + 1 }, ⟨false, none⟩)
      else (⟨w.admitted, 0, true⟩, ⟨false, some (w.pending + 1)⟩) :=
  if_neg (Nat.not_lt_of_le h)

end Windows

/-- The books of a category: its window, the number of its wanted messages and the lines about it. -/
structure Account (w : Window) (asked : Nat) (lines : List Line) : Prop where
  admitted : w.admitted = messages lines
  balance : messages lines + reported lines + w.pending = asked
  dropped : w.reported = true ↔ messages lines < asked

theorem account_fresh : Account .fresh 0 [] := by
  constructor
  case admitted => rfl
  case balance => rfl
  case dropped => simp [Window.fresh]

section Accounts

variable {w : Window} {asked : Nat} {lines : List Line}

/-- As long as nothing was refused, all messages were written. -/
theorem Account.eq_asked (h : Account w asked lines) (hr : w.reported = false) :
    messages lines = asked ∧ w.pending = 0 := by
  obtain ⟨-, hbalance, hdropped⟩ := h
  have hall : ¬ messages lines < asked := by
    rw [← hdropped, hr]
    exact Bool.false_ne_true
  constructor <;> omega

theorem account_append {v : Verdict} (hadmitted : w.admitted = messages lines + v.admitted.toNat)
    (hbalance : messages lines + v.admitted.toNat + (reported lines + v.report.getD 0) + w.pending = asked)
    (hdropped : w.reported = true ↔ messages lines + v.admitted.toNat < asked) (c : Category)
    (text : Unit → String) : Account w asked (lines ++ v.lines c text) := by
  constructor
  case admitted => rw [messages_append, messages_lines, hadmitted]
  case balance => rw [messages_append, reported_append, messages_lines, reported_lines, hbalance]
  case dropped => rw [messages_append, messages_lines, hdropped]

theorem account_ask (h : Account w asked lines) (limit : Nat) (c : Category) (text : Unit → String) :
    Account (w.ask limit).1 (asked + 1) (lines ++ (w.ask limit).2.lines c text) := by
  have hall := h.eq_asked
  obtain ⟨hadmitted, hbalance, hdropped⟩ := h
  by_cases hlimit : w.admitted < limit
  · rw [Window.ask_of_room hlimit]
    have hreport : (if w.pending = 0 then none else some w.pending).getD 0 = w.pending := by
      split <;> simp [*]
    -- what is pending was refused, and so is already in the balance
    have hpending : 0 < w.pending → messages lines < asked := by omega
    apply account_append
    case hadmitted => exact congrArg (· + 1) hadmitted
    case hbalance =>
      rw [hreport]
      dsimp only [Bool.toNat_true]
      omega
    case hdropped =>
      simp only [Bool.or_eq_true, decide_eq_true_eq, hdropped, Bool.toNat_true]
      omega
  · rw [Window.ask_of_full (Nat.le_of_not_lt hlimit)]
    cases hr : w.reported with
    | true =>
      have hrefused := hdropped.mp hr
      apply account_append
      case hadmitted => exact hadmitted
      case hbalance =>
        simp only [if_true, Bool.toNat_false, Option.getD_none]
        omega
      case hdropped => exact iff_of_true rfl (Nat.lt_succ_of_lt hrefused)
    | false =>
      obtain ⟨hwritten, hnone⟩ := hall hr
      apply account_append
      case hadmitted => exact hadmitted
      case hbalance =>
        simp only [Bool.false_eq_true, if_false, Bool.toNat_false, Option.getD_some]
        omega
      case hdropped => exact iff_of_true rfl (Nat.lt_succ_of_le (Nat.le_of_eq hwritten))

end Accounts

namespace Logger

variable {log other : Logger} {c : Category} {l : Level}

theorem account_perform {asked : Nat} {lines : List Line} (h : Account (log.window c) asked lines) (r : Request) :
    Account ((log.perform r).window c) (asked + (log.wanted? c r).toList.length)
      (lines ++ about c (log.writes r)) := by
  rw [window_perform, about_writes]
  cases log.wanted? c r with
  | none =>
    rw [List.append_nil]
    exact h
  | some text => exact account_ask h log.limiter.limit c text

theorem account_play {asked : Nat} {lines : List Line} (h : Account (log.window c) asked lines)
    (requests : List Request) :
    Account ((log.play requests).window c) (asked + log.asked c requests)
      (lines ++ about c (log.transcript requests)) := by
  induction requests generalizing log asked lines with
  | nil =>
    unfold about transcript
    rw [List.filter_nil, List.append_nil]
    exact h
  | cons r rest ih =>
    have hrest := ih (account_perform h r)
    rw [about_transcript_cons, Logger.asked, ← List.append_assoc, ← Nat.add_assoc]
    exact hrest

theorem account_of_fresh (requests : List Request) (c : Category) :
    Account ((fresh.play requests).window c) (fresh.asked c requests)
      (about c (fresh.transcript requests)) := by
  have hfresh : Account (fresh.window c) 0 [] := by
    cases c <;> exact account_fresh
  have h := account_play hfresh requests
  rwa [Nat.zero_add, List.nil_append] at h

/-- What a wanted message adds to the log, in terms of the books. -/
theorem offer_of_account {asked : Nat} {lines : List Line} (h : Account (log.window c) asked lines)
    (hw : log.filter.wants c l = true) (text : Unit → String) :
    let pending := (log.window c).pending
    let next := log.offer c l text
    (next.2 = true ↔ messages lines < log.limiter.limit) ∧
      next.1.lines = log.lines ++
        if messages lines < log.limiter.limit then
          (if pending = 0 then [] else [summary c pending]) ++ [text ()]
        else if messages lines = asked then [summary c 1] else [] := by
  have hall := h.eq_asked
  obtain ⟨hadmitted, -, hdropped⟩ := h
  have hlines := lines_perform log (.offer c l text)
  have hwrites : log.writes (.offer c l text) = (log.verdict c).lines c text := if_pos hw
  rw [hwrites] at hlines
  have hmade : (log.offer c l text).2 = (log.verdict c).admitted := by rw [offer_of_wanted hw]
  intro pending next
  have hnext : next.1.lines = log.lines ++ ((log.verdict c).lines c text).map Line.text := hlines
  rw [hnext, hmade, verdict, ← hadmitted]
  by_cases hlimit : (log.window c).admitted < log.limiter.limit
  · rw [Window.ask_of_room hlimit, if_pos hlimit]
    refine ⟨iff_of_true rfl hlimit, ?_⟩
    by_cases hp : pending = 0
    · have hp' : (log.window c).pending = 0 := hp
      rw [if_pos hp, if_pos hp']
      rfl
    · have hp' : ¬ (log.window c).pending = 0 := hp
      rw [if_neg hp, if_neg hp']
      rfl
  · rw [Window.ask_of_full (Nat.le_of_not_lt hlimit), if_neg hlimit]
    cases hr : (log.window c).reported with
    | true =>
      have hrefused := hdropped.mp hr
      rw [if_neg (by omega : ¬ (log.window c).admitted = asked)]
      exact ⟨iff_of_false Bool.false_ne_true hlimit, rfl⟩
    | false =>
      obtain ⟨hwritten, hnone⟩ := hall hr
      rw [if_pos (hadmitted.trans hwritten), hnone]
      exact ⟨iff_of_false Bool.false_ne_true hlimit, rfl⟩

theorem offer_of_refused (text : Unit → String) (h : (log.offer c l text).2 = false) (other : Unit → String) :
    log.offer c l other = log.offer c l text := by
  cases hw : log.filter.wants c l with
  | false => rw [offer_of_unwanted hw, offer_of_unwanted hw]
  | true =>
    rw [offer_of_wanted hw] at h ⊢
    rw [offer_of_wanted hw]
    have hrefused : (log.verdict c).admitted = false := h
    have hlines : (log.verdict c).lines c other = (log.verdict c).lines c text := by
      unfold Verdict.lines
      rw [hrefused]
      rfl
    rw [hlines]

/-- In every history from a fresh logger, and of every category, each wanted message is counted once, as written,
as reported or as pending. The next one is written exactly if fewer messages than the limit have been, with what
is pending reported before it, and the first one that is refused is reported at once. A report is a line that names
the category and the number. All this hangs on the requests that concern the category, and a clock would not
change it within one second. -/
theorem every_message_accounted (done : List Request) (c : Category) :
    let log := fresh.play done
    let lines := about c (fresh.transcript done)
    let asked := fresh.asked c done
    let pending := (log.window c).pending
    let report (d : Category) (dropped : Nat) : String :=
      "[" ++ d.name ++ "] WARNING: Rate limit exceeded, " ++ Nat.repr dropped ++
        " log message(s) dropped in the last second"
    [Category.cpu, .memory, .display, .timers, .input, .stubs].map Category.name =
        ["CPU", "Memory", "Display", "Timers", "Input", "Stubs"] ∧
      log.lines = (fresh.transcript done).map Line.text ∧
      (∀ d dropped, (Line.summary d dropped).text = report d dropped) ∧
      (∀ d text, (Line.message d text).text = text) ∧
      messages lines + reported lines + pending = asked ∧
      (∀ l text, log.filter.wants c l = false → log.offer c l text = (log, false)) ∧
      (∀ l text, log.filter.wants c l = true →
        ((log.offer c l text).2 = true ↔ messages lines < log.limiter.limit) ∧
          (log.offer c l text).1.lines = log.lines ++
            if messages lines < log.limiter.limit then
              (if pending = 0 then [] else [report c pending]) ++ [text ()]
            else if messages lines = asked then [report c 1] else []) ∧
      (∀ l text, (log.offer c l text).2 = false → ∀ other, log.offer c l other = log.offer c l text) ∧
      (∀ other : List Request, other.filter (·.concerns c) = done.filter (·.concerns c) →
        about c (fresh.transcript other) = lines ∧ fresh.asked c other = asked ∧
          (fresh.play other).view c = log.view c) ∧
      ∀ start timed, timed.map Prod.snd = done → (∀ e ∈ timed, start ≤ e.1 ∧ e.1 < start + second) →
        (Clocked.fresh.play timed).lines = log.lines ∧
          ∀ now l text, start ≤ now → now < start + second →
            ((Clocked.fresh.play timed).offer now c l text).2 = (log.offer c l text).2 ∧
              ((Clocked.fresh.play timed).offer now c l text).1.lines = (log.offer c l text).1.lines := by
  intro log lines asked pending report
  have haccount : Account (log.window c) asked lines := account_of_fresh done c
  refine ⟨rfl, lines_play fresh done, fun _ _ => rfl, fun _ _ => rfl, haccount.balance,
    fun l text hw => offer_of_unwanted hw text, fun l text hw => offer_of_account haccount hw text,
    fun l text => offer_of_refused text, ?_, ?_⟩
  · intro other hsame
    have hfresh : fresh.view c = fresh.view c := rfl
    obtain ⟨hview, hlines, hasked⟩ := transcript_of_filter hfresh done
    obtain ⟨hview', hlines', hasked'⟩ := transcript_of_filter hfresh other
    rw [hsame] at hview' hlines' hasked'
    exact ⟨hlines'.trans hlines.symm, hasked'.trans hasked.symm, hview'.trans hview.symm⟩
  · intro start timed htimed hin
    have hshows := Clocked.shows_play (Clocked.shows_fresh start) hin
    rw [htimed] at hshows
    refine ⟨hshows.lines, ?_⟩
    intro now l text hstart hnow
    obtain ⟨hnext, hmade⟩ := Clocked.shows_offer hshows hstart hnow c l text
    exact ⟨hmade, hnext.lines⟩

/-- A limit of one, a message of the processor that uses it up, and one of the keypad that does not count. -/
def crowd : List Request :=
  [.setGlobal .warn, .setLimit 1, .offer .cpu .error fun _ => "one", .offer .input .warn fun _ => "key"]

/-- Three more messages of the processor, and a higher limit. -/
def crush : List Request :=
  crowd ++ [.offer .cpu .warn fun _ => "two", .offer .cpu .warn fun _ => "three", .offer .cpu .warn fun _ => "four",
    .setLimit 2]

theorem crowded_messages_accounted :
    let refused := (fresh.play crowd).offer .cpu .warn fun _ => "two"
    let admitted := (fresh.play crush).offer .cpu .warn fun _ => "five"
    ((fresh.play crowd).filter.wants .cpu .warn = true ∧ refused.2 = false ∧
      refused.1.lines =
        ["one", "key", "[CPU] WARNING: Rate limit exceeded, 1 log message(s) dropped in the last second"]) ∧
      (fresh.play crush).filter.wants .cpu .warn = true ∧ admitted.2 = true ∧
      admitted.1.lines =
        ["one", "key", "[CPU] WARNING: Rate limit exceeded, 1 log message(s) dropped in the last second",
          "[CPU] WARNING: Rate limit exceeded, 2 log message(s) dropped in the last second", "five"] := by
  intro refused admitted
  have hwants : (fresh.play crowd).filter.wants .cpu .warn = true := rfl
  have hwants' : (fresh.play crush).filter.wants .cpu .warn = true := rfl
  obtain ⟨-, -, -, -, -, -, hfull, -⟩ := every_message_accounted crowd .cpu
  obtain ⟨-, -, -, -, -, -, hroom, -⟩ := every_message_accounted crush .cpu
  obtain ⟨hmade, hlines⟩ := hfull .warn (fun _ => "two") hwants
  obtain ⟨hmade', hlines'⟩ := hroom .warn (fun _ => "five") hwants'
  have hnone : refused.2 = false := by
    rw [Bool.eq_false_iff]
    exact fun h => absurd (hmade.mp h) (by decide)
  exact ⟨⟨hwants, hnone, hlines⟩, hwants', hmade'.mpr (by decide), hlines'⟩

end Logger

end Chip8.Log
