import Chip8.Proofs.Outcome
import Chip8.Session

namespace Chip8

open Log

def Effect.lasting : Effect → Bool
  | .show _ | .openLog _ | .save _ _ => true
  | .report _ | .record _ | .pause => false

def Effect.shown? : Effect → Option String
  | .show text => some text
  | _ => none

/-- The file and the text of an effect that saves. -/
def Effect.saved? : Effect → Option (String × String)
  | .save path text => some (path, text)
  | _ => none

def Outcome.stdout (out : Outcome) : String := String.join (out.effects.filterMap Effect.shown?)

/-- The files that a run saves to, each with the text that it is given. -/
def Outcome.saves (out : Outcome) : List (String × String) := out.effects.filterMap Effect.saved?

/-- A run that ends with a trouble says so by its exit code and its last reports. -/
def Outcome.FailsWith (out : Outcome) (t : Trouble) : Prop :=
  out.exit = 1 ∧ t.lines.map .report <:+ out.effects

theorem Effect.filterMap_lasting {α : Type} {f : Effect → Option α}
    (hf : ∀ e, e.lasting = false → f e = none) (effects : List Effect) :
    (effects.filter lasting).filterMap f = effects.filterMap f := by
  rw [List.filterMap_filter]
  congr 1
  funext e
  cases he : e.lasting with
  | false => exact (hf e he).symm
  | true => rfl

namespace Trouble

theorem lasting_lines (t : Trouble) : (t.lines.map Effect.report).filter Effect.lasting = [] := by
  rw [List.filter_eq_nil_iff]
  intro e he
  obtain ⟨line, -, rfl⟩ := List.mem_map.mp he
  exact Bool.false_ne_true

/-- The last lines of a report tell which trouble it is. -/
theorem eq_of_lines {t u : Trouble} {effects : List Effect} (ht : t.lines.map .report <:+ effects)
    (hu : u.lines.map .report <:+ effects) : t = u := by
  have hindented (a b : String) : "Error: " ++ a ≠ "    " ++ b := by
    intro h
    have hchars := congrArg String.toList h
    simp at hchars
  obtain ⟨before, ht⟩ := ht
  obtain ⟨before', hu⟩ := hu
  -- read from the end, the cause comes first, and after it the only line that tells the two forms apart
  have h := congrArg List.reverse (ht.trans hu.symm)
  rcases t with ⟨_ | context, cause⟩ <;> rcases u with ⟨_ | context', cause'⟩ <;> simp [lines] at h
  · rw [h.1]
  · exact absurd h.1 (hindented _ _)
  · exact absurd h.1.symm (hindented _ _)
  · rw [h.1, h.2.1]

end Trouble

namespace Session

def lasting (s : Session) : List Effect := s.effects.reverse.filter Effect.lasting

/-- Whatever was before, a step of a run has a result and adds lasting effects. -/
def Yields {α : Type} (x : Act α) (r : Except Trouble α) (out : List Effect) : Prop :=
  ∀ s : Session, ∃ s' : Session, s'.lasting = s.lasting ++ out ∧
    x.run s = match r with
      | .ok a => .ok a s'
      | .error t => .error t s'

section Steps

variable {α β : Type} {x : Act α} {f : α → Act β} {a : α} {t : Trouble} {r : Except Trouble β}
  {out out' : List Effect}

theorem yields_pure (a : α) : Yields (pure a) (.ok a) [] := fun s => ⟨s, (List.append_nil _).symm, rfl⟩

theorem yields_throw (t : Trouble) : Yields (throw t : Act α) (.error t) [] :=
  fun s => ⟨s, (List.append_nil _).symm, rfl⟩

theorem Yields.bind (hx : Yields x (.ok a) out) (hf : Yields (f a) r out') :
    Yields (x >>= f) r (out ++ out') := by
  intro s
  obtain ⟨s₁, h₁, hrun₁⟩ := hx s
  obtain ⟨s₂, h₂, hrun₂⟩ := hf s₁
  refine ⟨s₂, by rw [h₂, h₁, List.append_assoc], ?_⟩
  rw [EStateM.run_bind, hrun₁]
  exact hrun₂

/-- The same for a first step that leaves nothing. -/
theorem Yields.then (hx : Yields x (.ok a) []) (hf : Yields (f a) r out) : Yields (x >>= f) r out :=
  hx.bind hf

/-- The same for a second step that leaves nothing. -/
theorem Yields.finish (hx : Yields x (.ok a) out) (hf : Yields (f a) r []) : Yields (x >>= f) r out := by
  have h := hx.bind hf
  rwa [List.append_nil] at h

theorem Yields.bind_error (hx : Yields x (.error t) out) : Yields (x >>= f) (.error t) out := by
  intro s
  obtain ⟨s₁, h₁, hrun₁⟩ := hx s
  exact ⟨s₁, h₁, by rw [EStateM.run_bind, hrun₁]⟩

/-- A first step that leaves nothing may fail. -/
theorem Yields.silent {q : Except Trouble α} {k : α → Except Trouble β} (hx : Yields x q [])
    (hf : ∀ a, Yields (f a) (k a) []) : Yields (x >>= f) (q >>= k) [] := by
  cases q with
  | ok a => exact hx.then (hf a)
  | error t => exact hx.bind_error

theorem yields_modify {g : Session → Session} (hg : ∀ s, (g s).lasting = s.lasting) :
    Yields (modify g) (.ok ()) [] := fun s => ⟨g s, by rw [hg, List.append_nil], rfl⟩

theorem yields_emit (e : Effect) : Yields (emit e) (.ok ()) (if e.lasting then [e] else []) := by
  intro s
  refine ⟨_, ?_, rfl⟩
  simp only [lasting, List.reverse_cons, List.filter_append, List.filter_cons, List.filter_nil]

theorem lasting_lineEffect (s : Session) (line : String) : (s.lineEffect line).lasting = false := by
  unfold lineEffect
  split <;> rfl

theorem yields_tell (events : Unit → List Event) : Yields (tell events) (.ok ()) [] := by
  refine yields_modify fun s => ?_
  have hlines (lines : List String) : ((lines.map s.lineEffect).reverse.filter Effect.lasting) = [] := by
    rw [List.filter_eq_nil_iff]
    intro e he
    obtain ⟨line, -, rfl⟩ := List.mem_map.mp (List.mem_reverse.mp he)
    rw [lasting_lineEffect]
    exact Bool.false_ne_true
  simp only [lasting, hear, List.reverse_append, List.filter_append, hlines, List.append_nil]

theorem yields_notify (n : Notice) : Yields (notify n) (.ok ()) [] := by
  refine yields_modify fun s => ?_
  split
  · simp [lasting, Effect.lasting]
  · rfl

theorem yields_notices (notices : List Notice) : Yields (notices.forM notify) (.ok ()) [] := by
  induction notices with
  | nil => exact yields_pure ()
  | cons n notices ih => exact (yields_notify n).then ih

end Steps

/-- The value of a result, or its trouble in a context. -/
def inContext {ε α : Type} (context : String) (message : ε → String) (r : Except ε α) :
    Except Trouble α :=
  r.mapError fun e => ⟨some context, message e⟩

theorem yields_within {ε α : Type} (context : String) (message : ε → String) (r : Except ε α) :
    Yields (within context message r) (inContext context message r) [] := by
  cases r with
  | ok a => exact yields_pure a
  | error e => exact yields_throw _

/-- A result whose trouble, if any, is none with a frame. -/
def Frameless {α : Type} (r : Except Trouble α) : Prop :=
  ∀ t number, r = .error t → t.context ≠ some ("frame " ++ number)

section Contexts

variable {α β ε : Type} {r : Except Trouble α} {f : α → Except Trouble β}

theorem frameless_ok (a : α) : Frameless (.ok a) := nofun

theorem Frameless.bind (hr : Frameless r) (hf : ∀ a, Frameless (f a)) : Frameless (r >>= f) := by
  intro t number h
  rcases Outcome.bind_eq_error_iff.mp h with h | ⟨a, -, h⟩
  · exact hr t number h
  · exact hf a t number h

theorem frameless_error {context cause : String} (h : ∀ number, context ≠ "frame " ++ number) :
    Frameless (.error ⟨some context, cause⟩ : Except Trouble α) := by
  rintro t number ⟨⟩ hcontext
  exact h number (Option.some.inj hcontext)

theorem frameless_inContext {context : String} (message : ε → String) (r : Except ε α)
    (h : ∀ number, context ≠ "frame " ++ number) : Frameless (inContext context message r) := by
  cases r with
  | ok a => exact frameless_ok a
  | error e => exact frameless_error h

theorem append_ne_frame {word : String} {letter : Char} {letters : List Char}
    (hword : word.toList = letter :: letters) (h : letter ≠ 'f') (rest number : String) :
    word ++ rest ≠ "frame " ++ number := by
  intro heq
  have hchars := congrArg String.toList heq
  rw [String.toList_append, String.toList_append, hword] at hchars
  exact h (List.cons.inj hchars).1

end Contexts

theorem number_of_repr {m n : Nat} (h : Nat.repr m = Nat.repr n) : m = n := by
  have hdigits : Nat.toDigits 10 m = Nat.toDigits 10 n := by
    rw [Nat.repr_eq_ofList_toDigits, Nat.repr_eq_ofList_toDigits] at h
    exact String.ofList_injective h
  rw [← Nat.ofDigitChars_ten_toDigits (n := m), hdigits, Nat.ofDigitChars_ten_toDigits]

end Session

end Chip8
