import Chip8.Json.Lexeme
import Chip8.Json.Printer

namespace Chip8.Json

def Number.Exact : Number → Prop
  | .int z => -(Lexeme.maxNegative : Int) ≤ z ∧ z ≤ Lexeme.maxSignificand
  | .real _ => False

namespace Lexeme

def ofNumber (n : Number) : Lexeme Number := ⟨.ok n, .ok ()⟩

def ofString (s : String) : Lexeme String := ⟨.ok s, .ok ()⟩

/-- Text that does not go on with a number. -/
def EndsNumber : List Char → Prop
  | [] => True
  | c :: _ => c.isDigit = false ∧ c ≠ '.' ∧ c ≠ 'e' ∧ c ≠ 'E'

/-- Text that does not go on with a run of digits. -/
def EndsDigits : List Char → Prop
  | [] => True
  | c :: _ => c.isDigit = false

section Digits

variable {n : Nat} {rest : List Char}

theorem isDigit_of_mem {c : Char} (hc : c ∈ Nat.toDigits 10 n) : c.isDigit :=
  Nat.isDigit_of_mem_toDigits (by decide) (by decide) hc

theorem EndsNumber.endsDigits (h : EndsNumber rest) : EndsDigits rest := by
  cases rest with
  | nil => trivial
  | cons c rest => exact h.1

theorem takeWhile_digits {digits : List Char} (hdigits : ∀ c ∈ digits, c.isDigit) (h : EndsDigits rest) :
    (digits ++ rest).takeWhile Char.isDigit = digits := by
  have hrest : rest.takeWhile Char.isDigit = [] := by
    cases rest with
    | nil => rfl
    | cons c rest => simp [show c.isDigit = false from h]
  rw [List.takeWhile_append_of_pos hdigits, hrest, List.append_nil]

theorem dropWhile_digits {digits : List Char} (hdigits : ∀ c ∈ digits, c.isDigit) (h : EndsDigits rest) :
    (digits ++ rest).dropWhile Char.isDigit = rest := by
  have hrest : rest.dropWhile Char.isDigit = rest := by
    cases rest with
    | nil => rfl
    | cons c rest => simp [show c.isDigit = false from h]
  rw [List.dropWhile_append_of_pos hdigits, hrest]

theorem decimal_digits (n : Nat) : decimal (Nat.toDigits 10 n) = n := by
  have h := Nat.ofDigitChars_ten_toDigits (n := n)
  rw [Nat.ofDigitChars_eq_foldl] at h
  simp only [Nat.mul_comm 10] at h
  exact h

/-- No digits of a number follow a zero in front. -/
theorem toDigits_ne_zero_cons (n : Nat) (c : Char) (cs : List Char) :
    Nat.toDigits 10 n ≠ '0' :: c :: cs := by
  induction n using Nat.strongRecOn generalizing c cs with
  | ind n ih =>
    rcases Nat.lt_or_ge n 10 with hn | hn
    · rw [Nat.toDigits_of_lt_base hn]
      simp
    · intro h
      -- the digits in front of the last one are those of `n / 10`, so the zero stands in front of them too
      rw [Nat.toDigits_of_base_le (by decide) hn] at h
      have hlt : n / 10 < n := Nat.div_lt_self (by omega) (by decide)
      have hdiv : 0 < n / 10 := Nat.div_pos hn (by decide)
      cases hd : Nat.toDigits 10 (n / 10) with
      | nil => exact Nat.toDigits_ne_nil hd
      | cons d ds =>
        rw [hd, List.cons_append, List.cons.injEq] at h
        obtain ⟨rfl, -⟩ := h
        cases ds with
        | cons e es => exact ih (n / 10) hlt e es hd
        | nil =>
          have hz := decimal_digits (n / 10)
          rw [hd] at hz
          have hone : decimal ['0'] = 0 := by decide
          omega

theorem exists_digits_eq (n : Nat) : ∃ d ds, Nat.toDigits 10 n = d :: ds ∧ d.isDigit := by
  cases hd : Nat.toDigits 10 n with
  | nil => exact absurd hd Nat.toDigits_ne_nil
  | cons d ds => exact ⟨d, ds, rfl, isDigit_of_mem (n := n) (hd ▸ List.mem_cons_self)⟩

end Digits

theorem readExponent_rest (negative : Bool) (whole fraction : List Char) {rest : List Char}
    (h : EndsNumber rest) :
    readExponent negative whole fraction rest = (ofParts ⟨negative, whole, fraction, none⟩, rest) := by
  cases rest with
  | nil => rfl
  | cons c rest =>
    obtain ⟨-, -, he, hE⟩ := h
    simp [readExponent, he, hE]

theorem readFraction_rest (negative : Bool) (whole : List Char) {rest : List Char}
    (h : EndsNumber rest) :
    readFraction negative whole rest = (ofParts ⟨negative, whole, [], none⟩, rest) := by
  rw [← readExponent_rest negative whole [] h]
  cases rest with
  | nil => rfl
  | cons c rest =>
    obtain ⟨-, hp, -⟩ := h
    unfold readFraction
    split
    next he =>
      cases he
      exact absurd rfl hp
    next => rfl

/-- The digits before the point are read as they are, for no digits follow a zero. -/
theorem readUnsigned_digits (negative : Bool) (n : Nat) {rest : List Char} (h : EndsDigits rest) :
    readUnsigned negative (Nat.toDigits 10 n ++ rest) = readFraction negative (Nat.toDigits 10 n) rest := by
  have hdigits : ∀ c ∈ Nat.toDigits 10 n, c.isDigit := fun c hc => isDigit_of_mem hc
  unfold readUnsigned
  rw [takeWhile_digits hdigits h, dropWhile_digits hdigits h]
  split
  next he => exact absurd he Nat.toDigits_ne_nil
  next c cs he => exact absurd he (toDigits_ne_zero_cons n c cs)
  next => rfl

/-- Without a minus sign, the digits before the point come first. -/
theorem readNumber_digits (n : Nat) {rest : List Char} (h : EndsDigits rest) :
    readNumber (Nat.toDigits 10 n ++ rest) = readFraction false (Nat.toDigits 10 n) rest := by
  rw [← readUnsigned_digits false n h]
  obtain ⟨d, ds, hd, hdigit⟩ := exists_digits_eq n
  rw [hd, List.cons_append]
  unfold readNumber
  split
  next he =>
    cases he
    exact absurd hdigit (by decide)
  next => rfl

/-- A number is told from other tokens by its first character. -/
theorem exists_text_eq {n : Number} (hn : n.Exact) :
    ∃ c s, n.text.toList = c :: s ∧ (c = '-' ∨ c.isDigit) := by
  cases n with
  | real x => exact hn.elim
  | int z =>
    obtain ⟨d, ds, hd, hdigit⟩ := exists_digits_eq z.natAbs
    by_cases hz : z < 0
    · simp only [Number.text, intText, hz, if_true, String.toList_append, Nat.toList_repr]
      exact ⟨'-', Nat.toDigits 10 z.natAbs, rfl, .inl rfl⟩
    · simp only [Number.text, intText, hz, if_false, Nat.toList_repr]
      exact ⟨d, ds, hd, .inr hdigit⟩

theorem value_negative {n : Nat} (hn : n ≠ 0) (hle : n ≤ maxNegative) :
    Parts.value ⟨true, Nat.toDigits 10 n, [], none⟩ = .ok (.int (-n)) := by
  have hbad : ¬ (n = 0 ∨ maxNegative < n) := by omega
  simp only [Parts.value, decimal_digits, List.isEmpty_nil, Bool.not_true, Option.isSome_none,
    Bool.false_eq_true, or_self, if_false, if_true, hbad]

theorem value_nonnegative {n : Nat} (hle : n ≤ maxSignificand) :
    Parts.value ⟨false, Nat.toDigits 10 n, [], none⟩ = .ok (.int n) := by
  simp only [Parts.value, decimal_digits, List.isEmpty_nil, Bool.not_true, Option.isSome_none,
    Bool.false_eq_true, or_self, if_false, if_true, hle]

/-- A whole number is read back from its text. -/
theorem readNumber_text {n : Number} (hn : n.Exact) {rest : List Char} (h : EndsNumber rest) :
    readNumber (n.text.toList ++ rest) = (ofNumber n, rest) := by
  cases n with
  | real x => exact hn.elim
  | int z =>
    obtain ⟨hlow, hhigh⟩ := hn
    by_cases hz : z < 0
    · have hne : z.natAbs ≠ 0 := by omega
      have hle : z.natAbs ≤ maxNegative := by omega
      have hval : -(z.natAbs : Int) = z := by omega
      have htext : (Number.int z).text.toList = '-' :: Nat.toDigits 10 z.natAbs := by
        rw [Number.text, intText, if_pos hz, String.toList_append, Nat.toList_repr]
        rfl
      rw [htext, List.cons_append, readNumber, readUnsigned_digits true z.natAbs h.endsDigits,
        readFraction_rest true _ h, ofParts, value_negative hne hle, hval]
      rfl
    · have hle : z.natAbs ≤ maxSignificand := by omega
      have hval : (z.natAbs : Int) = z := by omega
      have htext : (Number.int z).text.toList = Nat.toDigits 10 z.natAbs := by
        rw [Number.text, intText, if_neg hz, Nat.toList_repr]
      rw [htext, readNumber_digits z.natAbs h.endsDigits, readFraction_rest false _ h, ofParts,
        value_nonnegative hle, hval]
      rfl

/-- The four digits of an escaped control character. -/
theorem hexUnit_leftpad {n : Nat} (hn : n < 32) :
    ∃ a b, (Nat.toDigits 16 n).leftpad 4 '0' = ['0', '0', a, b] ∧
      ∀ s, hexUnit ('0' :: '0' :: a :: b :: s) = .ok n := by
  refine ⟨(n / 16).digitChar, (n % 16).digitChar, ?_, ?_⟩
  · revert n
    decide
  · intro s
    have ha : Text.hexValue? (n / 16).digitChar = some (n / 16) := by
      revert n
      decide
    have hb : Text.hexValue? (n % 16).digitChar = some (n % 16) := by
      revert n
      decide
    have h0 : Text.hexValue? '0' = some 0 := by decide
    have hsum : n / 16 * 16 + n % 16 = n := Nat.div_add_mod' n 16
    simp [hexUnit, h0, ha, hb, hsum]

theorem readString_short {c e : Char} (h : shortEscape? c = some e) (s : List Char) (p : Partial) :
    readString ('\\' :: c :: s) p = readString s (push e p) := by
  have hu : c ≠ 'u' := by
    rintro rfl
    cases h
  rw [readString]
  · simp only [h]
  · exact fun he => hu he

theorem readString_unit {u : Nat} {s : List Char} (h : hexUnit s = .ok u) (ht : isTrailing u = false)
    (hl : isLeading u = false) (p : Partial) :
    readString ('\\' :: 'u' :: s) p = readString (s.drop 4) (push (.ofNat u) p) := by
  rw [readString]
  simp [h, ht, hl]

theorem readString_plain {c : Char} (hq : c ≠ '"') (hb : c ≠ '\\') (hc : 0x20 ≤ c.toNat) (s : List Char)
    (p : Partial) : readString (c :: s) p = readString s (push c p) := by
  rw [readString]
  · simp [Nat.not_lt.mpr hc]
  all_goals simp_all

/-- One character is read back from its written form. -/
theorem readString_escapedChar (c : Char) (s : List Char) (p : Partial) :
    readString (escapedChar c ++ s) p = readString s (push c p) := by
  unfold escapedChar
  -- the seven characters that have an escape of their own
  iterate 7
    split
    next h =>
      subst h
      exact readString_short rfl s p
  next hq hb _ _ _ _ _ =>
    split
    next hlt =>
      obtain ⟨a, b, hab, hread⟩ := hexUnit_leftpad hlt
      have ht : isTrailing c.toNat = false := decide_eq_false (by omega)
      have hl : isLeading c.toNat = false := decide_eq_false (by omega)
      rw [hab]
      exact (readString_unit (hread s) ht hl p).trans (by rw [Char.ofNat_toNat]; rfl)
    next hge => exact readString_plain hq hb (Nat.not_lt.mp hge) s p

/-- A string is read back up to its closing quote. -/
theorem readString_foldr (cs : List Char) (rest done : List Char) :
    readString (cs.foldr (fun c rest => escapedChar c ++ rest) ('"' :: rest)) (.ok done) =
      (ofString (String.ofList (done.reverse ++ cs)), rest) := by
  induction cs generalizing done with
  | nil =>
    rw [List.foldr_nil, readString, List.append_nil]
    rfl
  | cons c cs ih =>
    have hpush : push c (.ok done) = .ok (c :: done) := rfl
    rw [List.foldr_cons, readString_escapedChar, hpush, ih, List.reverse_cons, List.append_assoc]
    rfl

theorem readString_text (s : String) (rest : List Char) :
    readString (s.toList.foldr (fun c rest => escapedChar c ++ rest) ('"' :: rest)) (.ok []) =
      (ofString s, rest) := by
  rw [readString_foldr, List.reverse_nil, List.nil_append, String.ofList_toList]

end Lexeme

end Chip8.Json
