import Chip8.Proofs.Json.Lexeme
import Chip8.Proofs.Text.Hex

namespace Chip8.Json

/-- A hexadecimal digit, in either case, and its place in the row of the digits. -/
structure HexDigit where
  char : Char
  place : Nat
  isPlace : Text.digitPlace? char = some place

/-- A unit of UTF-16 that is written with four digits. -/
structure CodeUnit where
  first : HexDigit
  second : HexDigit
  third : HexDigit
  fourth : HexDigit

namespace CodeUnit

def value (u : CodeUnit) : Nat :=
  ((u.first.place * 16 + u.second.place) * 16 + u.third.place) * 16 + u.fourth.place

def digits (u : CodeUnit) : List Char := [u.first.char, u.second.char, u.third.char, u.fourth.char]

/-- The first half of a pair. -/
def Leads (u : CodeUnit) : Prop := 0xD800 ≤ u.value ∧ u.value ≤ 0xDBFF

/-- The second half of a pair. -/
def Trails (u : CodeUnit) : Prop := 0xDC00 ≤ u.value ∧ u.value ≤ 0xDFFF

end CodeUnit

/-- The marks that may follow a backslash, and what each of them stands for. -/
def shortEscapes : List (Char × Char) :=
  [('"', '"'), ('\\', '\\'), ('/', '/'), ('b', '\x08'), ('f', '\x0c'), ('n', '\n'), ('r', '\r'), ('t', '\t')]

/-- A character of a string as it is written. -/
inductive Letter where
  | plain (c : Char) (isPlain : c ≠ '"' ∧ c ≠ '\\' ∧ 0x20 ≤ c.toNat)
  | short (mark c : Char) (isShort : (mark, c) ∈ shortEscapes)
  /-- As a unit of UTF-16. -/
  | unit (u : CodeUnit)

namespace Letter

def text : Letter → List Char
  | plain c _ => [c]
  | short mark _ _ => ['\\', mark]
  | unit u => '\\' :: 'u' :: u.digits

end Letter

def spelled (letters : List Letter) : List Char := letters.flatMap Letter.text

/-- What letters stand for. A half of a pair stands for nothing without the other half. -/
inductive Stands : List Letter → List Char → Prop where
  | nil : Stands [] []
  | plain {c : Char} {isPlain} {letters : List Letter} {cs : List Char} (h : Stands letters cs) :
      Stands (.plain c isPlain :: letters) (c :: cs)
  | short {mark c : Char} {isShort} {letters : List Letter} {cs : List Char} (h : Stands letters cs) :
      Stands (.short mark c isShort :: letters) (c :: cs)
  | unit {u : CodeUnit} {letters : List Letter} {cs : List Char} (hleads : ¬ u.Leads) (htrails : ¬ u.Trails)
      (h : Stands letters cs) : Stands (.unit u :: letters) (.ofNat u.value :: cs)
  | pair {u v : CodeUnit} {letters : List Letter} {cs : List Char} (hleads : u.Leads) (htrails : v.Trails)
      (h : Stands letters cs) :
      Stands (.unit u :: .unit v :: letters)
        (.ofNat (0x10000 + (u.value - 0xD800) * 0x400 + (v.value - 0xDC00)) :: cs)

/-- The name of a member, as it is written and as a text. -/
structure Name where
  letters : List Letter
  text : String
  stands : Stands letters text.toList

theorem stands_plain (cs : List Char) (h : ∀ c ∈ cs, c ≠ '"' ∧ c ≠ '\\' ∧ 0x20 ≤ c.toNat) :
    Stands (cs.pmap .plain h) cs := by
  induction cs with
  | nil => exact .nil
  | cons c cs ih => exact .plain (ih _)

def Name.plain (text : String) (h : text.toList.all fun c => c ≠ '"' ∧ c ≠ '\\' ∧ 0x20 ≤ c.toNat) : Name :=
  have isPlain := fun c hc => of_decide_eq_true (List.all_eq_true.mp h c hc)
  ⟨text.toList.pmap .plain isPlain, text, stands_plain _ isPlain⟩

section Strings

open Lexeme

variable {letters : List Letter} {rest : List Char}

theorem hexUnit_digits (u : CodeUnit) (s : List Char) : hexUnit (u.digits ++ s) = .ok u.value := by
  have hvalue (d : HexDigit) : Text.hexValue? d.char = some d.place := by
    rw [Text.hexValue?_eq_digitPlace?, d.isPlace]
  simp [CodeUnit.digits, hexUnit, hvalue, CodeUnit.value]

theorem isLeading_iff {u : CodeUnit} : isLeading u.value = true ↔ u.Leads := decide_eq_true_iff

theorem isTrailing_iff {u : CodeUnit} : isTrailing u.value = true ↔ u.Trails := decide_eq_true_iff

theorem not_trails_of_leads {u : CodeUnit} (h : u.Leads) : ¬ u.Trails := by
  unfold CodeUnit.Leads at h
  unfold CodeUnit.Trails
  omega

theorem shortEscape?_of_mem {mark c : Char} (h : (mark, c) ∈ shortEscapes) : shortEscape? mark = some c := by
  simp only [shortEscapes, List.mem_cons, Prod.mk.injEq, List.not_mem_nil, or_false] at h
  rcases h with ⟨rfl, rfl⟩ | ⟨rfl, rfl⟩ | ⟨rfl, rfl⟩ | ⟨rfl, rfl⟩ | ⟨rfl, rfl⟩ | ⟨rfl, rfl⟩ | ⟨rfl, rfl⟩ | ⟨rfl, rfl⟩
  all_goals rfl

theorem spelled_cons (l : Letter) (letters : List Letter) : spelled (l :: letters) = l.text ++ spelled letters := rfl

theorem secondHalf_unit (v : CodeUnit) (s : List Char) :
    secondHalf ('\\' :: 'u' :: (v.digits ++ s)) =
      if isTrailing v.value then .ok v.value else .error .loneSurrogate := by
  rw [secondHalf, hexUnit_digits]
  rfl

/-- A half of a pair without the other half is passed over, and spoils the value. -/
theorem readString_lone {u : CodeUnit} {s : List Char} {e : Error}
    (h : u.Trails ∧ e = .loneSurrogate ∨ u.Leads ∧ secondHalf s = .error e) (p : Partial) :
    readString ('\\' :: 'u' :: (u.digits ++ s)) p = readString s (p.bind fun _ => .error e) := by
  have hdrop : (u.digits ++ s).drop 4 = s := rfl
  rw [readString]
  simp only [hexUnit_digits, hdrop]
  rcases h with ⟨ht, rfl⟩ | ⟨hl, hsecond⟩
  · rw [if_pos (isTrailing_iff.mpr ht)]
  · rw [if_neg (mt isTrailing_iff.mp (not_trails_of_leads hl)), if_pos (isLeading_iff.mpr hl), hsecond]

theorem readString_pair {u v : CodeUnit} (hu : u.Leads) (hv : v.Trails) (s : List Char) (p : Partial) :
    readString ('\\' :: 'u' :: (u.digits ++ '\\' :: 'u' :: (v.digits ++ s))) p =
      readString s (push (.ofNat (0x10000 + (u.value - 0xD800) * 1024 + (v.value - 0xDC00))) p) := by
  have hsecond := secondHalf_unit v s
  rw [if_pos (isTrailing_iff.mpr hv)] at hsecond
  have hdrop : (u.digits ++ '\\' :: 'u' :: (v.digits ++ s)).drop 4 = '\\' :: 'u' :: (v.digits ++ s) := rfl
  rw [readString]
  simp only [hexUnit_digits, hdrop, hsecond]
  rw [if_neg (mt isTrailing_iff.mp (not_trails_of_leads hu)), if_pos (isLeading_iff.mpr hu)]
  rfl

theorem readString_of_stands {cs : List Char} (h : Stands letters cs) (done : List Char) :
    readString (spelled letters ++ '"' :: rest) (.ok done) =
      (ofString (String.ofList (done.reverse ++ cs)), rest) := by
  induction h generalizing done with
  | nil =>
    rw [List.append_nil, spelled, List.flatMap_nil, List.nil_append, readString]
    rfl
  | @plain c isPlain letters cs _ ih =>
    have hread := readString_plain isPlain.1 isPlain.2.1 isPlain.2.2 (spelled letters ++ '"' :: rest) (.ok done)
    have hrest := ih (c :: done)
    rw [List.reverse_cons, ← List.append_cons] at hrest
    exact hread.trans hrest
  | @short mark c isShort letters cs _ ih =>
    have hread := readString_short (shortEscape?_of_mem isShort) (spelled letters ++ '"' :: rest) (.ok done)
    have hrest := ih (c :: done)
    rw [List.reverse_cons, ← List.append_cons] at hrest
    exact hread.trans hrest
  | @unit u letters cs hleads htrails _ ih =>
    have ht : isTrailing u.value = false := by rwa [Bool.eq_false_iff, ne_eq, isTrailing_iff]
    have hl : isLeading u.value = false := by rwa [Bool.eq_false_iff, ne_eq, isLeading_iff]
    have hread := readString_unit (hexUnit_digits u (spelled letters ++ '"' :: rest)) ht hl (.ok done)
    have hrest := ih (.ofNat u.value :: done)
    rw [List.reverse_cons, ← List.append_cons] at hrest
    exact hread.trans hrest
  | @pair u v letters cs hleads htrails _ ih =>
    have hread := readString_pair hleads htrails (spelled letters ++ '"' :: rest) (.ok done)
    have hrest := ih (.ofNat (0x10000 + (u.value - 0xD800) * 0x400 + (v.value - 0xDC00)) :: done)
    rw [List.reverse_cons, ← List.append_cons] at hrest
    exact hread.trans hrest

/-- After a unit that leads, either a unit follows that trails, or what is wrong does not hang on what comes after the
letters. -/
theorem secondHalf_letters (letters : List Letter) :
    (∃ v letters', letters = .unit v :: letters' ∧ v.Trails) ∨
      ∃ e, ∀ rest, secondHalf (spelled letters ++ '"' :: rest) = .error e := by
  cases letters with
  | nil => exact .inr ⟨.unfinishedPair, fun _ => rfl⟩
  | cons l letters =>
    cases l with
    | plain c isPlain =>
      refine .inr ⟨.unfinishedPair, fun rest => ?_⟩
      rw [spelled_cons]
      change secondHalf (c :: (spelled letters ++ '"' :: rest)) = _
      rw [secondHalf]
      · exact nofun
      · exact fun h => isPlain.2.1 (List.cons.inj h).1
      · exact fun _ h => isPlain.2.1 (List.cons.inj h).1
    | short mark c isShort =>
      refine .inr ⟨.unfinishedPair, fun rest => ?_⟩
      have hmark : mark ≠ 'u' := by
        rintro rfl
        have hshort := shortEscape?_of_mem isShort
        cases hshort
      change secondHalf ('\\' :: mark :: (spelled letters ++ '"' :: rest)) = _
      rw [secondHalf]
      · exact nofun
      · exact fun h => nomatch (List.cons.inj h).2
      · exact fun _ h => hmark (List.cons.inj (List.cons.inj h).2).1
    | unit v =>
      by_cases hv : v.Trails
      · exact .inl ⟨v, letters, rfl, hv⟩
      · refine .inr ⟨.loneSurrogate, fun rest => ?_⟩
        have hsecond := secondHalf_unit v (spelled letters ++ '"' :: rest)
        rw [if_neg (mt isTrailing_iff.mp hv)] at hsecond
        exact hsecond

/-- Whatever letters stand for, they are read up to the closing quote, and what they are read as does not hang on what
comes after it. -/
theorem exists_readString (letters : List Letter) (p : Partial) :
    ∃ q : Partial, ∀ rest, readString (spelled letters ++ '"' :: rest) p =
      (⟨q.map fun cs => String.ofList cs.reverse, .ok ()⟩, rest) := by
  match letters with
  | [] =>
    refine ⟨p, fun rest => ?_⟩
    rw [spelled, List.flatMap_nil, List.nil_append, readString]
  | .plain c isPlain :: letters =>
    obtain ⟨q, hq⟩ := exists_readString letters (push c p)
    exact ⟨q, fun rest => (readString_plain isPlain.1 isPlain.2.1 isPlain.2.2 _ p).trans (hq rest)⟩
  | .short mark c isShort :: letters =>
    obtain ⟨q, hq⟩ := exists_readString letters (push c p)
    exact ⟨q, fun rest => (readString_short (shortEscape?_of_mem isShort) _ p).trans (hq rest)⟩
  | .unit u :: letters =>
    by_cases ht : u.Trails
    · obtain ⟨q, hq⟩ := exists_readString letters (p.bind fun _ => .error .loneSurrogate)
      exact ⟨q, fun rest => (readString_lone (.inl ⟨ht, rfl⟩) p).trans (hq rest)⟩
    · by_cases hl : u.Leads
      · rcases secondHalf_letters letters with ⟨v, letters', rfl, hv⟩ | ⟨e, he⟩
        · obtain ⟨q, hq⟩ := exists_readString letters'
            (push (.ofNat (0x10000 + (u.value - 0xD800) * 1024 + (v.value - 0xDC00))) p)
          exact ⟨q, fun rest => (readString_pair hl hv _ p).trans (hq rest)⟩
        · obtain ⟨q, hq⟩ := exists_readString letters (p.bind fun _ => .error e)
          exact ⟨q, fun rest => (readString_lone (.inr ⟨hl, he rest⟩) p).trans (hq rest)⟩
      · obtain ⟨q, hq⟩ := exists_readString letters (push (.ofNat u.value) p)
        refine ⟨q, fun rest => (readString_unit (hexUnit_digits u _) ?_ ?_ p).trans (hq rest)⟩
        · rwa [Bool.eq_false_iff, ne_eq, isTrailing_iff]
        · rwa [Bool.eq_false_iff, ne_eq, isLeading_iff]
termination_by letters.length

def Lexeme.ofLetters (letters : List Letter) : Lexeme String := (readString (spelled letters ++ ['"']) (.ok [])).1

theorem readString_letters (letters : List Letter) (rest : List Char) :
    readString (spelled letters ++ '"' :: rest) (.ok []) = (ofLetters letters, rest) := by
  obtain ⟨q, hq⟩ := exists_readString letters (.ok [])
  rw [ofLetters, hq, hq]

theorem loose_ofLetters (letters : List Letter) : (ofLetters letters).loose = .ok () := by
  obtain ⟨q, hq⟩ := exists_readString letters (.ok [])
  rw [ofLetters, hq]

theorem ofLetters_name (name : Name) : ofLetters name.letters = ofString name.text := by
  rw [ofLetters, readString_of_stands name.stands, List.reverse_nil, List.nil_append, String.ofList_toList]

end Strings

structure Digits where
  chars : List Char
  ne_nil : chars ≠ []
  isDigit : ∀ c ∈ chars, c.isDigit

/-- An exponent: its mark, its sign if it has one, and its digits. -/
structure Exponent where
  mark : Char
  isMark : mark = 'e' ∨ mark = 'E'
  negative : Option Bool
  digits : Digits

namespace Exponent

def sign (e : Exponent) : List Char :=
  match e.negative with
  | none => []
  | some false => ['+']
  | some true => ['-']

def text (e : Exponent) : List Char := e.mark :: (e.sign ++ e.digits.chars)

end Exponent

/-- A number as it is written. There is one way to write the digits before the point: no zero stands in front. -/
structure Numeral where
  negative : Bool
  whole : Nat
  fraction : Option Digits
  exponent : Option Exponent

namespace Numeral

/-- A whole number, written by its digits and nothing else. -/
def ofNat (n : Nat) : Numeral := ⟨false, n, none, none⟩

def fractionText (n : Numeral) : List Char := n.fraction.elim [] fun digits => '.' :: digits.chars

def exponentText (n : Numeral) : List Char := n.exponent.elim [] Exponent.text

def text (n : Numeral) : List Char :=
  (if n.negative then ['-'] else []) ++ Nat.toDigits 10 n.whole ++ n.fractionText ++ n.exponentText

/-- The parts that the reader of numbers finds. -/
def parts (n : Numeral) : Lexeme.Parts where
  negative := n.negative
  whole := Nat.toDigits 10 n.whole
  fraction := n.fraction.elim [] Digits.chars
  exponent := n.exponent.map fun e => (e.negative.getD false, e.digits.chars)

end Numeral

section Numbers

open Lexeme

variable {rest : List Char}

theorem isDigit_mark (e : Exponent) : e.mark.isDigit = false := by
  rcases e.isMark with h | h <;> rw [h] <;> rfl

theorem exists_digits_cons (digits : Digits) : ∃ d ds, digits.chars = d :: ds ∧ d.isDigit := by
  obtain ⟨chars, hne, hdigits⟩ := digits
  cases chars with
  | nil => exact absurd rfl hne
  | cons d ds => exact ⟨d, ds, rfl, hdigits d List.mem_cons_self⟩

theorem readExponent_text (e : Exponent) (negative : Bool) (whole fraction : List Char) (h : EndsNumber rest) :
    readExponent negative whole fraction (e.text ++ rest) =
      (ofParts ⟨negative, whole, fraction, some (e.negative.getD false, e.digits.chars)⟩, rest) := by
  have htake := takeWhile_digits e.digits.isDigit h.endsDigits
  have hdrop := dropWhile_digits e.digits.isDigit h.endsDigits
  have hsome : e.digits.chars.isEmpty = false := List.isEmpty_eq_false_iff.mpr e.digits.ne_nil
  simp only [Exponent.text, Exponent.sign, List.cons_append, List.append_assoc, readExponent, e.isMark, if_true]
  cases e.negative with
  | some negative => cases negative <;> simp [htake, hdrop, hsome]
  | none =>
    -- a digit comes next, so neither sign does
    obtain ⟨d, ds, hd, hdigit⟩ := exists_digits_cons e.digits
    rw [hd] at htake hdrop ⊢
    simp only [List.nil_append, List.cons_append] at htake hdrop ⊢
    split
    next hminus =>
      obtain ⟨rfl, -⟩ := List.cons.inj hminus
      exact absurd hdigit (by decide)
    next hplus =>
      obtain ⟨rfl, -⟩ := List.cons.inj hplus
      exact absurd hdigit (by decide)
    next => simp [htake, hdrop]

theorem readExponent_exponentText (n : Numeral) (negative : Bool) (whole fraction : List Char) (h : EndsNumber rest) :
    readExponent negative whole fraction (n.exponentText ++ rest) =
      (ofParts ⟨negative, whole, fraction, n.parts.exponent⟩, rest) := by
  unfold Numeral.exponentText Numeral.parts
  cases n.exponent with
  | none => exact readExponent_rest negative whole fraction h
  | some e => exact readExponent_text e negative whole fraction h

theorem endsDigits_exponentText (n : Numeral) (h : EndsNumber rest) : EndsDigits (n.exponentText ++ rest) := by
  unfold Numeral.exponentText
  cases n.exponent with
  | none => exact h.endsDigits
  | some e => exact isDigit_mark e

theorem exponentText_ne_point (n : Numeral) (h : EndsNumber rest) (s : List Char) :
    n.exponentText ++ rest ≠ '.' :: s := by
  intro hpoint
  unfold Numeral.exponentText at hpoint
  cases he : n.exponent with
  | none =>
    rw [he] at hpoint
    subst hpoint
    exact h.2.1 rfl
  | some e =>
    rw [he] at hpoint
    have hmark : e.mark = '.' := (List.cons.inj hpoint).1
    rcases e.isMark with hm | hm <;> rw [hm] at hmark <;> cases hmark

theorem readFraction_text (n : Numeral) (negative : Bool) (whole : List Char) (h : EndsNumber rest) :
    readFraction negative whole (n.fractionText ++ (n.exponentText ++ rest)) =
      (ofParts ⟨negative, whole, n.parts.fraction, n.parts.exponent⟩, rest) := by
  have hexponent (fraction : List Char) := readExponent_exponentText n negative whole fraction h
  have hends := endsDigits_exponentText n h
  unfold Numeral.fractionText
  cases hf : n.fraction with
  | some digits =>
    have hparts : n.parts.fraction = digits.chars := by rw [Numeral.parts, hf]; rfl
    have hsome : digits.chars.isEmpty = false := List.isEmpty_eq_false_iff.mpr digits.ne_nil
    simp only [Option.elim_some, List.cons_append, readFraction, takeWhile_digits digits.isDigit hends,
      dropWhile_digits digits.isDigit hends, hsome, Bool.false_eq_true, if_false, hexponent, hparts]
  | none =>
    have hparts : n.parts.fraction = [] := by rw [Numeral.parts, hf]; rfl
    rw [hparts, ← hexponent [], Option.elim_none, List.nil_append]
    -- what follows is an exponent or no part of the number, so no point
    unfold readFraction
    split
    next s hpoint => exact absurd hpoint (exponentText_ne_point n h s)
    next => rfl

theorem endsDigits_text (n : Numeral) (h : EndsNumber rest) :
    EndsDigits (n.fractionText ++ (n.exponentText ++ rest)) := by
  unfold Numeral.fractionText
  cases n.fraction with
  | none => exact endsDigits_exponentText n h
  | some digits => exact rfl

/-- A number is read as its parts, up to text that does not go on with it. -/
theorem readNumber_numeral (n : Numeral) (h : EndsNumber rest) :
    readNumber (n.text ++ rest) = (ofParts n.parts, rest) := by
  have hfraction := readFraction_text n n.negative (Nat.toDigits 10 n.whole) h
  have hends := endsDigits_text n h
  have htext : n.text ++ rest = (if n.negative then ['-'] else []) ++
      (Nat.toDigits 10 n.whole ++ (n.fractionText ++ (n.exponentText ++ rest))) := by
    simp only [Numeral.text, List.append_assoc]
  rw [htext]
  cases hn : n.negative with
  | true =>
    rw [hn] at hfraction
    have hparts : n.parts = ⟨true, Nat.toDigits 10 n.whole, n.parts.fraction, n.parts.exponent⟩ := by
      rw [← hn]
      rfl
    rw [hparts, ← hfraction, ← readUnsigned_digits true n.whole hends]
    rfl
  | false =>
    rw [hn] at hfraction
    have hparts : n.parts = ⟨false, Nat.toDigits 10 n.whole, n.parts.fraction, n.parts.exponent⟩ := by
      rw [← hn]
      rfl
    rw [hparts, ← hfraction, ← readNumber_digits n.whole hends]
    rfl

/-- A number is told from other tokens by its first character. -/
theorem exists_numeral_cons (n : Numeral) : ∃ c s, n.text = c :: s ∧ (c = '-' ∨ c.isDigit) := by
  unfold Numeral.text
  cases n.negative with
  | true => exact ⟨'-', _, rfl, .inl rfl⟩
  | false =>
    obtain ⟨d, ds, hd, hdigit⟩ := exists_digits_eq n.whole
    rw [hd]
    exact ⟨d, _, rfl, .inr hdigit⟩

end Numbers

end Chip8.Json
