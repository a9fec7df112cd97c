import Chip8.Json.Error
import Chip8.Text.Hex

namespace Chip8.Json

open Text

/-- A number or string for two readers: one that wants its value, and one that skips over it. The second is content
with more, with numbers too large to represent and with surrogates that stand alone. -/
structure Lexeme (α : Type) where
  exact : Except Error α
  loose : Except Error Unit

namespace Lexeme

def digitValue (c : Char) : Nat := c.toNat - '0'.toNat

def decimal (digits : List Char) : Nat := digits.foldl (fun n c => n * 10 + digitValue c) 0

def maxSignificand : Nat := UInt64.size - 1

/-- The largest magnitude that a negative number keeps exactly. -/
def maxNegative : Nat := 1 <<< 63

/-- The digits before the point: those that fit into the significand, and the number of the others. -/
def gatherWhole (digits : List Char) : Nat × Nat :=
  digits.foldl (fun (n, dropped) c =>
    let next := n * 10 + digitValue c
    if 0 < dropped ∨ maxSignificand < next then (n, dropped + 1) else (next, 0)) (0, 0)

/-- The digits after the point: they go on filling the significand until one does not fit; the rest is
ignored. -/
def gatherFraction : List Char → (n taken : Nat) → Nat × Nat
  | [], n, taken => (n, taken)
  | c :: digits, n, taken =>
    let next := n * 10 + digitValue c
    if maxSignificand < next then (n, taken) else gatherFraction digits next (taken + 1)

/-- The nearest number to a natural number below `10 ^ 309`. -/
def magnitudeOf (n : Nat) : Magnitude := (Magnitude.ofNat? n).getD .zero

/-- A number divided by `10 ^ power`, at most `10 ^ 308` at a time. -/
def scaleDown (m : Magnitude) (power : Nat) : Magnitude :=
  if power ≤ 308 then (m.div? (magnitudeOf (tenTo power))).getD .zero
  else if m.significand = 0 then m
  else scaleDown ((m.div? (magnitudeOf (tenTo 308))).getD .zero) (power - 308)
termination_by power

/-- A significand times a power of ten. The significand and the power are rounded before they are multiplied
or divided, and the result is rounded again. -/
def scale (significand : Nat) (power : Int) : Except Error Magnitude :=
  let m := magnitudeOf significand
  if power < 0 then .ok (scaleDown m power.natAbs)
  else if power ≤ 308 then
    match m.mul? (magnitudeOf (tenTo power.natAbs)) with
    | some m => .ok m
    | none => .error .numberTooLarge
  else if significand = 0 then .ok m
  else .error .numberTooLarge

/-- The parts of a number: sign, digits before the point, digits after it, and an exponent with its sign. -/
structure Parts where
  negative : Bool
  whole : List Char
  fraction : List Char
  exponent : Option (Bool × List Char)

/-- The largest exponent that is not taken for infinite. -/
def maxExponent : Nat := 0x7FFFFFFF

/-- The value of a number that has a fraction or an exponent, or too many digits. -/
def Parts.real (p : Parts) : Except Error Number := do
  let (n, dropped) := gatherWhole p.whole
  let (n, taken) := gatherFraction p.fraction n 0
  let power := (dropped : Int) - taken
  let m ← match p.exponent with
    | none => scale n power
    | some (down, digits) =>
      let e := decimal digits
      if maxExponent < e then
        if n ≠ 0 ∧ !down then .error .numberTooLarge else .ok .zero
      else scale n (if down then power - e else power + e)
  return .real ⟨p.negative, m⟩

/-- The value of a number. Without fraction and exponent it is whole if it lies between `-2 ^ 63` and
`2 ^ 64 - 1` and is not a negative zero. -/
def Parts.value (p : Parts) : Except Error Number :=
  let n := decimal p.whole
  if !p.fraction.isEmpty ∨ p.exponent.isSome then p.real
  else if p.negative then
    if n = 0 ∨ maxNegative < n then p.real else .ok (.int (-n))
  else if n ≤ maxSignificand then .ok (.int n)
  else p.real

def broken (rest : List Char) : Lexeme Number :=
  ⟨.error (if rest.isEmpty then .endInValue else .badNumber), .error .badNumber⟩

def ofParts (p : Parts) : Lexeme Number := ⟨p.value, .ok ()⟩

def readExponent (negative : Bool) (whole fraction s : List Char) : Lexeme Number × List Char :=
  match s with
  | c :: s =>
    if c = 'e' ∨ c = 'E' then
      let (down, s) := match s with
        | '-' :: s => (true, s)
        | '+' :: s => (false, s)
        | s => (false, s)
      let digits := s.takeWhile Char.isDigit
      if digits.isEmpty then (broken s, [])
      else (ofParts ⟨negative, whole, fraction, some (down, digits)⟩, s.dropWhile Char.isDigit)
    else (ofParts ⟨negative, whole, fraction, none⟩, c :: s)
  | [] => (ofParts ⟨negative, whole, fraction, none⟩, [])

def readFraction (negative : Bool) (whole s : List Char) : Lexeme Number × List Char :=
  match s with
  | '.' :: s =>
    let digits := s.takeWhile Char.isDigit
    if digits.isEmpty then (broken s, [])
    else readExponent negative whole digits (s.dropWhile Char.isDigit)
  | s => readExponent negative whole [] s

/-- Reads a number after its sign. A zero in front of other digits is wrong. -/
def readUnsigned (negative : Bool) (s : List Char) : Lexeme Number × List Char :=
  match s.takeWhile Char.isDigit with
  | [] => (broken s, [])
  | '0' :: _ :: _ => (broken s, [])
  | whole => readFraction negative whole (s.dropWhile Char.isDigit)

/-- Reads a number from text that starts with a minus sign or a digit. -/
def readNumber : List Char → Lexeme Number × List Char
  | '-' :: s => readUnsigned true s
  | s => readUnsigned false s

/-- The value of four hexadecimal digits at the start of the text. The text is too short if fewer than four
bytes of it are left. -/
def hexUnit (s : List Char) : Except Error Nat :=
  match s.take 4 with
  | [a, b, c, d] =>
    match hexValue? a, hexValue? b, hexValue? c, hexValue? d with
    | some a, some b, some c, some d => .ok (((a * 16 + b) * 16 + c) * 16 + d)
    | _, _, _, _ => .error .badEscape
  | short =>
    if short.foldl (fun n c => n + c.utf8Size) 0 < 4 then .error .endInString else .error .badEscape

/-- Whether a unit is the first half of a pair. -/
def isLeading (u : Nat) : Bool := decide (0xD800 ≤ u ∧ u ≤ 0xDBFF)

/-- Whether a unit is the second half of a pair. -/
def isTrailing (u : Nat) : Bool := decide (0xDC00 ≤ u ∧ u ≤ 0xDFFF)

/-- The second half of a pair, whose first half ended before `s`. -/
def secondHalf (s : List Char) : Except Error Nat :=
  match s with
  | [] => .error .endInString
  | ['\\'] => .error .endInString
  | '\\' :: 'u' :: s => do
    let u ← hexUnit s
    if isTrailing u then return u else throw .loneSurrogate
  | _ => .error .unfinishedPair

def shortEscape? : Char → Option Char
  | '"' => some '"'
  | '\\' => some '\\'
  | '/' => some '/'
  | 'b' => some '\x08'
  | 'f' => some '\x0c'
  | 'n' => some '\n'
  | 'r' => some '\r'
  | 't' => some '\t'
  | _ => none

/-- A string under reading: its characters, the latest first, or the first thing wrong with its value. -/
abbrev Partial := Except Error (List Char)

def push (c : Char) (p : Partial) : Partial := p.map (c :: ·)

/-- A string that cannot even be skipped over. -/
def abandon (p : Partial) (e : Error) : Lexeme String × List Char :=
  (⟨match p with | .ok _ => .error e | .error first => .error first, .error e⟩, [])

def readString : (s : List Char) → Partial → Lexeme String × List Char
  | [], p => abandon p .endInString
  | '"' :: s, p => (⟨p.map fun cs => String.ofList cs.reverse, .ok ()⟩, s)
  | ['\\'], p => abandon p .endInString
  | '\\' :: 'u' :: s, p =>
    match hexUnit s with
    | .error e => abandon p e
    | .ok u =>
      if isTrailing u then readString (s.drop 4) (p.bind fun _ => .error .loneSurrogate)
      else if isLeading u then
        match secondHalf (s.drop 4) with
        | .error e => readString (s.drop 4) (p.bind fun _ => .error e)
        | .ok v =>
          readString ((s.drop 4).drop 6) (push (.ofNat (0x10000 + (u - 0xD800) * 1024 + (v - 0xDC00))) p)
      else readString (s.drop 4) (push (.ofNat u) p)
  | '\\' :: c :: s, p =>
    match shortEscape? c with
    | some e => readString s (push e p)
    | none => abandon p .badEscape
  | c :: s, p =>
    if c.toNat < 0x20 then abandon p .controlCharacter else readString s (push c p)
termination_by s => s.length
decreasing_by all_goals simp only [List.length_cons, List.length_drop]; omega

end Lexeme

end Chip8.Json
