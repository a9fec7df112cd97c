import Chip8.Text.Hex
import Chip8.Text.Pattern.Cursor
import Chip8.Text.Pattern.Written

namespace Chip8.Text.Pattern.Reading

/-- The value of a hexadecimal numeral, if it is the number of a character. -/
def numbered? (digits : List Char) : Option Char :=
  let n := digits.foldl (fun n c => n * 16 + (hexValue? c).getD 0) 0
  if n.isValidChar then some (Char.ofNat n) else none

/-- Reads so many hexadecimal digits, the cursor being at the first one; it stays at the last one. -/
def hexDigits : Nat → List Char → Reading (List Char)
  | 0, digits => return digits.reverse
  | n + 1, digits => do
    if !digits.isEmpty then step
    match ← next? with
    | none => refuseHere .escapeUnfinished
    | some c =>
      if (hexValue? c).isNone then refuseNext .numeralInvalid
      else hexDigits n (c :: digits)

/-- Reads hexadecimal digits up to a closing brace, the cursor being before the first one. -/
def hexUntilBrace (brace : Nat) : Nat → List Char → Reading (List Char)
  | 0, _ => refuseFrom .escapeUnfinished brace
  | n + 1, digits => do
    step
    match ← next? with
    | none => refuseFrom .escapeUnfinished brace
    | some '\x7d' => return digits.reverse
    | some c =>
      if (hexValue? c).isNone then refuseNext .numeralInvalid
      else hexUntilBrace brace n (c :: digits)

/-- Reads a character by its number, after a backslash at a place; the cursor is at the letter. The letter says how
many digits there are, unless they stand in braces. -/
def numbered (start : Nat) (letter : Char) : Reading Literal := do
  step
  match ← next? with
  | none => refuseHere .escapeUnfinished
  | some '\x7b' =>
    let brace ← here
    let digits ← hexUntilBrace brace ((← get).rest.length) []
    let last ← here
    step
    if digits.isEmpty then refuseFrom .numeralEmpty brace
    else
      match numbered? digits with
      | some c => return ⟨⟨start, ← here⟩, c, false⟩
      | none => refuse .noScalar (brace + 1) last none
  | some _ =>
    let first ← here
    let digits ← hexDigits (if letter == 'x' then 2 else if letter == 'u' then 4 else 8) []
    step
    match numbered? digits with
    | some c => return ⟨⟨start, ← here⟩, c, letter == 'x'⟩
    | none => refuseFrom .noScalar first

/-- Reads the text in braces, the cursor being at the opening one; it stays at the closing one. -/
def braced : Nat → List Char → Reading (List Char)
  | 0, _ => refuseHere .escapeUnfinished
  | n + 1, text => do
    step
    match ← next? with
    | none => refuseHere .escapeUnfinished
    | some '\x7d' => return text.reverse
    | some c => braced n (c :: text)

/-- Reads a property, after a backslash at a place; the cursor is at the letter. -/
def property (start : Nat) : Reading Primitive := do
  step
  match ← next? with
  | none => refuseHere .escapeUnfinished
  | some '\x7b' =>
    let text ← braced (← get).rest.length []
    skip 1
    let byValue := text.contains ':' || text.contains '='
    return .property ⟨start, ← here⟩ (if byValue then none else some (String.ofList text))
  | some '\\' => refuseNext .propertyInvalid
  | some c =>
    step
    return .property ⟨start, ← here⟩ (some (String.singleton c))

def wordPlace? : String → Option WordPlace
  | "start" => some .start
  | "end" => some .finish
  | "start-half" => some .startHalf
  | "end-half" => some .finishHalf
  | _ => none

/-- Whether the name of a place next to words may have a character. -/
def wordPlaceHas (c : Char) : Bool := c.isAlpha || c == '-'

/-- Reads the characters of the name of a place next to words. -/
def wordPlaceName : Nat → List Char → Reading (List Char)
  | 0, name => return name.reverse
  | n + 1, name => do
    match ← next? with
    | some c =>
      if wordPlaceHas c then
        step
        wordPlaceName n (c :: name)
      else return name.reverse
    | none => return name.reverse

/-- Reads the name of a place next to words in braces, if it is one and not a count; the backslash is at a given
place. -/
def wordPlace (start : Nat) : Reading (Option WordPlace) := do
  let before ← get
  step
  match ← next? with
  | none => refuseFrom .wordPlaceOrCountUnfinished start
  | some c =>
    if !wordPlaceHas c then
      set before
      return none
    else
      let first ← here
      let name ← wordPlaceName (← get).rest.length []
      if (← next?) != some '\x7d' then refuseFrom .wordPlaceUnclosed before.place
      else
        let last ← here
        skip 1
        match wordPlace? (String.ofList name) with
        | some w => return some w
        | none => refuse .wordPlaceUnknown first last none

/-- Kinds of characters by their letters; a capital letter stands for the other characters. -/
def kind? : Char → Option (CharKind × Bool)
  | 'd' => some (.digit, false)
  | 'D' => some (.digit, true)
  | 's' => some (.blank, false)
  | 'S' => some (.blank, true)
  | 'w' => some (.word, false)
  | 'W' => some (.word, true)
  | _ => none

def control? : Char → Option Char
  | 'a' => some '\x07'
  | 'f' => some '\x0C'
  | 't' => some '\t'
  | 'n' => some '\n'
  | 'r' => some '\r'
  | 'v' => some '\x0B'
  | _ => none

def anchor? : Char → Option Anchor
  | 'A' => some .textStart
  | 'z' => some .textFinish
  | 'b' => some (.word .edge)
  | 'B' => some (.word .noEdge)
  | '<' => some (.word .start)
  | '>' => some (.word .finish)
  | _ => none

/-- Whether a character may stand for itself after a backslash. -/
def escapable (c : Char) : Bool := decide (c.toNat < 128) && !c.isAlphanum && c != '<' && c != '>'

def escape : Reading Primitive := do
  let start ← here
  skip 1
  match ← next? with
  | none => refuseFrom .escapeUnfinished start
  | some c =>
    if c.isDigit then refuse .backreference start ((← here) + 1) none
    else if c == 'x' || c == 'u' || c == 'U' then return .literal (← numbered start c)
    else if c == 'p' || c == 'P' then property start
    else
      skip 1
      let place : Stretch := ⟨start, ← here⟩
      match kind? c, control? c, anchor? c with
      | some (k, negated), _, _ => return .kind place k negated
      | _, some d, _ => return .literal ⟨place, d, false⟩
      | _, _, some a =>
        if c == 'b' && (← next?) == some '\x7b' then
          match ← wordPlace start with
          | some w => return .anchor ⟨start, ← here⟩ (.word w)
          | none => return .anchor place a
        else return .anchor place a
      | none, none, none =>
        if escapable c then return .literal ⟨place, c, false⟩
        else refuseFrom .escapeUnknown start

end Chip8.Text.Pattern.Reading
