import Chip8.Text.Letters
import Chip8.Text.Pattern.Bracket

namespace Chip8.Text.Pattern.Reading

def flag? : Char → Option Flag
  | 'i' => some .caseless
  | 'm' => some .everyLine
  | 's' => some .dotTakesAll
  | 'U' => some .lazy
  | 'u' => some .allScripts
  | 'R' => some .returns
  | 'x' => some .spaced
  | _ => none

/-- A flag that was read, or the sign of negation, with its place. -/
abbrev FlagItem := Option Flag × Nat

/-- The flags of items: those after the sign of negation are off. -/
def settingOf (items : List FlagItem) : FlagSetting :=
  (items.foldl
    (fun (setting, on) (item : FlagItem) =>
      match item.1 with
      | some f => (setting ++ [(f, on)], on)
      | none => (setting, false)) (([] : FlagSetting), true)).1

/-- Ends with a problem of the next character, if there was the same item before. -/
def refuseTwice (item : Option Flag) (flaw : Flaw) (items : List FlagItem) : Reading Unit := do
  match items.find? fun i => i.1 == item with
  | some (_, earlier) => refuse flaw (← here) ((← here) + 1) (some ⟨earlier, earlier + 1⟩)
  | none => pure ()

/-- Reads flags up to a colon or a closing parenthesis, in so many steps at most. -/
def flagItems : Nat → List FlagItem → Reading (List FlagItem)
  | 0, _ => refuseHere .flagMissing
  | n + 1, items => do
    match ← next? with
    | none => refuseHere .flagMissing
    | some c =>
      if c == ':' || c == ')' then
        match items.getLast? with
        | some (none, place) => refuse .flagDangling place (place + 1) none
        | _ => return items
      else
        let item ← if c == '-' then do
            refuseTwice none .flagNegatedTwice items
            pure none
          else
            match flag? c with
            | none => refuseNext .flagUnknown
            | some f => do
              refuseTwice (some f) .flagTwice items
              pure (some f)
        let place ← here
        skip 1
        flagItems n (items ++ [(item, place)])

def nameHas (first : Bool) (c : Char) : Bool :=
  c == '_' || isLetter c || !first && (c == '.' || c == '[' || c == ']' || isNumber c)

/-- Reads the characters of a name up to a closing angle bracket. -/
def nameChars (first : Nat) : Nat → List Char → Reading (List Char)
  | 0, _ => refuseHere .nameUnclosed
  | n + 1, name => do
    match ← next? with
    | none => refuseHere .nameUnclosed
    | some '>' => return name.reverse
    | some c =>
      if nameHas ((← here) == first) c then
        skip 1
        nameChars first n (c :: name)
      else refuseNext .nameInvalid

/-- Reads the name of a group, which no group before may have. -/
def groupName : Reading Unit := do
  let first ← here
  let name := String.ofList (← nameChars first ((← get).rest.length + 1) [])
  let place : Stretch := ⟨first, ← here⟩
  skip 1
  if name.isEmpty then refuse .nameEmpty first first none
  else
    match (← get).names.lookup name with
    | some earlier => refuse .nameTwice place.first place.last (some earlier)
    | none => modify fun c => { c with names := (name, place) :: c.names }

structure Level where
  first : Nat
  /-- The parts of the last alternative, the latest first. -/
  parts : List Written
  branchesFirst : Nat
  /-- The finished alternatives, the latest first. -/
  branches : List Written

namespace Level

def start (place : Nat) : Level := ⟨place, [], place, []⟩

def add (l : Level) (w : Written) : Level := { l with parts := w :: l.parts }

def lastBranch (l : Level) (last : Nat) : Written :=
  match l.parts with
  | [] => .empty ⟨l.first, last⟩
  | [w] => w
  | ws => .sequence ⟨l.first, last⟩ ws.reverse

def alternative (l : Level) (place : Nat) : Level :=
  { l with first := place + 1, parts := [], branches := l.lastBranch place :: l.branches }

def written (l : Level) (last : Nat) : Written :=
  match l.branches with
  | [] => l.lastBranch last
  | ws => .either ⟨l.branchesFirst, last⟩ (l.lastBranch last :: ws).reverse

end Level

structure Group where
  first : Nat
  captures : Bool
  setting : FlagSetting
  spacedOutside : Bool
  outer : Level

def setSpaced (setting : FlagSetting) : Reading Unit :=
  match setting.lookup .spaced with
  | some on => modify fun c => { c with spaced := on }
  | none => pure ()

/-- Reads the start of a group, or flags for what follows, the cursor being at the parenthesis; around it the given
alternatives are being read. -/
def openGroup (outer : Level) : Reading (Group ⊕ Written) := do
  let first ← here
  skip 1
  skipBlanks
  let spaced := (← get).spaced
  let group (captures : Bool) (setting : FlagSetting) : Reading (Group ⊕ Written) := do
    setSpaced setting
    return .inl ⟨first, captures, setting, spaced, outer⟩
  if (← comes ['?', '=']) || (← comes ['?', '!']) then
    skip 2
    refuseFrom .lookAround first
  else if (← comes ['?', '<', '=']) || (← comes ['?', '<', '!']) then
    skip 3
    refuseFrom .lookAround first
  else if ← comes ['?', 'P', '<'] then
    skip 3
    groupName
    group true []
  else if ← comes ['?', '<'] then
    skip 2
    groupName
    group true []
  else if ← comes ['?'] then
    let inner ← here
    skip 1
    if (← next?).isNone then refuse .groupUnclosed first (first + 1) none
    else
      let items ← flagItems ((← get).rest.length + 1) []
      let closed := (← next?) == some ')'
      skip 1
      let setting := settingOf items
      if !closed then group false setting
      else if items.isEmpty then refuse .operandMissing inner inner none
      else
        setSpaced setting
        return .inr (.flags ⟨first, ← here⟩ setting)
  else group true []

def operand (l : Level) : Reading (Written × List Written) :=
  match l.parts with
  | [] => refuseHere .operandMissing
  | .flags _ _ :: _ => refuseHere .operandMissing
  | w :: rest => return (w, rest)

def repeatSign (l : Level) (least : Nat) (most : Option Nat) : Reading Level := do
  let (w, rest) ← operand l
  skip 1
  if (← next?) == some '?' then skip 1
  return { l with parts := .repeated ⟨w.place.first, ← here⟩ least most w :: rest }

/-- Reads the digits of a count, the latest first. -/
def countDigits : Nat → List Char → Reading (List Char)
  | 0, digits => return digits.reverse
  | n + 1, digits => do
    match ← next? with
    | some c =>
      if c.isDigit then
        step
        countDigits n (c :: digits)
      else return digits.reverse
    | none => return digits.reverse

/-- Goes on past blanks, which never count beside a count. -/
def blanksBeside (before : Bool) : Nat → Reading Unit
  | 0 => pure ()
  | n + 1 => do
    match ← next? with
    | some c =>
      if isBlank c then
        if before then skip 1 else step
        blanksBeside before n
    | none => pure ()

/-- Reads a count. That it is missing or too large is found out when it is needed. -/
def count : Reading (Except Problem Nat) := do
  let bound := (← get).rest.length
  blanksBeside true bound
  let first ← here
  let digits ← countDigits bound []
  let place : Stretch := ⟨first, ← here⟩
  blanksBeside false bound
  let n := digits.foldl (fun n c => n * 10 + (c.toNat - '0'.toNat)) 0
  if digits.isEmpty then return .error ⟨.countEmpty, place, none⟩
  else if n < UInt32.size then return .ok n
  else return .error ⟨.countTooLarge, place, none⟩

/-- Goes on, but not to the end in a counted repetition from a place on. -/
def stepCounted (first : Nat) : Reading Unit := do
  step
  if (← next?).isNone then refuseFrom .countUnclosed first

/-- Reads the counts of a repetition after the opening brace at a place, up to the closing one. -/
def counts (first : Nat) : Reading (Nat × Option Nat) := do
  let least ← count
  match ← next? with
  | none => refuseFrom .countUnclosed first
  | some ',' =>
    stepCounted first
    if (← next?) == some '\x7d' then return (← least, none)
    else
      let least ← least
      let most ← count
      return (least, some (← most))
  | some _ =>
    let n ← least
    return (n, some n)

/-- Repeats the last part as often as numbers in braces say, the cursor being at the opening one. -/
def repeatCounted (l : Level) : Reading Level := do
  let first ← here
  let (w, rest) ← operand l
  stepCounted first
  let (least, most) ← counts first
  if (← next?) != some '\x7d' then refuseFrom .countUnclosed first
  else
    step
    if (← next?) == some '?' then skip 1
    if most.any (· < least) then refuseFrom .countReversed first
    else return { l with parts := .repeated ⟨w.place.first, ← here⟩ least most w :: rest }

def primitive (c : Char) : Reading Primitive := do
  let place : Stretch := ⟨← here, (← here) + 1⟩
  match c with
  | '\\' => escape
  | '.' =>
    skip 1
    return .dot place
  | '^' =>
    skip 1
    return .anchor place .lineStart
  | '$' =>
    skip 1
    return .anchor place .lineFinish
  | c =>
    skip 1
    return .literal ⟨place, c, false⟩

/-- Reads to the end, in so many steps at most; the groups around wait. -/
def parts : Nat → Level → List Group → Reading Written
  | 0, l, _ => return l.written (← here)
  | n + 1, l, groups => do
    skipBlanks
    match ← next? with
    | none =>
      match groups with
      | [] => return l.written (← here)
      | g :: _ => refuse .groupUnclosed g.first (g.first + 1) none
    | some '(' =>
      match ← openGroup l with
      | .inl g => parts n (.start (← here)) (g :: groups)
      | .inr flags => parts n (l.add flags) groups
    | some ')' =>
      match groups with
      | [] => refuseNext .groupUnopened
      | g :: groups =>
        modify fun c => { c with spaced := g.spacedOutside }
        let w := l.written (← here)
        skip 1
        parts n (g.outer.add (.group ⟨g.first, ← here⟩ g.captures g.setting w)) groups
    | some '|' =>
      let place ← here
      skip 1
      parts n (l.alternative place) groups
    | some '[' => parts n (l.add (← bracket)) groups
    | some '?' => parts n (← repeatSign l 0 (some 1)) groups
    | some '*' => parts n (← repeatSign l 0 none) groups
    | some '+' => parts n (← repeatSign l 1 none) groups
    | some '\x7b' => parts n (← repeatCounted l) groups
    | some c => parts n (l.add (.primitive (← primitive c))) groups

end Reading

/-- Reads the written form of a pattern. What its parts mean, and whether they mean anything, is decided afterwards.
-/
def Written.ofText (source : String) : Except Problem Written := do
  let cursor : Cursor := ⟨0, source.toList, false, []⟩
  let (w, _) ← (Reading.parts (source.length + 1) (.start 0) []).run cursor
  w.checkDepth 0
  return w

end Chip8.Text.Pattern
