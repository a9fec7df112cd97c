import Chip8.Text.Pattern.Escape

namespace Chip8.Text.Pattern.Reading

structure Bracket where
  first : Nat
  last : Nat
  negated : Bool
  left : Option (ClassPart × SetOp)
  partsFirst : Nat
  /-- The parts after the last operator, the latest first. -/
  parts : List ClassPart

namespace Bracket

def add (b : Bracket) (p : ClassPart) : Bracket := { b with parts := p :: b.parts }

def lastSet (b : Bracket) : ClassPart :=
  match b.parts.reverse, b.parts with
  | [p], _ => p
  | p :: rest, q :: _ => .union ⟨p.place.first, q.place.last⟩ (p :: rest)
  | _, _ => .empty ⟨b.partsFirst, b.partsFirst⟩

def content (b : Bracket) : ClassPart :=
  let right := b.lastSet
  match b.left with
  | some (left, op) => .combined ⟨left.place.first, right.place.last⟩ op left right
  | none => right

def operate (b : Bracket) (op : SetOp) (place : Nat) : Bracket :=
  { b with left := some (b.content, op), partsFirst := place, parts := [] }

end Bracket

/-- Ends with the problem of a bracket that is never closed. -/
def unclosed {α : Type} (b : Bracket) : Reading α := refuse .bracketUnclosed b.first b.last none

def verbatim (c : Char) : Reading Literal := return ⟨⟨← here, (← here) + 1⟩, c, false⟩

/-- Goes on, but not to the end in a bracket from a place on. -/
def stepWithin (first : Nat) : Reading Unit := do
  step
  if (← next?).isNone then refuseFrom .bracketUnclosed first

/-- Reads dashes that stand for themselves, the latest first. -/
def dashes (first : Nat) : Nat → List ClassPart → Reading (List ClassPart)
  | 0, parts => return parts
  | n + 1, parts => do
    match ← next? with
    | some '-' =>
      let dash ← verbatim '-'
      step
      if (← next?).isNone then refuse .bracketUnclosed first first none
      else dashes first n (.literal dash :: parts)
    | _ => return parts

/-- Opens a bracket, the cursor being at it: a negation sign, and dashes or a closing bracket that stand for
themselves. -/
def openBracket : Reading Bracket := do
  let first ← here
  stepWithin first
  let negated := (← next?) == some '^'
  if negated then stepWithin first
  let partsFirst ← here
  let parts ← dashes first (← get).rest.length []
  let parts ← match parts, ← next? with
    | [], some ']' => do
      let bracket ← verbatim ']'
      stepWithin first
      pure [.literal bracket]
    | parts, _ => pure parts
  return ⟨first, ← here, negated, none, partsFirst, parts⟩

/-- Reads the name of a set between colons and brackets, if there is one; the cursor is at the bracket. -/
def namedSet : Reading (Option ClassPart) := do
  let c ← get
  match c.rest with
  | '[' :: ':' :: rest =>
    let (negated, rest, sign) := match rest with
      | '^' :: rest => (true, rest, 1)
      | rest => (false, rest, 0)
    let name := rest.takeWhile (· != ':')
    match CharSet.named? (String.ofList name), rest.drop name.length with
    | some ranges, ':' :: ']' :: _ =>
      let length := 2 + sign + name.length + 2
      skip length
      return some (.named ⟨c.place, c.place + length⟩ negated ranges)
    | _, _ => return none
  | _ => return none

def partHere (b : Bracket) : Reading Primitive := do
  match ← next? with
  | none => unclosed b
  | some '\\' => escape
  | some c =>
    let l ← verbatim c
    skip 1
    return .literal l

def ofPrimitive : Primitive → Reading ClassPart
  | .literal l => return .literal l
  | .kind place k negated => return .kind place k negated
  | .property place name => return .property place name
  | p => refuse .escapeInBracket p.place.first p.place.last none

def bound : Primitive → Reading Literal
  | .literal l => return l
  | p => refuse .boundUnlike p.place.first p.place.last none

/-- Reads a part or a range. A dash before a closing bracket or another dash makes no range. -/
def rangeOrPart (b : Bracket) : Reading ClassPart := do
  let p ← partHere b
  skipBlanks
  match ← next? with
  | none => unclosed b
  | some c =>
    let ahead ← aheadPastBlanks?
    if c != '-' || ahead == some ']' || ahead == some '-' then ofPrimitive p
    else
      step
      let q ← partHere b
      let low ← bound p
      let high ← bound q
      let place : Stretch := ⟨low.place.first, high.place.last⟩
      if high.char < low.char then refuse .rangeReversed place.first place.last none
      else return .range place low high

/-- The operation with a sign, of which the sign is written twice. -/
def setOp? : Char → Option SetOp
  | '&' => some .inter
  | '-' => some .diff
  | '~' => some .symmDiff
  | _ => none

/-- Reads the rest of a bracket, in so many steps at most; the brackets around it wait. -/
def bracketRest : Nat → Bracket → List Bracket → Reading Written
  | 0, b, _ => unclosed b
  | n + 1, b, outer => do
    skipBlanks
    match ← next? with
    | none => unclosed b
    | some '[' =>
      match ← namedSet with
      | some p => bracketRest n (b.add p) outer
      | none => bracketRest n (← openBracket) (b :: outer)
    | some ']' =>
      skip 1
      let place : Stretch := ⟨b.first, ← here⟩
      match outer with
      | [] => return .bracket place b.negated b.content
      | o :: outer => bracketRest n (o.add (.bracket place b.negated b.content)) outer
    | some c =>
      match setOp? c, (← ahead?) == some c with
      | some op, true =>
        skip 2
        bracketRest n (b.operate op (← here)) outer
      | _, _ => bracketRest n (b.add (← rangeOrPart b)) outer

def bracket : Reading Written := do
  let b ← openBracket
  bracketRest ((← get).rest.length + 1) b []

end Chip8.Text.Pattern.Reading
