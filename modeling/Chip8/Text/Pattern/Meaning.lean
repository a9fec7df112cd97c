import Chip8.Text.Pattern.Written

namespace Chip8.Text.Pattern

/-- The flags in force: those that a pattern sets hold for what follows in the same group. -/
structure Modes where
  caseless : Bool
  everyLine : Bool
  dotTakesAll : Bool
  allScripts : Bool
  returns : Bool

namespace Modes

def start : Modes := ⟨false, false, false, true, false⟩

def setFlag (m : Modes) (f : Flag) (on : Bool) : Modes :=
  match f with
  | .caseless => { m with caseless := on }
  | .everyLine => { m with everyLine := on }
  | .dotTakesAll => { m with dotTakesAll := on }
  | .allScripts => { m with allScripts := on }
  | .returns => { m with returns := on }
  | .lazy => m
  | .spaced => m

def setAll (m : Modes) (setting : FlagSetting) : Modes := setting.foldl (fun m (f, on) => m.setFlag f on) m

end Modes

def refusal {α : Type} (flaw : Flaw) (place : Stretch) : Except Problem α := .error ⟨flaw, place, none⟩

/-- The character of a literal. Without other scripts the number of a byte stands for that byte. -/
def Literal.meaning (m : Modes) (l : Literal) : Except Problem Char :=
  if !m.allScripts && l.isByte && decide (0x7F < l.char.toNat) then refusal .noText l.place else .ok l.char

/-- The character of a literal in brackets. Without other scripts it has to be one of ASCII. -/
def Literal.member (m : Modes) (l : Literal) : Except Problem Nat := do
  let c ← l.meaning m
  if !m.allScripts && decide (0x7F < c.toNat) then refusal .otherScript l.place else .ok c.toNat

/-- A set with its cases, if they are wanted. The cases of all scripts are not known. -/
def folded (m : Modes) (place : Stretch) (s : CharSet) : Except Problem CharSet :=
  if !m.caseless then .ok s
  else if !m.allScripts then .ok s.withCases
  else if s.caseClosed || s.isEmpty then .ok ⟨s.ranges, true⟩
  else refusal .caseUnknown place

/-- A set with its cases, or the characters that it does not have. Without other scripts those would be lone
bytes. -/
def foldedAndNegated (m : Modes) (place : Stretch) (negated : Bool) (s : CharSet) : Except Problem CharSet := do
  let s ← folded m place s
  if !negated then return s
  else if m.allScripts then return s.complement
  else refusal .noText place

def CharKind.ranges : CharKind → List (Nat × Nat)
  | .digit => CharSet.digits
  | .blank => CharSet.blanks
  | .word => CharSet.words

def CharKind.meaning (m : Modes) (place : Stretch) (negated : Bool) (k : CharKind) : Except Problem CharSet :=
  if m.allScripts then refusal .kindUnknown place
  else if negated then refusal .noText place
  else .ok (.ofRanges k.ranges)

/-- The name of a property without what does not count in it: case, blanks, dashes, underscores, other scripts and
an `is` before it. -/
def propertyName (name : String) : String :=
  let (prefixed, rest) : Bool × List Char := match name.toList with
    | i :: s :: rest => if i.toLower = 'i' ∧ s.toLower = 's' then (true, rest) else (false, name.toList)
    | rest => (false, rest)
  let counted := rest.filter fun c => decide (c.toNat < 128) && c != ' ' && c != '_' && c != '-'
  let counted := counted.map Char.toLower
  if prefixed && counted == ['c'] then "isc" else String.ofList counted

/-- Refuses a property: none is known. Three names are ambiguous, and only looked up as values. -/
def propertyMeaning {α : Type} (m : Modes) (place : Stretch) (name : Option String) : Except Problem α :=
  if !m.allScripts then refusal .otherScript place
  else
    match name.map propertyName with
    | some "cf" => refusal .propertyValueUnknown place
    | some "sc" => refusal .propertyValueUnknown place
    | some "lc" => refusal .propertyValueUnknown place
    | _ => refusal .propertyUnknown place

def SetOp.apply : SetOp → CharSet → CharSet → CharSet
  | .inter => CharSet.inter
  | .diff => CharSet.diff
  | .symmDiff => CharSet.symmDiff

def withRange (s : CharSet) (low high : Nat) : CharSet :=
  ⟨(s.union (.ofRanges [(low, high)])).ranges, false⟩

mutual

def ClassPart.addTo (m : Modes) (s : CharSet) : ClassPart → Except Problem CharSet
  | .empty _ => .ok s
  | .literal l => do
    let c ← l.member m
    return withRange s c c
  | .range _ low high => do
    let low ← low.member m
    let high ← high.member m
    return withRange s low high
  | .named place negated ranges => do
    return s.union (← foldedAndNegated m place negated (.ofRanges ranges))
  | .kind place k negated => do return s.union (← k.meaning m place negated)
  | .property place name => propertyMeaning m place name
  | .bracket place negated content => do
    let inner ← content.addTo m .empty
    return s.union (← foldedAndNegated m place negated inner)
  | .union _ parts => ClassPart.addAllTo m s parts
  | .combined _ op left right => do
    let a ← left.addTo m .empty
    let b ← right.addTo m .empty
    let b ← folded m right.place b
    let a ← folded m left.place a
    return s.union (op.apply a b)

def ClassPart.addAllTo (m : Modes) (s : CharSet) : List ClassPart → Except Problem CharSet
  | [] => .ok s
  | p :: rest => do ClassPart.addAllTo m (← p.addTo m s) rest

end

def Anchor.meaning (m : Modes) : Anchor → Condition
  | .lineStart => if m.everyLine then .lineStart m.returns else .start
  | .lineFinish => if m.everyLine then .lineFinish m.returns else .finish
  | .textStart => .start
  | .textFinish => .finish
  | .word w => .word m.allScripts w

def dotSet (m : Modes) : CharSet :=
  if m.dotTakesAll then CharSet.empty.complement
  else if m.returns then (CharSet.ofRanges [(0xA, 0xA), (0xD, 0xD)]).complement
  else (CharSet.ofRanges [(0xA, 0xA)]).complement

def Primitive.meaning (m : Modes) : Primitive → Except Problem Pattern
  | .literal l => do
    let c ← l.meaning m
    return .one (← folded m l.place (.ofRanges [(c.toNat, c.toNat)]))
  | .kind place k negated => do return .one (← k.meaning m place negated)
  | .property place name => propertyMeaning m place name
  | .anchor _ a => .ok (.meets (a.meaning m))
  | .dot place => if m.allScripts then .ok (.one (dotSet m)) else refusal .noText place

mutual

/-- The meaning of a written pattern, and the flags in force after it. A part that could match a lone byte outside
ASCII is refused, and so are kinds of characters, properties and cases of other scripts, of which there are no tables.
-/
def Written.meaning (m : Modes) : Written → Except Problem (Pattern × Modes)
  | .empty _ => .ok (.empty, m)
  | .flags _ setting => .ok (.empty, m.setAll setting)
  | .primitive p => do return (← p.meaning m, m)
  | .bracket place negated content => do
    let s ← content.addTo m .empty
    return (.one (← foldedAndNegated m place negated s), m)
  | .repeated _ least most w => do
    let (p, m) ← w.meaning m
    return (.ofRepetition least most p, m)
  | .group _ captures setting w => do
    let (p, _) ← w.meaning (m.setAll setting)
    return (if captures then .group p else p, m)
  | .either _ ws => do
    let (ps, m) ← Written.meanings m ws
    return (.ofBranches ps, m)
  | .sequence _ ws => do
    let (ps, m) ← Written.meanings m ws
    return (.ofSequence ps, m)

/-- The meanings of written patterns in order, and the flags in force after them. -/
def Written.meanings (m : Modes) : List Written → Except Problem (List Pattern × Modes)
  | [] => .ok ([], m)
  | w :: rest => do
    let (p, m) ← w.meaning m
    let (ps, m) ← Written.meanings m rest
    return (p :: ps, m)

end

end Chip8.Text.Pattern
