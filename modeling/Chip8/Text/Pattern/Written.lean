import Chip8.Text.Pattern
import Chip8.Text.Pattern.Problem

namespace Chip8.Text.Pattern

inductive Flag where
  | caseless
  | everyLine
  | dotTakesAll
  | lazy
  | allScripts
  | returns
  /-- Blanks and comments between parts do not count. -/
  | spaced
  deriving DecidableEq

abbrev FlagSetting := List (Flag × Bool)

structure Literal where
  place : Stretch
  char : Char
  isByte : Bool
  deriving DecidableEq

inductive CharKind where
  | digit
  | blank
  | word
  deriving DecidableEq

/-- Conditions as they are written; flags decide what they mean. -/
inductive Anchor where
  | lineStart
  | lineFinish
  | textStart
  | textFinish
  | word (w : WordPlace)
  deriving DecidableEq

inductive Primitive where
  | literal (l : Literal)
  | kind (place : Stretch) (k : CharKind) (negated : Bool)
  /-- The characters with a property; without a name where the property is asked for by its value. -/
  | property (place : Stretch) (name : Option String)
  | anchor (place : Stretch) (a : Anchor)
  | dot (place : Stretch)
  deriving DecidableEq

def Primitive.place : Primitive → Stretch
  | .literal l => l.place
  | .kind place _ _ => place
  | .property place _ => place
  | .anchor place _ => place
  | .dot place => place

inductive SetOp where
  | inter
  | diff
  | symmDiff
  deriving DecidableEq

inductive ClassPart where
  | empty (place : Stretch)
  | literal (l : Literal)
  | range (place : Stretch) (low high : Literal)
  | named (place : Stretch) (negated : Bool) (ranges : List (Nat × Nat))
  | kind (place : Stretch) (k : CharKind) (negated : Bool)
  | property (place : Stretch) (name : Option String)
  | bracket (place : Stretch) (negated : Bool) (content : ClassPart)
  | union (place : Stretch) (parts : List ClassPart)
  | combined (place : Stretch) (op : SetOp) (left right : ClassPart)

def ClassPart.place : ClassPart → Stretch
  | .empty place => place
  | .literal l => l.place
  | .range place _ _ => place
  | .named place _ _ => place
  | .kind place _ _ => place
  | .property place _ => place
  | .bracket place _ _ => place
  | .union place _ => place
  | .combined place _ _ _ => place

/-- The written form of a pattern, each part with the stretch that it takes. -/
inductive Written where
  | empty (place : Stretch)
  | flags (place : Stretch) (setting : FlagSetting)
  | primitive (p : Primitive)
  | bracket (place : Stretch) (negated : Bool) (content : ClassPart)
  | repeated (place : Stretch) (least : Nat) (most : Option Nat) (w : Written)
  | group (place : Stretch) (captures : Bool) (setting : FlagSetting) (w : Written)
  | either (place : Stretch) (ws : List Written)
  | sequence (place : Stretch) (ws : List Written)

def Written.place : Written → Stretch
  | .empty place => place
  | .flags place _ => place
  | .primitive p => p.place
  | .bracket place _ _ => place
  | .repeated place _ _ _ => place
  | .group place _ _ _ => place
  | .either place _ => place
  | .sequence place _ => place

/-- Goes one level deeper, unless that is too deep. -/
def deeper (depth : Nat) (place : Stretch) : Except Problem Nat :=
  if depth < depthLimit then .ok (depth + 1) else .error ⟨.nestedTooDeep, place, none⟩

mutual

/-- Refuses parts in brackets that are nested too deep, at a given depth. -/
def ClassPart.checkDepth (depth : Nat) : ClassPart → Except Problem Unit
  | .bracket place _ content => do content.checkDepth (← deeper depth place)
  | .union place parts => do ClassPart.checkDepths (← deeper depth place) parts
  | .combined place _ left right => do
    let depth ← deeper depth place
    left.checkDepth depth
    right.checkDepth depth
  | _ => .ok ()

def ClassPart.checkDepths (depth : Nat) : List ClassPart → Except Problem Unit
  | [] => .ok ()
  | p :: rest => do
    p.checkDepth depth
    ClassPart.checkDepths depth rest

end

mutual

/-- Refuses patterns that are nested too deep, at a given depth. -/
def Written.checkDepth (depth : Nat) : Written → Except Problem Unit
  | .bracket place _ content => do content.checkDepth (← deeper depth place)
  | .repeated place _ _ w => do w.checkDepth (← deeper depth place)
  | .group place _ _ w => do w.checkDepth (← deeper depth place)
  | .either place ws => do Written.checkDepths (← deeper depth place) ws
  | .sequence place ws => do Written.checkDepths (← deeper depth place) ws
  | _ => .ok ()

/-- Refuses lists of patterns of which one is nested too deep. -/
def Written.checkDepths (depth : Nat) : List Written → Except Problem Unit
  | [] => .ok ()
  | w :: rest => do
    w.checkDepth depth
    Written.checkDepths depth rest

end

end Chip8.Text.Pattern
