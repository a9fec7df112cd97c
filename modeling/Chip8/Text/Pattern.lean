import Chip8.Text.CharSet

namespace Chip8.Text

inductive WordPlace where
  | edge
  | noEdge
  | start
  | finish
  | startHalf
  | finishHalf
  deriving DecidableEq

inductive Condition where
  | start
  | finish
  /-- The start of a line; in texts with carriage returns these end lines too, alone or before a line feed. -/
  | lineStart (returns : Bool)
  | lineFinish (returns : Bool)
  /-- A place next to words: words of all scripts, or those of ASCII. The words of all scripts are not known, so
  a pattern that asks for them is refused and never matched. -/
  | word (allScripts : Bool) (w : WordPlace)
  deriving DecidableEq

namespace Condition

def isWord (c : Char) : Bool := CharSet.within CharSet.words c

/-- Whether a place between two characters, of which each may belong to a word, is as described. -/
def between (left right : Bool) : WordPlace → Bool
  | .edge => left != right
  | .noEdge => left == right
  | .start => !left && right
  | .finish => left && !right
  | .startHalf => !left
  | .finishHalf => !right

/-- Whether a condition holds at a place, given the characters before and after it as far as there are any. -/
def holds (before after : Option Char) : Condition → Bool
  | .start => before.isNone
  | .finish => after.isNone
  | .lineStart false => before.isNone || before == some '\n'
  | .lineFinish false => after.isNone || after == some '\n'
  | .lineStart true => before.isNone || before == some '\n' || before == some '\r' && after != some '\n'
  | .lineFinish true => after.isNone || after == some '\r' || after == some '\n' && before != some '\r'
  | .word _ w => between (before.any isWord) (after.any isWord) w

end Condition

/-- A regular expression over characters. Patterns, their reader and their refusals stand for the library that the
filter of notices hands its pattern to; of them a run only asks where they are found. -/
inductive Pattern where
  | empty
  | one (s : CharSet)
  | meets (c : Condition)
  | seq (p q : Pattern)
  | either (p q : Pattern)
  | repeated (least : Nat) (most : Option Nat) (p : Pattern)
  /-- A part whose match could be asked for; it is matched like the part itself. -/
  | group (p : Pattern)
  deriving DecidableEq

namespace Pattern

/-- A set of places in a text, from the one before its first character to the one after its last: the bits of a
number. -/
abbrev Places := Nat

/-- The places between characters that satisfy a test, given the character before the text. -/
def placesWhere (test : Option Char → Option Char → Bool) (before : Option Char) : List Char → Places
  | [] => (test before none).toNat
  | c :: rest => (test before (some c)).toNat + 2 * placesWhere test (some c) rest

/-- The places reached from some places by so many steps or fewer. -/
def reach (step : Places → Places) : Nat → Places → Places
  | 0, places => places
  | n + 1, places =>
    let more := places ||| step places
    if more = places then places else reach step n more

/-- The places where a match of a pattern ends that starts at one of some places. The text bounds how often a
pattern is worth repeating: among more matches in a row than the text has characters one is empty, and an empty match
may as well come once more or not at all. -/
def ends (text : List Char) : Pattern → Places → Places
  | .empty, places => places
  | .one s, places => 2 * (places &&& placesWhere (fun _ after => after.any s.has) none text)
  | .meets c, places => places &&& placesWhere (fun before after => c.holds before after) none text
  | .seq p q, places => ends text q (ends text p places)
  | .either p q, places => ends text p places ||| ends text q places
  | .repeated least most p, places =>
    let more := match most with
      | some most => min (most - least) text.length
      | none => text.length
    reach (ends text p) more (Nat.repeat (ends text p) (min least (text.length + 1)) places)
  | .group p, places => ends text p places

def foundIn (p : Pattern) (text : String) : Bool :=
  ends text.toList p (placesWhere (fun _ _ => true) none text.toList) != 0

/-- Whether a pattern matches nothing but the empty text. -/
def onlyEmpty : Pattern → Bool
  | .empty => true
  | .one _ => false
  | .meets _ => true
  | .seq p q => p.onlyEmpty && q.onlyEmpty
  | .either p q => p.onlyEmpty && q.onlyEmpty
  | .repeated _ most p => most.isSome && p.onlyEmpty
  | .group p => p.onlyEmpty

def ofSequence : List Pattern → Pattern
  | [] => .empty
  | p :: rest =>
    match p, ofSequence rest with
    | .empty, q => q
    | p, .empty => p
    | p, q => .seq p q

/-- The characters of a pattern that matches just single characters. -/
def chars? : Pattern → Option CharSet
  | .one s => some s
  | _ => none

def anyOf : List Pattern → Pattern
  | [] => .one .empty
  | [p] => p
  | p :: rest => .either p (anyOf rest)

/-- Patterns of which one is to match; single characters make one set. -/
def ofBranches (ps : List Pattern) : Pattern :=
  match ps, ps.mapM chars? with
  | _ :: _ :: _, some sets => .one (sets.foldl CharSet.union .empty)
  | _, _ => anyOf ps

/-- A pattern repeated. What matches the empty text only is not worth more than one match. -/
def ofRepetition (least : Nat) (most : Option Nat) (p : Pattern) : Pattern :=
  let (least, most) := if p.onlyEmpty then (min least 1, some (min (most.getD 1) 1)) else (least, most)
  if least = 0 ∧ most = some 0 then .empty
  else if least = 1 ∧ most = some 1 then p
  else .repeated least most p

def needsAllScripts : Pattern → Bool
  | .empty => false
  | .one _ => false
  | .meets (.word allScripts _) => allScripts
  | .meets _ => false
  | .seq p q => p.needsAllScripts || q.needsAllScripts
  | .either p q => p.needsAllScripts || q.needsAllScripts
  | .repeated _ _ p => p.needsAllScripts
  | .group p => p.needsAllScripts

end Pattern

end Chip8.Text
