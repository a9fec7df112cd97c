import Chip8.Text.Blank
import Chip8.Text.Pattern.Problem

namespace Chip8.Text.Pattern

structure Cursor where
  place : Nat
  rest : List Char
  /-- Whether blanks and comments between parts do not count. -/
  spaced : Bool
  names : List (String × Stretch)

abbrev Reading := StateT Cursor (Except Problem)

namespace Reading

def here : Reading Nat := return (← get).place

def next? : Reading (Option Char) := return (← get).rest.head?

def ahead? : Reading (Option Char) := return (← get).rest[1]?

def comes (s : List Char) : Reading Bool := return s.isPrefixOf (← get).rest

def skip (n : Nat) : Reading Unit :=
  modify fun c => { c with place := c.place + (c.rest.take n).length, rest := c.rest.drop n }

/-- How many characters blanks and comments take, perhaps from within a comment on. -/
def uncounted (inComment : Bool) : List Char → Nat
  | [] => 0
  | c :: rest =>
    if inComment then uncounted (c != '\n') rest + 1
    else if isBlank c then uncounted false rest + 1
    else if c == '#' then uncounted true rest + 1
    else 0

/-- Goes on past blanks and comments, if they do not count. -/
def skipBlanks : Reading Unit := do
  let c ← get
  if c.spaced then skip (uncounted false c.rest)

def step : Reading Unit := do
  skip 1
  skipBlanks

/-- The character after the next one and after blanks. Of a comment the first character counts. -/
def aheadPastBlanks? : Reading (Option Char) := do
  let c ← get
  let after := c.rest.drop 1
  if !c.spaced then return after.head?
  let shown := match after.dropWhile isBlank with
    | '#' :: comment => comment.dropWhile isBlank
    | other => other
  return (shown.head?).or after.head?

def refuse {α : Type} (flaw : Flaw) (first last : Nat) (earlier : Option Stretch) : Reading α :=
  throw ⟨flaw, ⟨first, last⟩, earlier⟩

def refuseFrom {α : Type} (flaw : Flaw) (first : Nat) : Reading α := do refuse flaw first (← here) none

/-- Ends with a problem at the cursor, before the next character. -/
def refuseHere {α : Type} (flaw : Flaw) : Reading α := do refuseFrom flaw (← here)

def refuseNext {α : Type} (flaw : Flaw) : Reading α := do refuse flaw (← here) ((← here) + 1) none

end Reading

end Chip8.Text.Pattern
