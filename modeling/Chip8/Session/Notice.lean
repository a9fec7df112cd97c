import Chip8.Log.Level
import Chip8.Text.Pattern.Refusal

namespace Chip8

open Log

structure Notice where
  level : Level
  area : String
  text : String
  deriving DecidableEq

namespace Notice

def runArea : String := "chip8"

def settingsArea : String := "chip8::config"

def info (text : String) : Notice := ⟨.info, runArea, text⟩

/-- A notice that settings could not be taken. -/
def settingsWarning (text : String) : Notice := ⟨.warn, settingsArea, text⟩

/-- A notice as it is reported; further lines of its text are indented. -/
def line (n : Notice) : String :=
  let indented := n.text.toList.flatMap fun c => if c = '\n' then '\n' :: List.replicate 4 ' ' else [c]
  Text.upper n.level.name ++ " " ++ String.ofList indented

end Notice

/-- A directive: the level for all areas, or for those that start with a text. -/
structure Verbosity.Directive where
  area : Option String
  level : Level
  deriving DecidableEq

/-- Which notices are shown: directives, of which a level alone counts for all notices and `area=level` for those of
an area; a pattern that texts have to contain; and complaints about what could not be understood. -/
structure Verbosity where
  directives : List Verbosity.Directive
  pattern : Option Text.Pattern
  complaints : List String
  deriving DecidableEq

namespace Verbosity

def level? (s : String) : Option Level :=
  match Text.upper s with
  | "OFF" => some .off
  | "ERROR" => some .error
  | "WARN" => some .warn
  | "INFO" => some .info
  | "DEBUG" => some .debug
  | "TRACE" => some .trace
  | _ => none

def complaint (s : String) : String := "warning: invalid logging spec '" ++ s ++ "', ignoring it"

def split (separator : Char) (s : List Char) : List (List Char) := s.splitOn separator

def directive (s : List Char) : Except String Directive :=
  match split '=' s with
  | [one] =>
    let one := String.ofList one
    match level? one with
    | some l => .ok ⟨none, l⟩
    | none => .ok ⟨some one, .trace⟩
  | [area, level] =>
    let level := String.ofList (Text.trim level)
    if level.isEmpty then .ok ⟨some (String.ofList area), .trace⟩
    else
      match level? level with
      | some l => .ok ⟨some (String.ofList area), l⟩
      | none => .error (complaint level)
  | _ => .error (complaint (String.ofList s))

/-- Directives with one more, which takes the place of one for the same area. -/
def insert (d : Directive) : List Directive → List Directive
  | [] => [d]
  | e :: rest => if e.area = d.area then d :: rest else e :: insert d rest

def add (v : Verbosity) (s : List Char) : Verbosity :=
  if s.isEmpty then v
  else
    match directive s with
    | .ok d => { v with directives := insert d v.directives }
    | .error c => { v with complaints := v.complaints ++ [c] }

def silent : Verbosity := ⟨[], none, []⟩

def ofDirectives (s : List Char) : Verbosity := ((split ',' s).map Text.trim).foldl add silent

def withPattern (v : Verbosity) (s : String) : Verbosity :=
  match Text.Pattern.ofText s with
  | .ok p => { v with pattern := some p }
  | .error e =>
    let report := "warning: invalid regex filter - " ++ String.intercalate "\n" (e.lines s)
    { v with complaints := v.complaints ++ [report] }

def ofText (s : String) : Verbosity :=
  match split '/' s.toList with
  | [directives] => ofDirectives directives
  | [directives, pattern] => (ofDirectives directives).withPattern (String.ofList pattern)
  | _ => { silent with complaints := [complaint s ++ " (too many '/'s)"] }

namespace Directive

/-- The text that areas start with; any area starts with the empty one. -/
def start (d : Directive) : String := d.area.getD ""

def covers (d : Directive) (area : String) : Bool := d.start.toList.isPrefixOf area.toList

end Directive

/-- The directive in force for an area: the one with the longest matching start, of two such the later one. -/
def inForce (v : Verbosity) (area : String) : Option Directive :=
  (v.directives.filter fun d => d.covers area).foldl
    (fun best d =>
      match best with
      | some b => if b.start.length ≤ d.start.length then some d else some b
      | none => some d) none

/-- Whether the directives let a notice of a level and an area through. Without directives only errors pass. -/
def passes (v : Verbosity) (level : Level) (area : String) : Bool :=
  if v.directives.isEmpty then decide (level.rank ≤ Level.error.rank)
  else
    match v.inForce area with
    | some d => decide (level.rank ≤ d.level.rank)
    | none => false

def shows (v : Verbosity) (n : Notice) : Bool :=
  v.passes n.level n.area && v.pattern.all fun p => p.foundIn n.text

end Verbosity

end Chip8
