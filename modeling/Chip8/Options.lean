import Chip8.Keypad.Mask
import Chip8.Log.Level

namespace Chip8

open Log

structure Options where
  rom : String
  config : Option String
  frames : Nat
  ipf : Option Nat
  seed : Option Nat
  keys : Option UInt16
  realtime : Bool
  render : Bool
  /-- Whether a listing is wanted and nothing else. -/
  disassemble : Bool
  load : Option String
  save : Option String
  logLevel : Option Level
  logLevels : List (Category × Level)
  logFile : Option String
  /-- The most messages that a category may write in a second. -/
  logRateLimit : Option Nat
  deriving DecidableEq

namespace Options

/-- A value that an option cannot take, and what its reader says about it. The readers of numbers say nothing. -/
structure Refusal where
  value : String
  message : Option String
  deriving DecidableEq

inductive Error where
  /-- The text of the options is wanted, not a run. -/
  | helpWanted
  | missingRom
  | unknown (arg : String)
  /-- An option without its value, or a file name that is empty. -/
  | emptyValue (option : String)
  | invalidValue (option : String) (refusal : Refusal)
  | repeated (option : String)
  | unwantedValue (option : String)
  deriving DecidableEq

def Error.line? : Error → Option String
  | .invalidValue option ⟨value, some message⟩ =>
    some ("error: invalid value '" ++ value ++ "' for '--" ++ option ++ "': " ++ message)
  | _ => none

/-- The options that are either given or not. -/
inductive Switch where
  | realtime
  | render
  | disassemble
  | help
  deriving DecidableEq

/-- What takes a value: the program, and the options with a value. -/
inductive Slot where
  | rom
  | config
  | frames
  | ipf
  | seed
  | keys
  | load
  | save
  | logLevel
  | log
  | logFile
  | logRateLimit
  deriving DecidableEq

def Slot.name : Slot → String
  | .rom => "rom"
  | .config => "config"
  | .frames => "frames"
  | .ipf => "ipf"
  | .seed => "seed"
  | .keys => "keys"
  | .load => "load"
  | .save => "save"
  | .logLevel => "log-level"
  | .log => "log"
  | .logFile => "log-file"
  | .logRateLimit => "log-rate-limit"

def Switch.name : Switch → String
  | .realtime => "realtime"
  | .render => "render"
  | .disassemble => "disassemble"
  | .help => "help"

def valueOptions : List Slot :=
  [.config, .frames, .ipf, .seed, .keys, .load, .save, .logLevel, .log, .logFile, .logRateLimit]

def switches : List Switch := [.realtime, .render, .disassemble, .help]

def digits? (s : List Char) : Option Nat :=
  if s.isEmpty || !s.all Char.isDigit then none
  else some (s.foldl (fun n c => n * 10 + (c.toNat - '0'.toNat)) 0)

/-- Reads a number of at most `bits` bits, with an optional plus sign. -/
def unsigned? (bits : Nat) (s : String) : Option Nat :=
  let n := match s.toList with
    | '+' :: s => digits? s
    | s => digits? s
  n.filter fun n => decide (n < 1 <<< bits)

/-- Reads a number of at most 32 bits. A minus sign is admitted too, which leaves zero. -/
def word32? (s : String) : Option Nat :=
  match s.toList with
  | '-' :: s => (digits? s).filter (· == 0)
  | _ => unsigned? 32 s

def levelMessage (s : String) : String := "unknown log level '" ++ s ++ "'"

def readLevel (s : String) : Except String Level :=
  match Level.ofText? s with
  | some l => .ok l
  | none => .error (levelMessage s)

/-- What is wrong with the text of a category and its level. -/
inductive LevelProblem where
  | noLevel (s : String)
  | unknownCategory (s : String)
  | unknownLevel (s : String)
  deriving DecidableEq

def LevelProblem.message : LevelProblem → String
  | .noLevel s => "expected CATEGORY=LEVEL, got '" ++ s ++ "'"
  | .unknownCategory s => "unknown category '" ++ s ++ "'"
  | .unknownLevel s => levelMessage s

def splitAtEquals? (s : List Char) : Option (String × String) :=
  match s.dropWhile (· != '=') with
  | _ :: after => some (String.ofList (s.takeWhile (· != '=')), String.ofList after)
  | [] => none

def categoryLevel (s : String) : Except LevelProblem (Category × Level) :=
  match splitAtEquals? s.toList with
  | none => .error (.noLevel s)
  | some (category, level) =>
    match Category.ofText? category with
    | none => .error (.unknownCategory category)
    | some c =>
      match Level.ofText? level with
      | none => .error (.unknownLevel level)
      | some l => .ok (c, l)

structure Draft where
  rom : Option String
  config : Option String
  frames : Option Nat
  ipf : Option Nat
  seed : Option Nat
  keys : Option UInt16
  load : Option String
  save : Option String
  logLevel : Option Level
  logLevels : List (Category × Level)
  logFile : Option String
  logRateLimit : Option Nat
  realtime : Bool
  render : Bool
  disassemble : Bool

namespace Draft

def empty : Draft :=
  ⟨none, none, none, none, none, none, none, none, none, [], none, none, false, false, false⟩

/-- Fills a place that must be empty with what was read from a text. -/
def fill {α : Type} (slot : Slot) (old : Option α) (value : String) (result : Except (Option String) α) :
    Except Error (Option α) :=
  if old.isSome then .error (.repeated slot.name)
  else
    match result with
    | .ok a => .ok (some a)
    | .error message => .error (.invalidValue slot.name ⟨value, message⟩)

/-- A number that was read, or nothing to say about its text. -/
def number : Option Nat → Except (Option String) Nat
  | some n => .ok n
  | none => .error none

/-- Fills a place that must be empty with a file name, which must not be empty. -/
def fillPath (slot : Slot) (old : Option String) (value : String) : Except Error (Option String) :=
  if old.isSome then .error (.repeated slot.name)
  else if value.isEmpty then .error (.emptyValue slot.name)
  else .ok (some value)

def put (d : Draft) (slot : Slot) (value : String) : Except Error Draft :=
  match slot with
  | .rom => do return { d with rom := ← fillPath slot d.rom value }
  | .config => do return { d with config := ← fillPath slot d.config value }
  | .frames => do return { d with frames := ← fill slot d.frames value (number (word32? value)) }
  | .ipf => do return { d with ipf := ← fill slot d.ipf value (number (word32? value)) }
  | .seed => do return { d with seed := ← fill slot d.seed value (number (unsigned? 64 value)) }
  | .keys => do return { d with keys := ← fill slot d.keys value ((Keypad.Mask.read value).mapError some) }
  | .load => do return { d with load := ← fillPath slot d.load value }
  | .save => do return { d with save := ← fillPath slot d.save value }
  | .logLevel => do
    return { d with logLevel := ← fill slot d.logLevel value ((readLevel value).mapError some) }
  | .log =>
    match categoryLevel value with
    | .ok setting => .ok { d with logLevels := d.logLevels ++ [setting] }
    | .error p => .error (.invalidValue slot.name ⟨value, some p.message⟩)
  | .logFile => do return { d with logFile := ← fillPath slot d.logFile value }
  | .logRateLimit => do
    return { d with logRateLimit := ← fill slot d.logRateLimit value (number (unsigned? 64 value)) }

def turnOn (d : Draft) (s : Switch) : Except Error Draft :=
  match s with
  | .realtime => if d.realtime then .error (.repeated s.name) else .ok { d with realtime := true }
  | .render => if d.render then .error (.repeated s.name) else .ok { d with render := true }
  | .disassemble =>
    if d.disassemble then .error (.repeated s.name) else .ok { d with disassemble := true }
  | .help => .error .helpWanted

/-- The options, if the program is named; sixty frames unless said otherwise. -/
def complete (d : Draft) : Except Error Options :=
  match d.rom with
  | none => .error .missingRom
  | some rom => .ok {
      rom := rom
      config := d.config
      frames := d.frames.getD 60
      ipf := d.ipf
      seed := d.seed
      keys := d.keys
      realtime := d.realtime
      render := d.render
      disassemble := d.disassemble
      load := d.load
      save := d.save
      logLevel := d.logLevel
      logLevels := d.logLevels
      logFile := d.logFile
      logRateLimit := d.logRateLimit }

end Draft

/-- A slot that is named and waits to be filled, with its value once that is there. -/
structure Pending where
  slot : Slot
  value : Option String

/-- The state between two arguments. The value of a slot is looked at when the next slot or switch comes, or at
the end. -/
structure State where
  draft : Draft
  pending : Option Pending
  named : Bool

namespace State

def start : State := ⟨.empty, none, false⟩

def settle (s : State) : Except Error State :=
  match s.pending with
  | none => .ok s
  | some ⟨slot, none⟩ => .error (.emptyValue slot.name)
  | some ⟨slot, some value⟩ => do return { s with draft := ← s.draft.put slot value, pending := none }

def wanting (s : State) : Option Slot :=
  match s.pending with
  | some ⟨slot, none⟩ => some slot
  | _ => none

/-- Takes a positional argument; there is one at most. -/
def positional (s : State) (arg : String) : Except Error State :=
  if s.named then .error (.unknown arg)
  else do
    let s ← s.settle
    return { s with pending := some ⟨.rom, some arg⟩, named := true }

/-- Takes an option, given without its dashes as a name and perhaps a value after an equals sign. -/
def option (s : State) (name : String) (value : Option String) : Except Error State :=
  match valueOptions.find? (·.name == name), switches.find? (·.name == name), value with
  | some slot, _, some v => do
    let s ← s.settle
    return { s with draft := ← s.draft.put slot v }
  | some slot, _, none => do
    let s ← s.settle
    return { s with pending := some ⟨slot, none⟩ }
  | none, some w, some _ => .error (.unwantedValue w.name)
  | none, some w, none => do
    let s ← s.settle
    return { s with draft := ← s.draft.turnOn w }
  | none, none, _ => .error (.unknown ("--" ++ name))

/-- Takes an argument that starts with a single dash and is not the dash alone: only `-h` is known, and what
follows it in the same argument is not looked at. -/
def short (s : State) (letters : List Char) : Except Error State :=
  match letters with
  | 'h' :: _ => do
    let _ ← s.settle
    throw .helpWanted
  | _ => .error (.unknown ("-" ++ String.ofList letters))

def plain (s : State) (arg : String) : Except Error State :=
  match s.wanting with
  | some slot => .ok { s with pending := some ⟨slot, some arg⟩ }
  | none => s.positional arg

/-- Takes one argument, which is not the `--` alone. -/
def argument (s : State) (arg : String) : Except Error State :=
  match arg.toList with
  | '-' :: '-' :: cs =>
    match splitAtEquals? cs with
    | some (name, value) => s.option name (some value)
    | none => s.option (String.ofList cs) none
  | ['-'] => s.plain arg
  | '-' :: cs => s.short cs
  | _ => s.plain arg

def positionals (s : State) : List String → Except Error State
  | [] => .ok s
  | arg :: rest => do positionals (← s.positional arg) rest

def arguments (s : State) : List String → Except Error State
  | [] => .ok s
  | "--" :: rest => s.positionals rest
  | arg :: rest => do arguments (← s.argument arg) rest

end State

/-- Reads a command line, given without the name of the program that is called. An option takes its value from the
same argument, after an equals sign, or from the next one; after `--` every argument is positional. -/
def ofArguments (args : List String) : Except Error Options := do
  let s ← State.start.arguments args
  (← s.settle).draft.complete

end Options

end Chip8
