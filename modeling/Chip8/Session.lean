import Chip8.Console.Command
import Chip8.Listing
import Chip8.Options
import Chip8.Session.Host

namespace Chip8

open Log

inductive Effect where
  | show (text : String)
  | report (line : String)
  | record (line : String)
  | pause
  /-- Opens the log file, which is created if it is not there. -/
  | openLog (path : String)
  | save (path : String) (text : String)
  deriving DecidableEq

/-- What a run is doing while it has an effect, where that can fail. -/
def Effect.context : Effect → String
  | .show _ => "writing output"
  | .report _ => "writing a report"
  | .record _ => "writing to the log file"
  | .pause => "waiting"
  | .openLog path => "opening log file " ++ path
  | .save path _ => "writing " ++ path

/-- What ends a run: a cause, and perhaps what was being done. -/
structure Trouble where
  context : Option String
  cause : String
  deriving DecidableEq

def Trouble.lines (t : Trouble) : List String :=
  match t.context with
  | none => ["Error: " ++ t.cause]
  | some context => ["Error: " ++ context, "", "Caused by:", "    " ++ t.cause]

structure Outcome where
  effects : List Effect
  exit : Nat
  deriving DecidableEq

structure Session where
  log : Logger
  recording : Bool
  verbosity : Verbosity
  effects : List Effect
  deriving DecidableEq

/-- Settings from a file, or the defaults with a notice about what is wrong. -/
def Settings.ofFile (path : String) (content : Except FileTrouble String) : Settings × List Notice :=
  match content with
  | .error e =>
    (.default,
      [.settingsWarning ("Cannot read " ++ path ++ ": " ++ e.message ++ ". Using defaults.")])
  | .ok s =>
    match Settings.ofText s with
    | .ok settings => (settings, [])
    | .error e =>
      (.default,
        [.settingsWarning ("Failed to parse " ++ path ++ ": " ++ e.message ++ ". Using defaults.")])

def Settings.override (s : Settings) (o : Options) : Settings where
  machine := {
    instructionsPerFrame := match o.ipf with
      | some n => .ofNat n
      | none => s.machine.instructionsPerFrame
    seed := match o.seed with
      | some n => some (.ofNat n)
      | none => s.machine.seed }
  keys := o.keys.getD s.keys
  realtime := s.realtime || o.realtime

namespace Session

/-- A step of a run. A trouble ends the run but not the effects that it had. -/
abbrev Act := EStateM Trouble Session

def start (host : Host) : Session :=
  ⟨.fresh, false, host.verbosity, host.verbosity.complaints.reverse.map .report⟩

def emit (e : Effect) : Act Unit := modify fun s => { s with effects := e :: s.effects }

def lineEffect (s : Session) (line : String) : Effect :=
  if s.recording then .record line else .report line

/-- The session after the logger heard of events, its lines having become effects. A session has no clock: all
its calls are taken to fall into one window of a second, so no window slides and no second report falls due. In a
run that lasts longer, the lines beyond the limit are not those that a logger with a clock would write. -/
def hear (s : Session) (events : Unit → List Event) : Session :=
  let log := s.log.hear events
  { s with
    log := log.flushed
    effects := log.written.map s.lineEffect ++ s.effects }

def tell (events : Unit → List Event) : Act Unit := modify fun s => s.hear events

def notify (n : Notice) : Act Unit :=
  modify fun s => if s.verbosity.shows n then { s with effects := .report n.line :: s.effects } else s

/-- Goes on with the value of a result, or ends with a trouble in a context. -/
def within {ε α : Type} (context : String) (message : ε → String) : Except ε α → Act α
  | .ok a => pure a
  | .error e => throw ⟨some context, message e⟩

def setUpLogging (host : Host) (o : Options) : Act Host := do
  modify fun s =>
    let log := match o.logLevel with
      | some l => s.log.setGlobal l
      | none => s.log
    let log := o.logLevels.foldl (fun log (c, l) => log.setLevel c l) log
    let log := match o.logRateLimit with
      | some n => log.setLimit n
      | none => log
    { s with log := log }
  match o.logFile with
  | none => return host
  | some path =>
    within (Effect.openLog path).context FileTrouble.message (host.writable path)
    emit (.openLog path)
    modify fun s => { s with recording := true }
    return host.withFile path

def effectiveSettings (host : Host) (o : Options) : Act Settings :=
  match o.config with
  | none => pure (Settings.default.override o)
  | some path => do
    let (settings, notices) := Settings.ofFile path (host.readText path)
    notices.forM notify
    return settings.override o

def mounted (host : Host) (o : Options) (settings : Settings) (program : List UInt8) : Act Console := do
  let c := Console.powerOn settings.machine host.chance
  tell fun _ => c.mountEvents Console.programSlot program
  let (c, result) := c.mount Console.programSlot program
  within ("loading " ++ o.rom) Failure.message result
  notify (.info ("Loaded " ++ o.rom ++ " (" ++ Nat.repr program.length ++ " bytes), " ++
    Nat.repr settings.machine.instructionsPerFrame.toNat ++ " instructions/frame"))
  return c

def restored (host : Host) (path : String) (c : Console) : Act Console := do
  let text ← within ("reading " ++ path) FileTrouble.message (host.readText path)
  match Json.ofText text with
  | .error e => throw ⟨none, e.message⟩
  | .ok save =>
    let (c, result) := c.restore save
    within ("restoring " ++ path) Save.Refusal.message result
    notify (.info ("Restored save-state from " ++ path))
    return c

def withKeys (mask : UInt16) (c : Console) : Act Console := do
  tell fun _ => c.setKeysEvents mask
  return c.setKeys mask

/-- Shows the display, if it changed, from the upper left corner of the screen on. -/
def showUpdate (c : Console) : Act Console :=
  match c.takeUpdate with
  | (c, some text) => do
    emit (.show ("\x1b[H" ++ text))
    return c
  | (c, none) => return c

def frame (o : Options) (paced : Bool) (number : Nat) (c : Console) : Act Console := do
  tell fun _ => c.frameEvents
  let (c, result) := c.stepFrame
  let _ ← within ("frame " ++ Nat.repr number) Failure.message result
  let c ← if o.render then showUpdate c else pure c
  if paced then emit .pause
  return c

/-- Runs so many frames, the first of them having a given number. -/
def frames (o : Options) (paced : Bool) : (count first : Nat) → Console → Act Console
  | 0, _, c => pure c
  | count + 1, first, c => do
    let c ← frame o paced first c
    frames o paced count (first + 1) c

def conclude (host : Host) (o : Options) (c : Console) : Act Unit := do
  if !o.render then emit (.show c.machine.display.text)
  notify (.info ("Ran " ++ Nat.repr o.frames ++ " frames, PC=" ++ Text.hex 3 c.machine.pc.toNat ++
    ", sound " ++ (if c.sounding then "on" else "off")))
  match o.save with
  | none => pure ()
  | some path =>
    let save := Effect.save path c.save.laidOut
    within save.context FileTrouble.message (host.writable path)
    emit save

def play (host : Host) (o : Options) : Act Unit := do
  let host ← setUpLogging host o
  let bytes ← within ("reading " ++ o.rom) FileTrouble.message (host.read o.rom)
  let program := bytes.toList
  if o.disassemble then emit (.show (Listing.text (listing programStart program)))
  else
    let settings ← effectiveSettings host o
    let c ← mounted host o settings program
    let c ← match o.load with
      | some path => restored host path c
      | none => pure c
    let c ← withKeys settings.keys c
    let c ← frames o settings.realtime o.frames 1 c
    conclude host o c

def outcome (host : Host) (o : Options) : Outcome :=
  match (play host o).run (start host) with
  | .ok () s => ⟨s.effects.reverse, 0⟩
  | .error t s => ⟨s.effects.reverse ++ t.lines.map .report, 1⟩

end Session

def usage : String := "Usage: chip8 [OPTIONS] <ROM>"

def Outcome.ofArguments (host : Host) (args : List String) : Outcome :=
  match Options.ofArguments args with
  | .ok o => Session.outcome host o
  | .error .helpWanted => ⟨host.verbosity.complaints.map .report ++ [.show (usage ++ "\n")], 0⟩
  | .error e => ⟨(e.line?.toList ++ [usage]).map .report, 2⟩

end Chip8
