import Chip8.Session

namespace Chip8.Main

def troubleOf (e : IO.Error) : FileTrouble :=
  match e with
  | .noFileOrDirectory _ _ _ => .missing
  | e => .other (toString e)

def readFile (path : String) : IO (Except FileTrouble ByteArray) := do
  try
    return .ok (← IO.FS.readBinFile path)
  catch e =>
    return .error (troubleOf e)

def inputs (args : List String) : List String :=
  match Options.ofArguments args with
  | .ok o => o.rom :: o.config.toList ++ o.load.toList
  | .error _ => []

def freshSeed : IO UInt64 := do
  let bytes ← IO.getRandomBytes 8
  return bytes.toList.foldl (fun n b => n * 256 + b.toUInt64) 0

def hostFor (args : List String) : IO Host := do
  let files ← (inputs args).mapM fun path => do return (path, ← readFile path)
  let verbosity := (← IO.getEnv "RUST_LOG").getD ""
  return {
    read := fun path => (files.lookup path).getD (.error .missing)
    writable := fun _ => .ok ()
    same := fun a b => a == b
    chance := .ofSeed (← freshSeed)
    verbosity := .ofText verbosity }

structure Progress where
  recorder : Option IO.FS.Handle
  began : Nat
  pauses : Nat

def carryOut (p : Progress) (e : Effect) : IO Progress := do
  match e with
  | .show text =>
    let out ← IO.getStdout
    out.putStr text
    out.flush
    return p
  | .report line =>
    IO.eprintln line
    return p
  | .record line =>
    match p.recorder with
    | some h =>
      h.putStrLn line
      h.flush
    | none => IO.eprintln line
    return p
  | .pause =>
    let due := p.began + (p.pauses + 1) * 1000 / tickRate
    let now ← IO.monoMsNow
    IO.sleep (UInt32.ofNat (due - now))
    return { p with pauses := p.pauses + 1 }
  | .openLog path => return { p with recorder := some (← IO.FS.Handle.mk path .append) }
  | .save path text =>
    IO.FS.writeFile path text
    return p

/-- Carries out effects in order; the first one that fails ends the run. -/
def carryOutAll (p : Progress) (exit : Nat) : List Effect → IO UInt32
  | [] => return UInt32.ofNat exit
  | e :: rest => do
    let result ← try
        Except.ok <$> carryOut p e
      catch error => pure (.error error)
    match result with
    | .ok p => carryOutAll p exit rest
    | .error error =>
      let trouble : Trouble := ⟨some e.context, (troubleOf error).message⟩
      trouble.lines.forM IO.eprintln
      return 1

end Chip8.Main

/-- Reads the files that the options name, decides the outcome of the run and carries out its effects in order. -/
def main (args : List String) : IO UInt32 := do
  let outcome := Chip8.Outcome.ofArguments (← Chip8.Main.hostFor args) args
  Chip8.Main.carryOutAll ⟨none, ← IO.monoMsNow, 0⟩ outcome.exit outcome.effects
