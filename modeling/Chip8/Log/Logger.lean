import Chip8.Log.Limiter

namespace Chip8.Log

/-- The configuration of logging and the lines written, the latest first. -/
structure Logger where
  filter : Filter
  limiter : Limiter
  written : List String
  deriving DecidableEq

namespace Logger

/-- Nothing is wanted, the limit is sixty, nothing is written. -/
def fresh : Logger := ⟨.silent, .fresh, []⟩

def lines (log : Logger) : List String := log.written.reverse

def flushed (log : Logger) : Logger := { log with written := [] }

def summary (c : Category) (dropped : Nat) : String :=
  "[" ++ c.name ++ "] WARNING: Rate limit exceeded, " ++ Nat.repr dropped ++
    " log message(s) dropped in the last second"

def put (log : Logger) (line : String) : Logger := { log with written := line :: log.written }

/-- Offers a message. One that is not wanted does not reach the limiter, and its text is made only if it is written;
the answer says whether it was. -/
def offer (log : Logger) (c : Category) (l : Level) (text : Unit → String) : Logger × Bool :=
  if log.filter.wants c l then
    let (limiter, verdict) := log.limiter.ask c
    let log := { log with limiter := limiter }
    let log := match verdict.report with
      | some dropped => log.put (summary c dropped)
      | none => log
    if verdict.admitted then (log.put (text ()), true) else (log, false)
  else (log, false)

def setGlobal (log : Logger) (l : Level) : Logger :=
  { log with filter := { log.filter with global := l } }

def setLevel (log : Logger) (c : Category) (l : Level) : Logger :=
  { log with filter := log.filter.setLevel c l }

def setLimit (log : Logger) (limit : Nat) : Logger :=
  { log with limiter := { log.limiter with limit := limit } }

/-- The logger with every level off; the limit stays. -/
def reset (log : Logger) : Logger := { log with filter := .silent }

end Logger

end Chip8.Log
