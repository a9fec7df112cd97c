import Chip8.Log.Level

namespace Chip8.Log

/-- What a category did in the current window of a second. All calls are taken to fall into one window. -/
structure Window where
  admitted : Nat
  pending : Nat
  reported : Bool
  deriving DecidableEq

/-- What the limiter says about one message: whether it may be written, and how many dropped messages are to
be reported before it. -/
structure Verdict where
  admitted : Bool
  report : Option Nat
  deriving DecidableEq

namespace Window

def fresh : Window := ⟨0, 0, false⟩

/-- Asks for one message. The first drop is reported at once; later drops are reported by the next message that is let
through, which happens if the limit was raised meanwhile. -/
def ask (w : Window) (limit : Nat) : Window × Verdict :=
  if w.admitted < limit then
    if w.pending = 0 then ({ w with admitted := w.admitted + 1 }, ⟨true, none⟩)
    else (⟨w.admitted + 1, 0, true⟩, ⟨true, some w.pending⟩)
  else if w.reported then ({ w with pending := w.pending + 1 }, ⟨false, none⟩)
  else (⟨w.admitted, 0, true⟩, ⟨false, some (w.pending + 1)⟩)

end Window

structure Limiter where
  limit : Nat
  windows : PerCategory Window
  deriving DecidableEq

namespace Limiter

def fresh : Limiter := ⟨60, .const .fresh⟩

def ask (l : Limiter) (c : Category) : Limiter × Verdict :=
  let (window, verdict) := (l.windows.get c).ask l.limit
  ({ l with windows := l.windows.set c window }, verdict)

end Limiter

end Chip8.Log
