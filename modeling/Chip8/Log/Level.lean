import Chip8.Text.Caseless

namespace Chip8.Log

open Text

/-- How grave a message is, from messages that are never written to the most talkative ones. -/
inductive Level where
  | off
  | error
  | warn
  | info
  | debug
  | trace
  deriving DecidableEq

namespace Level

/-- The position of a level; a filter that admits one level admits all lower ones. -/
def rank : Level → Nat
  | .off => 0
  | .error => 1
  | .warn => 2
  | .info => 3
  | .debug => 4
  | .trace => 5

/-- Reads a name or a number from 0 to 5, in any case. -/
def ofText? (s : String) : Option Level :=
  match lower s with
  | "off" | "0" => some .off
  | "error" | "err" | "1" => some .error
  | "warn" | "warning" | "2" => some .warn
  | "info" | "3" => some .info
  | "debug" | "4" => some .debug
  | "trace" | "5" => some .trace
  | _ => none

def name : Level → String
  | .off => "Off"
  | .error => "Error"
  | .warn => "Warn"
  | .info => "Info"
  | .debug => "Debug"
  | .trace => "Trace"

end Level

inductive Category where
  | cpu
  | memory
  | display
  | timers
  | input
  | stubs
  deriving DecidableEq

namespace Category

def all : List Category := [.cpu, .memory, .display, .timers, .input, .stubs]

def ofText? (s : String) : Option Category :=
  match lower s with
  | "cpu" => some .cpu
  | "memory" | "mem" => some .memory
  | "display" | "video" => some .display
  | "timers" | "timer" => some .timers
  | "input" | "keypad" => some .input
  | "stubs" | "stub" => some .stubs
  | _ => none

def name : Category → String
  | .cpu => "CPU"
  | .memory => "Memory"
  | .display => "Display"
  | .timers => "Timers"
  | .input => "Input"
  | .stubs => "Stubs"

end Category

structure PerCategory (α : Type) where
  cpu : α
  memory : α
  display : α
  timers : α
  input : α
  stubs : α
  deriving DecidableEq

namespace PerCategory

variable {α : Type}

def const (a : α) : PerCategory α := ⟨a, a, a, a, a, a⟩

def get (t : PerCategory α) : Category → α
  | .cpu => t.cpu
  | .memory => t.memory
  | .display => t.display
  | .timers => t.timers
  | .input => t.input
  | .stubs => t.stubs

def set (t : PerCategory α) (c : Category) (a : α) : PerCategory α :=
  match c with
  | .cpu => { t with cpu := a }
  | .memory => { t with memory := a }
  | .display => { t with display := a }
  | .timers => { t with timers := a }
  | .input => { t with input := a }
  | .stubs => { t with stubs := a }

theorem get_set_self (t : PerCategory α) (c : Category) (a : α) : (t.set c a).get c = a := by
  cases c <;> rfl

theorem get_set_ne (t : PerCategory α) {c d : Category} (h : c ≠ d) (a : α) :
    (t.set c a).get d = t.get d := by
  cases c <;> cases d <;> simp_all [get, set]

end PerCategory

/-- Which messages are wanted: a level for all categories and one for each; a category whose level is `off`
follows the one for all. -/
structure Filter where
  global : Level
  levels : PerCategory Level
  deriving DecidableEq

namespace Filter

def silent : Filter := ⟨.off, .const .off⟩

def effective (f : Filter) (c : Category) : Level :=
  if f.levels.get c = .off then f.global else f.levels.get c

/-- Whether a message is wanted. Nothing is ever written at level `off`. -/
def wants (f : Filter) (c : Category) (l : Level) : Bool :=
  l != .off && decide (l.rank ≤ (f.effective c).rank)

def setLevel (f : Filter) (c : Category) (l : Level) : Filter :=
  { f with levels := f.levels.set c l }

end Filter

end Chip8.Log
