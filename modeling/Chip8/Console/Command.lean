import Chip8.Console.Save
import Chip8.Event

namespace Chip8

open Log

/-- An operation on a console as data, so that a history is a list. -/
inductive Command where
  | mount (id : String) (program : List UInt8)
  | unmount (id : String)
  | reset
  | step
  | stepFrame
  | tick
  | setKeys (mask : UInt16)
  | press (key : UInt8)
  | release (key : UInt8)
  | takeUpdate
  | save
  | restore (save : Json)

inductive Answer where
  | done
  | executed (i : Instruction)
  | frame (f : Frame)
  | update (text : Option String)
  | saved (v : Json)
  | failed (e : Failure)
  | refused (r : Save.Refusal)

/-- The answer of an operation that only succeeds or fails. -/
def Answer.ofUnit : Except Failure Unit → Answer
  | .ok () => .done
  | .error e => .failed e

def Answer.ofStep : Except Failure Instruction → Answer
  | .ok i => .executed i
  | .error e => .failed e

def Answer.ofFrame : Except Failure Frame → Answer
  | .ok f => .frame f
  | .error e => .failed e

def Answer.ofRestore : Except Save.Refusal Unit → Answer
  | .ok () => .done
  | .error r => .refused r

namespace Console

def answering {α : Type} (answer : α → Answer) (r : Console × α) : Console × Answer :=
  (r.1, answer r.2)

def perform (c : Console) : Command → Console × Answer
  | .mount id program => answering .ofUnit (c.mount id program)
  | .unmount id => answering .ofUnit (c.unmount id)
  | .reset => (c.reset, .done)
  | .step => answering .ofStep c.step
  | .stepFrame => answering .ofFrame c.stepFrame
  | .tick => (c.tick, .done)
  | .setKeys mask => (c.setKeys mask, .done)
  | .press key => (c.press key, .done)
  | .release key => (c.release key, .done)
  | .takeUpdate => answering .update c.takeUpdate
  | .save => (c, .saved c.save)
  | .restore save => answering .ofRestore (c.restore save)

def events (c : Console) : Command → List Event
  | .mount id program => c.mountEvents id program
  | .reset => c.resetEvents
  | .step => c.stepEvents
  | .stepFrame => c.frameEvents
  | .setKeys mask => c.setKeysEvents mask
  | _ => []

def play (c : Console) : List Command → Console × List Answer
  | [] => (c, [])
  | cmd :: rest =>
    let (c, answer) := c.perform cmd
    let (c, answers) := c.play rest
    (c, answer :: answers)

/-- Carries out a command and tells a logger about it. -/
def performTelling (c : Console) (log : Logger) (cmd : Command) : Console × Logger × Answer :=
  let log := log.hear fun _ => c.events cmd
  let (c, answer) := c.perform cmd
  (c, log, answer)

end Console

end Chip8
