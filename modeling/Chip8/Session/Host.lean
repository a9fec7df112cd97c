import Chip8.Random
import Chip8.Session.Notice

namespace Chip8

inductive FileTrouble where
  | missing
  | isDirectory
  | notDirectory
  | notText
  | other (message : String)
  deriving DecidableEq

def FileTrouble.message : FileTrouble → String
  | .missing => "No such file or directory (os error 2)"
  | .isDirectory => "Is a directory (os error 21)"
  | .notDirectory => "Not a directory (os error 20)"
  | .notText => "stream did not contain valid UTF-8"
  | .other message => message

/-- What a run gets from the outside: files, chance and the wish for notices. A run does not write; it only asks
whether a file could be written. -/
structure Host where
  read : String → Except FileTrouble ByteArray
  writable : String → Except FileTrouble Unit
  same : String → String → Bool
  chance : Random
  verbosity : Verbosity

namespace Host

def readText (h : Host) (path : String) : Except FileTrouble String := do
  let bytes ← h.read path
  match String.fromUTF8? bytes with
  | some s => return s
  | none => throw .notText

/-- The outside with a file at a path: an empty one if there was none. -/
def withFile (h : Host) (path : String) : Host :=
  { h with
    read := fun p =>
      match h.read p with
      | .error .missing => if h.same path p then .ok .empty else .error .missing
      | r => r }

end Host

end Chip8
