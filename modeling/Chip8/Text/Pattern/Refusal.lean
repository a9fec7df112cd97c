import Chip8.Text.Pattern.Meaning
import Chip8.Text.Pattern.Reader
import Chip8.Text.Pattern.Size

namespace Chip8.Text.Pattern

inductive Refusal where
  | problem (p : Problem)
  | tooLarge
  | needsAllScripts
  deriving DecidableEq

def Refusal.lines (source : String) : Refusal → List String
  | .problem p => p.lines source
  | .tooLarge => ["Compiled regex exceeds size limit of " ++ Nat.repr sizeLimit ++ " bytes."]
  | .needsAllScripts => ["error building NFA"]

/-- Reads a pattern. It may be refused for what is written, for what that means, or for what it takes to match it. -/
def ofText (source : String) : Except Refusal Pattern :=
  match (Written.ofText source).bind fun w => w.meaning .start with
  | .error p => .error (.problem p)
  | .ok (p, _) =>
    if sizeLimit < p.size false then .error .tooLarge
    else if p.needsAllScripts then .error .needsAllScripts
    else if sizeLimit < p.size true then .error .tooLarge
    else .ok p

end Chip8.Text.Pattern
