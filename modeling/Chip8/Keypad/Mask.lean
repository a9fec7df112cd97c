import Chip8.Text.Hex

namespace Chip8.Keypad.Mask

open Text

inductive Problem where
  | empty
  | invalidDigit
  | tooLarge
  deriving DecidableEq

def Problem.message : Problem → String
  | .empty => "cannot parse integer from empty string"
  | .invalidDigit => "invalid digit found in string"
  | .tooLarge => "number too large to fit in target type"

def message (s : String) (p : Problem) : String := "invalid key mask '" ++ s ++ "': " ++ p.message

def unmarked : List Char → List Char
  | '0' :: 'x' :: s => s
  | '0' :: 'X' :: s => s
  | s => s

/-- Reads digits after those that made `n`; the first problem counts, and a wrong digit comes before a value
that grows too large with it. -/
def readDigits (n : Nat) : List Char → Except Problem Nat
  | [] => .ok n
  | c :: s =>
    match hexValue? c with
    | none => .error .invalidDigit
    | some d => if n * 16 + d < UInt16.size then readDigits (n * 16 + d) s else .error .tooLarge

def readNumber : List Char → Except Problem Nat
  | [] => .error .empty
  | ['+'] => .error .invalidDigit
  | '+' :: s => readDigits 0 s
  | s => readDigits 0 s

/-- Reads a mask: hexadecimal digits after an optional mark `0x` and an optional plus sign. -/
def ofText (s : String) : Except Problem UInt16 := (readNumber (unmarked s.toList)).map .ofNat

/-- Reads a mask, or says of the text what is wrong with it. -/
def read (s : String) : Except String UInt16 := (ofText s).mapError (message s)

end Chip8.Keypad.Mask
