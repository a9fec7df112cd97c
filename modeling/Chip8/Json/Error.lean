import Chip8.Binary64.Shortest
import Chip8.Json.Basic
import Chip8.Text.Quoted

namespace Chip8.Json

open Text

inductive Found where
  | null
  | bool (b : Bool)
  | number (n : Number)
  | string (s : String)
  | sequence
  | map
  deriving DecidableEq

def intText (z : Int) : String :=
  if z < 0 then "-" ++ Nat.repr z.natAbs else Nat.repr z.natAbs

def Number.text : Number → String
  | .int z => intText z
  | .real x => String.ofList x.text

def Found.text : Found → String
  | .null => "null"
  | .bool b => "boolean `" ++ (if b then "true" else "false") ++ "`"
  | .number (.int z) => "integer `" ++ intText z ++ "`"
  | .number (.real x) => "floating point `" ++ String.ofList x.text ++ "`"
  | .string s => "string " ++ quoted s
  | .sequence => "sequence"
  | .map => "map"

inductive Wanted where
  | unsigned (bits : Nat)
  | size
  | boolean
  | sequence
  | arrayOf (length : Nat)
  | record (name : String)
  deriving DecidableEq

def Wanted.text : Wanted → String
  | .unsigned bits => "u" ++ Nat.repr bits
  | .size => "usize"
  | .boolean => "a boolean"
  | .sequence => "a sequence"
  | .arrayOf length => "an array of length " ++ Nat.repr length
  | .record name => "struct " ++ name

/-- What can be wrong with JSON text, or with a value that is read as something particular. -/
inductive Error where
  | endInValue
  | endInObject
  | endInList
  | endInString
  | expectedValue
  | expectedLiteral
  | keyNotString
  | expectedColon
  | expectedCommaOrBrace
  | expectedCommaOrBracket
  | trailingComma
  | trailingCharacters
  | badNumber
  | numberTooLarge
  | badEscape
  | controlCharacter
  | loneSurrogate
  | unfinishedPair
  | tooDeep
  | wrongType (found : Found) (wanted : Wanted)
  | outOfRange (z : Int) (wanted : Wanted)
  | missingField (name : String)
  | duplicateField (name : String)
  /-- An array with too few items for a record of `fields` fields. -/
  | shortRecord (length : Nat) (name : String) (fields : Nat)
  /-- An array with too few items for a sequence of a fixed length. -/
  | shortArray (length wanted : Nat)
  | longArray (length : Nat)
  deriving DecidableEq

inductive ErrorClass where
  | truncated
  | malformed
  | mismatch
  deriving DecidableEq

namespace Error

def errorClass : Error → ErrorClass
  | .endInValue | .endInObject | .endInList | .endInString => .truncated
  | .wrongType _ _ | .outOfRange _ _ | .missingField _ | .duplicateField _ | .shortRecord _ _ _
  | .shortArray _ _ | .longArray _ => .mismatch
  | _ => .malformed

def message : Error → String
  | .endInValue => "EOF while parsing a value"
  | .endInObject => "EOF while parsing an object"
  | .endInList => "EOF while parsing a list"
  | .endInString => "EOF while parsing a string"
  | .expectedValue => "expected value"
  | .expectedLiteral => "expected ident"
  | .keyNotString => "key must be a string"
  | .expectedColon => "expected `:`"
  | .expectedCommaOrBrace => "expected `,` or `\x7d`"
  | .expectedCommaOrBracket => "expected `,` or `]`"
  | .trailingComma => "trailing comma"
  | .trailingCharacters => "trailing characters"
  | .badNumber => "invalid number"
  | .numberTooLarge => "number out of range"
  | .badEscape => "invalid escape"
  | .controlCharacter => "control character (\\u0000-\\u001F) found while parsing a string"
  | .loneSurrogate => "lone leading surrogate in hex escape"
  | .unfinishedPair => "unexpected end of hex escape"
  | .tooDeep => "recursion limit exceeded"
  | .wrongType found wanted => "invalid type: " ++ found.text ++ ", expected " ++ wanted.text
  | .outOfRange z wanted => "invalid value: integer `" ++ intText z ++ "`, expected " ++ wanted.text
  | .missingField name => "missing field `" ++ name ++ "`"
  | .duplicateField name => "duplicate field `" ++ name ++ "`"
  | .shortRecord length name fields =>
    "invalid length " ++ Nat.repr length ++ ", expected struct " ++ name ++ " with " ++
      Nat.repr fields ++ (if fields = 1 then " element" else " elements")
  | .shortArray length wanted =>
    "invalid length " ++ Nat.repr length ++ ", expected an array of length " ++ Nat.repr wanted
  | .longArray length => "invalid length " ++ Nat.repr length ++ ", expected fewer elements in array"

end Error

end Chip8.Json
