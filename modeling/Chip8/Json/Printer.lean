import Chip8.Json.Error

namespace Chip8.Json

def escapedChar (c : Char) : List Char :=
  if c = '"' then ['\\', '"']
  else if c = '\\' then ['\\', '\\']
  else if c = '\x08' then ['\\', 'b']
  else if c = '\x0c' then ['\\', 'f']
  else if c = '\n' then ['\\', 'n']
  else if c = '\r' then ['\\', 'r']
  else if c = '\t' then ['\\', 't']
  else if c.toNat < 0x20 then ['\\', 'u'] ++ (Nat.toDigits 16 c.toNat).leftpad 4 '0'
  else [c]

/-- A string between quotes, in front of `rest`. -/
def writeString (s : String) (rest : List Char) : List Char :=
  '"' :: s.toList.foldr (fun c rest => escapedChar c ++ rest) ('"' :: rest)

/-- A value without items or members, in front of `rest`. -/
def writeScalar (v : Json) (rest : List Char) : List Char :=
  match v with
  | .null => 'n' :: 'u' :: 'l' :: 'l' :: rest
  | .bool true => 't' :: 'r' :: 'u' :: 'e' :: rest
  | .bool false => 'f' :: 'a' :: 'l' :: 's' :: 'e' :: rest
  | .number n => n.text.toList ++ rest
  | .string s => writeString s rest
  | .array _ => '[' :: ']' :: rest
  | .object _ => '\x7b' :: '\x7d' :: rest

mutual

/-- A value in compact form, in front of `rest`. -/
def writeCompact : Json → (rest : List Char) → List Char
  | .array (v :: vs), rest => '[' :: writeCompact v (writeCompactItems vs (']' :: rest))
  | .object ((name, v) :: ms), rest =>
    '\x7b' :: writeString name (':' :: writeCompact v (writeCompactMembers ms ('\x7d' :: rest)))
  | v, rest => writeScalar v rest

def writeCompactItems : List Json → (rest : List Char) → List Char
  | [], rest => rest
  | v :: vs, rest => ',' :: writeCompact v (writeCompactItems vs rest)

def writeCompactMembers : List (String × Json) → (rest : List Char) → List Char
  | [], rest => rest
  | (name, v) :: ms, rest =>
    ',' :: writeString name (':' :: writeCompact v (writeCompactMembers ms rest))

end

/-- A new line and the indentation of a depth, in front of `rest`. -/
def newLine (depth : Nat) (rest : List Char) : List Char :=
  '\n' :: (List.replicate (2 * depth) ' ' ++ rest)

mutual

/-- A value laid out at a depth, in front of `rest`. -/
def writeLaidOut (depth : Nat) : Json → (rest : List Char) → List Char
  | .array (v :: vs), rest =>
    '[' :: newLine (depth + 1) (writeLaidOut (depth + 1) v
      (writeLaidOutItems (depth + 1) vs (newLine depth (']' :: rest))))
  | .object ((name, v) :: ms), rest =>
    '\x7b' :: newLine (depth + 1) (writeString name (':' :: ' ' :: writeLaidOut (depth + 1) v
      (writeLaidOutMembers (depth + 1) ms (newLine depth ('\x7d' :: rest)))))
  | v, rest => writeScalar v rest

/-- Further items at a depth, each after a comma and on a line of its own. -/
def writeLaidOutItems (depth : Nat) : List Json → (rest : List Char) → List Char
  | [], rest => rest
  | v :: vs, rest => ',' :: newLine depth (writeLaidOut depth v (writeLaidOutItems depth vs rest))

/-- Further members at a depth, each after a comma and on a line of its own. -/
def writeLaidOutMembers (depth : Nat) : List (String × Json) → (rest : List Char) → List Char
  | [], rest => rest
  | (name, v) :: ms, rest =>
    ',' :: newLine depth (writeString name (':' :: ' ' :: writeLaidOut depth v
      (writeLaidOutMembers depth ms rest)))

end

def compact (v : Json) : String := String.ofList (writeCompact v [])

def laidOut (v : Json) : String := String.ofList (writeLaidOut 0 v [])

end Chip8.Json
