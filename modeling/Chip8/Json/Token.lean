import Chip8.Json.Lexeme

namespace Chip8.Json

inductive Literal where
  | null
  | true
  | false
  deriving DecidableEq

namespace Literal

/-- The letters of a literal after its first one. -/
def rest : Literal → List Char
  | .null => ['u', 'l', 'l']
  | .true => ['r', 'u', 'e']
  | .false => ['a', 'l', 's', 'e']

end Literal

inductive Token where
  | openBrace
  | closeBrace
  | openBracket
  | closeBracket
  | colon
  | comma
  | number (n : Lexeme Number)
  | string (s : Lexeme String)
  /-- A literal, or what is wrong with something that starts like one. -/
  | literal (l : Except Error Literal)
  | stray

namespace Token

def isBlank (c : Char) : Bool := c == ' ' || c == '\n' || c == '\t' || c == '\r'

def readLetters (l : Literal) : (wanted s : List Char) → Except Error Literal × List Char
  | [], s => (.ok l, s)
  | _ :: _, [] => (.error .endInValue, [])
  | w :: wanted, c :: s =>
    if c = w then readLetters l wanted s else (.error .expectedLiteral, [])

def isSound : Token → Bool
  | .number n => n.loose.isOk
  | .string s => s.loose.isOk
  | .literal l => l.isOk
  | .stray => false
  | _ => true

/-- The token that starts with `c`, and the text after it. -/
def read (c : Char) (s : List Char) : Token × List Char :=
  if c = '\x7b' then (.openBrace, s)
  else if c = '\x7d' then (.closeBrace, s)
  else if c = '[' then (.openBracket, s)
  else if c = ']' then (.closeBracket, s)
  else if c = ':' then (.colon, s)
  else if c = ',' then (.comma, s)
  else if c = '"' then
    let (l, s) := Lexeme.readString s (.ok [])
    (.string l, s)
  else if c = '-' ∨ c.isDigit then
    let (l, s) := Lexeme.readNumber (c :: s)
    (.number l, s)
  else if c = 'n' then
    let (l, s) := readLetters .null Literal.null.rest s
    (.literal l, s)
  else if c = 't' then
    let (l, s) := readLetters .true Literal.true.rest s
    (.literal l, s)
  else if c = 'f' then
    let (l, s) := readLetters .false Literal.false.rest s
    (.literal l, s)
  else (.stray, s)

/-- Splits text into tokens, up to the first one that no reader can get past. `fuel` bounds the number of characters
looked at. -/
def scanUpTo : (fuel : Nat) → List Char → List Token
  | 0, _ => []
  | _ + 1, [] => []
  | fuel + 1, c :: s =>
    if isBlank c then scanUpTo fuel s
    else
      let (t, s) := read c s
      if t.isSound then t :: scanUpTo fuel s else [t]

/-- The tokens of a text. Every token has at least one character, so the length of the text is fuel enough. -/
def scan (s : List Char) : List Token := scanUpTo s.length s

end Token

end Chip8.Json
