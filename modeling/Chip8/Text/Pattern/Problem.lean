namespace Chip8.Text.Pattern

/-- A stretch of a written form, from one place to another one, which is not included. -/
structure Stretch where
  first : Nat
  last : Nat
  deriving DecidableEq

inductive Flaw where
  | backreference
  | boundUnlike
  | bracketUnclosed
  | caseUnknown
  | countEmpty
  | countReversed
  | countTooLarge
  | countUnclosed
  | escapeInBracket
  | escapeUnfinished
  | escapeUnknown
  | flagDangling
  | flagMissing
  | flagNegatedTwice
  | flagTwice
  | flagUnknown
  | groupUnclosed
  | groupUnopened
  | kindUnknown
  | lookAround
  | nameEmpty
  | nameInvalid
  | nameTwice
  | nameUnclosed
  | nestedTooDeep
  | noScalar
  | noText
  | numeralEmpty
  | numeralInvalid
  | operandMissing
  | otherScript
  | propertyInvalid
  | propertyUnknown
  | propertyValueUnknown
  | rangeReversed
  | wordPlaceOrCountUnfinished
  | wordPlaceUnclosed
  | wordPlaceUnknown
  deriving DecidableEq

def depthLimit : Nat := 250

def Flaw.message : Flaw → String
  | .backreference => "backreferences are not supported"
  | .boundUnlike => "invalid range boundary, must be a literal"
  | .bracketUnclosed => "unclosed character class"
  | .caseUnknown =>
    "Unicode-aware case insensitivity matching is not available (make sure the unicode-case feature is enabled)"
  | .countEmpty => "repetition quantifier expects a valid decimal"
  | .countReversed => "invalid repetition count range, the start must be <= the end"
  | .countTooLarge => "decimal literal invalid"
  | .countUnclosed => "unclosed counted repetition"
  | .escapeInBracket => "invalid escape sequence found in character class"
  | .escapeUnfinished => "incomplete escape sequence, reached end of pattern prematurely"
  | .escapeUnknown => "unrecognized escape sequence"
  | .flagDangling => "dangling flag negation operator"
  | .flagMissing => "expected flag but got end of regex"
  | .flagNegatedTwice => "flag negation operator repeated"
  | .flagTwice => "duplicate flag"
  | .flagUnknown => "unrecognized flag"
  | .groupUnclosed => "unclosed group"
  | .groupUnopened => "unopened group"
  | .kindUnknown => "Unicode-aware Perl class not found (make sure the unicode-perl feature is enabled)"
  | .lookAround => "look-around, including look-ahead and look-behind, is not supported"
  | .nameEmpty => "empty capture group name"
  | .nameInvalid => "invalid capture group character"
  | .nameTwice => "duplicate capture group name"
  | .nameUnclosed => "unclosed capture group name"
  | .nestedTooDeep =>
    "exceed the maximum number of nested parentheses/brackets (" ++ Nat.repr depthLimit ++ ")"
  | .noScalar => "hexadecimal literal is not a Unicode scalar value"
  | .noText => "pattern can match invalid UTF-8"
  | .numeralEmpty => "hexadecimal literal empty"
  | .numeralInvalid => "invalid hexadecimal digit"
  | .operandMissing => "repetition operator missing expression"
  | .otherScript => "Unicode not allowed here"
  | .propertyInvalid => "invalid Unicode character class"
  | .propertyUnknown => "Unicode property not found"
  | .propertyValueUnknown => "Unicode property value not found"
  | .rangeReversed => "invalid character class range, the start must be <= the end"
  | .wordPlaceOrCountUnfinished =>
    "found either the beginning of a special word boundary or a bounded repetition on a \\b with an opening " ++
      "brace, but no closing brace"
  | .wordPlaceUnclosed =>
    "special word boundary assertion is either unclosed or contains an invalid character"
  | .wordPlaceUnknown =>
    "unrecognized special word boundary assertion, valid choices are: start, end, start-half or end-half"

/-- A flaw and the stretch that shows it, perhaps with an earlier one that it collides with. -/
structure Problem where
  flaw : Flaw
  place : Stretch
  earlier : Option Stretch
  deriving DecidableEq

/-- A position in a written form of several lines, both numbers from one on. -/
structure Position where
  line : Nat
  column : Nat
  deriving DecidableEq

def Position.ofPlace (source : List Char) (place : Nat) : Position :=
  let before := source.take place
  ⟨before.count '\n' + 1, (before.reverse.takeWhile (· != '\n')).length + 1⟩

/-- The lines of a text. A line feed ends a line, together with a carriage return before it; a text that ends in
one has no further line. -/
def linesOf (s : List Char) : List (List Char) :=
  match (s.splitOn '\n').reverse with
  | [] => []
  | last :: ended =>
    let ended := ended.map fun l => if l.getLast? = some '\r' then l.dropLast else l
    ended.reverse ++ (if last.isEmpty then [] else [last])

/-- Marks under the columns of stretches of one line, the stretches in ascending order. -/
def marks (column : Nat) : List (Position × Position) → List Char
  | [] => []
  | (a, b) :: rest =>
    let count := max 1 (b.column - a.column)
    List.replicate (a.column - column) ' ' ++ List.replicate count '^' ++
      marks (max column a.column + count) rest

/-- A written form under which stretches are marked, as lines. Of several lines each has its number. -/
def notated (source : List Char) (spans : List (Position × Position)) : List String :=
  let lines := linesOf source
  let count := lines.length + (if source.getLast? = some '\n' then 1 else 0)
  let width := if count ≤ 1 then 0 else (Nat.repr count).length
  (lines.zipIdx 1).flatMap fun (line, n) =>
    let number := (Nat.repr n).toList
    let left := if width = 0 then List.replicate 4 ' '
      else List.replicate (width - number.length) ' ' ++ number ++ [':', ' ']
    let here := spans.filter fun s => s.1.line = n ∧ s.2.line = n
    let shown := String.ofList (left ++ line)
    if here.isEmpty then [shown]
    else [shown, String.ofList (List.replicate left.length ' ' ++ marks 1 here)]

def Problem.lines (p : Problem) (source : String) : List String :=
  let source := source.toList
  let stretches := (p.earlier.toList ++ [p.place]).mergeSort fun a b =>
    decide (a.first < b.first ∨ a.first = b.first ∧ a.last ≤ b.last)
  let spans := stretches.map fun s => (Position.ofPlace source s.first, Position.ofPlace source s.last)
  let title := "regex parse error:"
  let verdict := "error: " ++ p.flaw.message
  if source.contains '\n' then
    let rule := String.ofList (List.replicate 79 '~')
    let long := spans.filter fun s => s.1.line ≠ s.2.line
    let notes := long.map fun (a, b) =>
      "on line " ++ Nat.repr a.line ++ " (column " ++ Nat.repr a.column ++ ") through line " ++
        Nat.repr b.line ++ " (column " ++ Nat.repr (b.column - 1) ++ ")"
    title :: rule :: notated source spans ++ rule :: notes ++ [verdict]
  else title :: notated source spans ++ [verdict]

end Chip8.Text.Pattern
