import Chip8.Json.Token

namespace Chip8.Json

inductive Ending where
  | closed
  /-- With the text, where a comma or the closing bracket is due. -/
  | textEnd
  /-- With something else where a comma or the closing bracket is due. -/
  | noComma
  | commaClose
  /-- Objects only: with something else where a name is due. -/
  | noName
  /-- Objects only: with the text after a comma. -/
  | commaTextEnd
  deriving DecidableEq

/-- JSON text as it is written: members in the order of the text, repeated names kept, and the place marked where the
text stops being JSON. Readers walk it in that order, so the first problem that they meet is the first one in the
text. -/
inductive Document where
  | literal (l : Literal)
  | number (n : Lexeme Number)
  | string (s : Lexeme String)
  | array (items : List Document) (ending : Ending)
  | object (members : List (Lexeme String × Document)) (ending : Ending)
  | absent (e : Error)

namespace Document

/-- An array or object that is not finished; items and members are kept with the latest first. -/
inductive Frame where
  | array (items : List Document)
  | object (members : List (Lexeme String × Document)) (name : Lexeme String)

inductive Due where
  | value
  | firstItem
  | item
  /-- The first name of an object, or its end. -/
  | firstName
  /-- A name after a comma, the members read so far being given. -/
  | name (members : List (Lexeme String × Document))
  | colon (members : List (Lexeme String × Document)) (name : Lexeme String)
  | after (d : Document)

/-- A document under construction: what is due, and the unfinished arrays and objects around it, the innermost
first. -/
structure Builder where
  due : Due
  frames : List Frame

structure Root where
  document : Document
  trailing : Bool

/-- Puts a document that breaks off into the frames around it. -/
def enclose (d : Document) : List Frame → Document
  | [] => d
  | .array items :: frames => enclose (.array (d :: items).reverse .textEnd) frames
  | .object members name :: frames =>
    enclose (.object ((name, d) :: members).reverse .textEnd) frames

namespace Builder

def start : Builder := ⟨.value, []⟩

/-- The text breaks off with a given document in the innermost place. -/
def stop (b : Builder) (d : Document) : Builder ⊕ Root := .inr ⟨enclose d b.frames, false⟩

def value (b : Builder) : Token → Builder ⊕ Root
  | .openBrace => .inl ⟨.firstName, b.frames⟩
  | .openBracket => .inl ⟨.firstItem, b.frames⟩
  | .number n => .inl { b with due := .after (.number n) }
  | .string s => .inl { b with due := .after (.string s) }
  | .literal (.ok l) => .inl { b with due := .after (.literal l) }
  | .literal (.error e) => b.stop (.absent e)
  | _ => b.stop (.absent .expectedValue)

/-- An item of a new array is due and `t` is there. -/
def firstItem (b : Builder) : Token → Builder ⊕ Root
  | .closeBracket => .inl { b with due := .after (.array [] .closed) }
  | t => value ⟨.value, .array [] :: b.frames⟩ t

def after (frames : List Frame) (d : Document) (t : Token) : Builder ⊕ Root :=
  match frames, t with
  | [], _ => .inr ⟨d, true⟩
  | .array items :: frames, .comma => .inl ⟨.item, .array (d :: items) :: frames⟩
  | .array items :: frames, .closeBracket =>
    .inl ⟨.after (.array (d :: items).reverse .closed), frames⟩
  | .array items :: frames, _ => stop ⟨.value, frames⟩ (.array (d :: items).reverse .noComma)
  | .object members name :: frames, .comma => .inl ⟨.name ((name, d) :: members), frames⟩
  | .object members name :: frames, .closeBrace =>
    .inl ⟨.after (.object ((name, d) :: members).reverse .closed), frames⟩
  | .object members name :: frames, _ =>
    stop ⟨.value, frames⟩ (.object ((name, d) :: members).reverse .noComma)

def step (b : Builder) (t : Token) : Builder ⊕ Root :=
  match b.due with
  | .value => b.value t
  | .firstItem => b.firstItem t
  | .item =>
    match b.frames, t with
    | .array items :: frames, .closeBracket =>
      stop ⟨.value, frames⟩ (.array items.reverse .commaClose)
    | _, t => b.value t
  | .firstName =>
    match t with
    | .closeBrace => .inl { b with due := .after (.object [] .closed) }
    | .string s => .inl { b with due := .colon [] s }
    | _ => b.stop (.object [] .noName)
  | .name members =>
    match t with
    | .closeBrace => b.stop (.object members.reverse .commaClose)
    | .string s => .inl { b with due := .colon members s }
    | _ => b.stop (.object members.reverse .noName)
  | .colon members name =>
    match t with
    | .colon => .inl ⟨.value, .object members name :: b.frames⟩
    | _ => b.stop (.object ((name, .absent .expectedColon) :: members).reverse .textEnd)
  | .after d => after b.frames d t

def finish (b : Builder) : Root :=
  match b.due with
  | .value | .item => ⟨enclose (.absent .endInValue) b.frames, false⟩
  | .firstItem => ⟨enclose (.array [] .textEnd) b.frames, false⟩
  | .firstName => ⟨enclose (.object [] .textEnd) b.frames, false⟩
  | .name members => ⟨enclose (.object members.reverse .commaTextEnd) b.frames, false⟩
  | .colon members name =>
    ⟨enclose (.object ((name, .absent .endInObject) :: members).reverse .textEnd) b.frames, false⟩
  | .after d =>
    match b.frames with
    | [] => ⟨d, false⟩
    | .array items :: frames => ⟨enclose (.array (d :: items).reverse .textEnd) frames, false⟩
    | .object members name :: frames =>
      ⟨enclose (.object ((name, d) :: members).reverse .textEnd) frames, false⟩

def run : List Token → Builder → Root
  | [], b => b.finish
  | t :: ts, b =>
    match b.step t with
    | .inl b => run ts b
    | .inr root => root

end Builder

def ofText (s : String) : Root := Builder.start.run (Token.scan s.toList)

def listEnd : Ending → Except Error Unit
  | .closed => .ok ()
  | .textEnd => .error .endInList
  | .commaClose => .error .trailingComma
  | _ => .error .expectedCommaOrBracket

/-- What an ending means to a reader of an object's members. -/
def objectEnd : Ending → Except Error Unit
  | .closed => .ok ()
  | .textEnd => .error .endInObject
  | .noComma => .error .expectedCommaOrBrace
  | .commaClose => .error .trailingComma
  | .noName => .error .keyNotString
  | .commaTextEnd => .error .endInValue

/-- What an ending means to a reader that skips over an array. -/
def looseListEnd : Ending → Except Error Unit
  | .commaClose => .error .expectedValue
  | ending => listEnd ending

/-- What an ending means to a reader that skips over an object. -/
def looseObjectEnd : Ending → Except Error Unit
  | .commaClose => .error .keyNotString
  | .commaTextEnd => .error .endInObject
  | ending => objectEnd ending

mutual

/-- Skips over a document; all that matters is that it is JSON. -/
def skim : Document → Except Error Unit
  | .literal _ => .ok ()
  | .number n => n.loose
  | .string s => s.loose
  | .array items ending => do
    skimItems items
    looseListEnd ending
  | .object members ending => do
    skimMembers members
    looseObjectEnd ending
  | .absent e => .error e

def skimItems : List Document → Except Error Unit
  | [] => .ok ()
  | d :: rest => do
    skim d
    skimItems rest

def skimMembers : List (Lexeme String × Document) → Except Error Unit
  | [] => .ok ()
  | (name, d) :: rest => do
    name.loose
    skim d
    skimMembers rest

end

def maxDepth : Nat := 127

mutual

/-- The plain value of a document whose nesting is at most `depth`. -/
def value (depth : Nat) : Document → Except Error Json
  | .literal .null => .ok .null
  | .literal .true => .ok (.bool true)
  | .literal .false => .ok (.bool false)
  | .number n => n.exact.map .number
  | .string s => s.exact.map .string
  | .array items ending =>
    match depth with
    | 0 => .error .tooDeep
    | depth + 1 => do
      let items ← valueItems depth items
      listEnd ending
      return .array items
  | .object members ending =>
    match depth with
    | 0 => .error .tooDeep
    | depth + 1 => do
      let members ← valueMembers depth members
      objectEnd ending
      return .ofMembers members
  | .absent e => .error e

def valueItems (depth : Nat) : List Document → Except Error (List Json)
  | [] => .ok []
  | d :: rest => do
    let v ← value depth d
    let vs ← valueItems depth rest
    return v :: vs

def valueMembers (depth : Nat) : List (Lexeme String × Document) → Except Error (List (String × Json))
  | [] => .ok []
  | (name, d) :: rest => do
    let name ← name.exact
    let v ← value depth d
    let vs ← valueMembers depth rest
    return (name, v) :: vs

end

namespace Root

/-- Reads the whole text with a reader of documents: nothing may stand after the document. -/
def readWith {α : Type} (root : Root) (read : Document → Except Error α) : Except Error α := do
  let a ← read root.document
  if root.trailing then throw .trailingCharacters else return a

end Root

end Document

def ofText (s : String) : Except Error Json :=
  (Document.ofText s).readWith (Document.value Document.maxDepth)

end Chip8.Json
