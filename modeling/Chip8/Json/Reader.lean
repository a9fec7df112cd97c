import Chip8.Json.Document

namespace Chip8.Json

/-- A number as an unsigned whole number below `2 ^ bits`. -/
def Number.unsigned (n : Number) (bits : Nat) (wanted : Wanted) : Except Error Nat :=
  match n with
  | .int z => if 0 ≤ z ∧ z < (1 <<< bits : Nat) then .ok z.toNat else .error (.outOfRange z wanted)
  | .real _ => .error (.wrongType (.number n) wanted)

/-- A field that was read before may not come again. -/
def once {α : Type} (name : String) (old : Option α) (read : Except Error α) :
    Except Error (Option α) :=
  match old with
  | some _ => .error (.duplicateField name)
  | none => read.map some

/-- A field without which the record is not complete. -/
def required {α : Type} (name : String) : Option α → Except Error α
  | some a => .ok a
  | none => .error (.missingField name)

namespace Document

/-- The error of finding `d` where something else is wanted. What is wrong with `d` itself comes first. -/
def mismatch {α : Type} (d : Document) (wanted : Wanted) : Except Error α :=
  match d with
  | .literal .null => .error (.wrongType .null wanted)
  | .literal .true => .error (.wrongType (.bool true) wanted)
  | .literal .false => .error (.wrongType (.bool false) wanted)
  | .number n => do throw (.wrongType (.number (← n.exact)) wanted)
  | .string s => do throw (.wrongType (.string (← s.exact)) wanted)
  | .array _ _ => .error (.wrongType .sequence wanted)
  | .object _ _ => .error (.wrongType .map wanted)
  | .absent e => .error e

def unsigned (bits : Nat) (d : Document) : Except Error Nat :=
  match d with
  | .number n => do (← n.exact).unsigned bits (.unsigned bits)
  | d => d.mismatch (.unsigned bits)

def boolean (d : Document) : Except Error Bool :=
  match d with
  | .literal .true => .ok true
  | .literal .false => .ok false
  | d => d.mismatch .boolean

def optional {α : Type} (read : Document → Except Error α) (d : Document) : Except Error (Option α) :=
  match d with
  | .literal .null => .ok none
  | d => (read d).map some

def sequence {α : Type} (read : Document → Except Error α) (d : Document) : Except Error (List α) :=
  match d with
  | .array items ending => do
    let as ← items.mapM read
    listEnd ending
    return as
  | d => d.mismatch .sequence

/-- The next item of an array, or nothing if the array is closed, and the items after it. -/
def nextItem {α : Type} (read : Document → Except Error α) (items : List Document) (ending : Ending) :
    Except Error (Option α × List Document) :=
  match items with
  | d :: rest => do return (some (← read d), rest)
  | [] => do
    listEnd ending
    return (none, [])

/-- Checks that nothing follows the last field of a record written as an array. -/
def recordEnd (rest : List Document) (ending : Ending) : Except Error Unit :=
  match rest, ending with
  | [], .closed => .ok ()
  | [], .textEnd => .error .endInList
  | [], .commaClose => .error .trailingComma
  | _, _ => .error .trailingCharacters

/-- Reads the members of an object one after the other into a draft. -/
def readMembers {σ : Type} (field : σ → String → Document → Except Error σ) :
    σ → List (Lexeme String × Document) → Ending → Except Error σ
  | draft, [], ending => do
    objectEnd ending
    return draft
  | draft, (name, d) :: rest, ending => do
    let name ← name.exact
    readMembers field (← field draft name d) rest ending

end Document

def found : Json → Found
  | .null => .null
  | .bool b => .bool b
  | .number n => .number n
  | .string s => .string s
  | .array _ => .sequence
  | .object _ => .map

/-- The error of finding `v` where something else is wanted. -/
def mismatch {α : Type} (v : Json) (wanted : Wanted) : Except Error α :=
  .error (.wrongType v.found wanted)

def unsignedAs (wanted : Wanted) (bits : Nat) (v : Json) : Except Error Nat :=
  match v with
  | .number n => n.unsigned bits wanted
  | v => v.mismatch wanted

def unsigned (bits : Nat) (v : Json) : Except Error Nat := v.unsignedAs (.unsigned bits) bits

def boolean (v : Json) : Except Error Bool :=
  match v with
  | .bool b => .ok b
  | v => v.mismatch .boolean

def optional {α : Type} (read : Json → Except Error α) (v : Json) : Except Error (Option α) :=
  match v with
  | .null => .ok none
  | v => (read v).map some

def sequence {α : Type} (read : Json → Except Error α) (v : Json) : Except Error (List α) :=
  match v with
  | .array items => items.mapM read
  | v => v.mismatch .sequence

/-- A sequence of exactly `n` items. Items beyond the last one are not looked at. -/
def arrayOf {α : Type} (n : Nat) (read : Json → Except Error α) (v : Json) :
    Except Error (Vector α n) :=
  match v with
  | .array items => do
    let as ← (items.take n).mapM read
    if n < items.length then throw (.longArray items.length)
    else if h : as.length = n then return ⟨as.toArray, h⟩
    else throw (.shortArray as.length n)
  | v => v.mismatch (.arrayOf n)

/-- The member of an object with a given name, if it is there. -/
def field? {α : Type} (v : Json) (name : String) (read : Json → Except Error α) :
    Except Error (Option α) :=
  match v.member? name with
  | some w => (read w).map some
  | none => .ok none

/-- Item `k` of a record written as an array. -/
def item {α : Type} (record : String) (fields : Nat) (items : List Json) (k : Nat)
    (read : Json → Except Error α) : Except Error α :=
  match items[k]? with
  | some v => read v
  | none => .error (.shortRecord items.length record fields)

/-- Checks that a record written as an array has no more items than fields. -/
def noMoreThan (fields : Nat) (items : List Json) : Except Error Unit :=
  if fields < items.length then .error (.longArray items.length) else .ok ()

end Chip8.Json
