import Chip8.Binary64

namespace Chip8

/-- A number: whole, or written with a fraction, an exponent or too many digits. -/
inductive Json.Number where
  | int (z : Int)
  | real (x : Binary64)
  deriving DecidableEq

/-- A JSON value. The members of an object are kept in the order of their names, each name once. -/
inductive Json where
  | null
  | bool (b : Bool)
  | number (n : Json.Number)
  | string (s : String)
  | array (items : List Json)
  | object (members : List (String × Json))

namespace Json

def ofNat (n : Nat) : Json := .number (.int n)

/-- Puts a member in the place that its name has in the order of names; an older member of that name goes. -/
def insert (name : String) (value : Json) : List (String × Json) → List (String × Json)
  | [] => [(name, value)]
  | (other, old) :: rest =>
    if name < other then (name, value) :: (other, old) :: rest
    else if name = other then (name, value) :: rest
    else (other, old) :: insert name value rest

/-- The object with the given members; of two members of one name the later one stays. -/
def ofMembers (members : List (String × Json)) : Json :=
  .object (members.foldl (fun done m => insert m.1 m.2 done) [])

def member? (name : String) : Json → Option Json
  | .object members => members.lookup name
  | _ => none

def text? : Json → Option String
  | .string s => some s
  | _ => none

def word64? : Json → Option UInt64
  | .number (.int z) => if 0 ≤ z ∧ z < UInt64.size then some (.ofNat z.toNat) else none
  | _ => none

end Json

end Chip8
