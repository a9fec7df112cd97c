import Chip8.Binary64

namespace Chip8

namespace Magnitude

/-- Twice the unit of a number with this shift is the distance of its neighbours, except that below a power
of two they lie half as far. The value, half the distance down and half the distance up, all in units of
`2 ^ (shift - 1076)`. -/
def neighbourhood (m : Magnitude) : Nat × Nat × Nat :=
  let below := if m.significand = 1 <<< 52 ∧ 0 < m.shift then 1 else 2
  (4 * m.significand, below, 2)

/-- Whether `digits · 10 ^ power`, `power = up - down`, lies where every number rounds to this one. -/
def readsBack (m : Magnitude) (digits up down : Nat) : Bool :=
  let (value, below, above) := m.neighbourhood
  let unit := tenTo down <<< m.shift
  let point := (digits * tenTo up) <<< (leastExponent + 2)
  let low := (value - below) * unit
  let high := (value + above) * unit
  if m.significand % 2 = 0 then decide (low ≤ point ∧ point ≤ high)
  else decide (low < point ∧ point < high)

/-- The distance of `digits · 10 ^ (up - down)` from the number, in units common to all digits. -/
def distance (m : Magnitude) (digits up down : Nat) : Nat :=
  let value := (m.significand * tenTo down) <<< m.shift
  let point := (digits * tenTo up) <<< leastExponent
  (value - point) + (point - value)

/-- The digits of the grid `10 ^ (up - down)` nearest to the number among those that read back. -/
def onGrid? (m : Magnitude) (up down : Nat) : Option Nat :=
  let below := ((m.significand * tenTo down) <<< m.shift) / (tenTo up <<< leastExponent)
  let above := below + 1
  match m.readsBack below up down && below != 0, m.readsBack above up down with
  | true, true =>
    let (d, e) := (m.distance below up down, m.distance above up down)
    some (if d < e then below else if e < d then above else below + below % 2)
  | true, false => some below
  | false, true => some above
  | false, false => none

/-- The decimal exponent of a positive number: the largest `k` with `10 ^ k` not above it, as a difference
`up - down`. -/
def decimalExponent (m : Magnitude) : Int :=
  let (num, den) := m.quotient
  if den ≤ num then ((Nat.repr (num / den)).length : Int) - 1
  else
    let places := (Nat.repr (den / num)).length
    if den ≤ num * tenTo (places - 1) then 1 - (places : Int) else - (places : Int)

/-- Tries the grids of `n`, `n + 1`, … digits, `fuel` of them. -/
def search (m : Magnitude) (exponent : Int) : (fuel n : Nat) → Nat × Int
  | 0, n => (m.significand, exponent - n + 1)
  | fuel + 1, n =>
    let power := exponent - n + 1
    match m.onGrid? power.toNat (-power).toNat with
    | some digits => (digits, power)
    | none => search m exponent fuel (n + 1)

/-- The shortest digits and the power of ten of the last one. Seventeen digits always suffice. -/
def shortest (m : Magnitude) : Nat × Int := m.search m.decimalExponent 17 1

end Magnitude

namespace Binary64

/-- The digits without zeros at the end, and the power of ten of the last one. -/
def strip (digits : List Char) (power : Int) : List Char × Int :=
  let zeros := (digits.reverse.takeWhile (· == '0')).length
  (digits.take (digits.length - zeros), power + zeros)

/-- Decimal exponents written with a point among the digits. -/
def positional (exponent : Int) : Bool := decide (-5 ≤ exponent ∧ exponent ≤ 15)

/-- The exponent part: its sign, which is never left out, and as many digits as it has. -/
def exponentText (exponent : Int) : List Char :=
  'e' :: (if exponent < 0 then '-' else '+') :: Nat.toDigits 10 exponent.natAbs

/-- Digits with a point among them; the first digit has the power `exponent` of ten, not negative. -/
def pointed (digits : List Char) (exponent : Nat) : List Char :=
  let whole := digits.take (exponent + 1)
  let fraction := digits.drop (exponent + 1)
  whole ++ List.replicate (exponent + 1 - whole.length) '0' ++ '.' ::
    (if fraction.isEmpty then ['0'] else fraction)

/-- The digits and the power of ten of the first one as text. -/
def layout (digits : List Char) (exponent : Int) : List Char :=
  if positional exponent then
    if 0 ≤ exponent then pointed digits exponent.toNat
    else '0' :: '.' :: (List.replicate (exponent.natAbs - 1) '0' ++ digits)
  else
    match digits with
    | d :: e :: rest => d :: '.' :: e :: rest ++ exponentText exponent
    | _ => digits ++ exponentText exponent

def text (x : Binary64) : List Char :=
  let body :=
    if x.magnitude.significand = 0 then ['0', '.', '0']
    else
      let (digits, power) := x.magnitude.shortest
      let (digits, power) := strip (Nat.toDigits 10 digits) power
      layout digits (power + digits.length - 1)
  if x.negative then '-' :: body else body

end Binary64

end Chip8
