namespace Chip8

def tenTo (n : Nat) : Nat := Nat.pow 10 n

/-- A magnitude `significand · 2 ^ (shift - 1074)`. Every finite number of the format has such a form with a
significand below `2 ^ 53`, and one that is at least `2 ^ 52` unless `shift = 0`. -/
structure Magnitude where
  significand : Nat
  shift : Nat
  deriving DecidableEq

/-- A finite number with its sign; zero has a sign too. -/
structure Binary64 where
  negative : Bool
  magnitude : Magnitude
  deriving DecidableEq

namespace Magnitude

def zero : Magnitude := ⟨0, 0⟩

def leastExponent : Nat := 1074

def maxShift : Nat := 2045

def quotient (m : Magnitude) : Nat × Nat := (m.significand <<< m.shift, 1 <<< leastExponent)

/-- The quotient rounded to the nearest natural number, ties to the even one. -/
def roundDiv (num den : Nat) : Nat :=
  let q := num / den
  let r := num % den
  if 2 * r < den then q
  else if den < 2 * r then q + 1
  else q + q % 2

/-- The shift at which the quotient has 53 significant bits before rounding, or zero for a smaller one. -/
def shiftFor (num den : Nat) : Nat :=
  let scaled := (num <<< leastExponent) / den
  scaled.log2 - 52

/-- The nearest number to a quotient, ties to an even significand; none beyond the largest finite one. -/
def ofQuotient? (num den : Nat) : Option Magnitude :=
  let shift := shiftFor num den
  let s := roundDiv (num <<< leastExponent) (den <<< shift)
  let m : Magnitude := if s = 1 <<< 53 then ⟨1 <<< 52, shift + 1⟩ else ⟨s, shift⟩
  if m.shift ≤ maxShift then some m else none

def ofNat? (n : Nat) : Option Magnitude := ofQuotient? n 1

def mul? (a b : Magnitude) : Option Magnitude :=
  ofQuotient? (a.quotient.1 * b.quotient.1) (a.quotient.2 * b.quotient.2)

/-- The rounded quotient; the divisor is not zero. -/
def div? (a b : Magnitude) : Option Magnitude :=
  ofQuotient? (a.quotient.1 * b.quotient.2) (a.quotient.2 * b.quotient.1)

end Magnitude

end Chip8
