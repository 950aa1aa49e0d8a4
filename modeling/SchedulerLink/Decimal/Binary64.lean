/-!
Binary interchange format of 64 bits, handled as a bit pattern and rounded in exact integer
arithmetic.

A finite number is `± significand * 2 ^ exponent`, read off the pattern by `significand` and
`exponent`. Every operation computes the exact rational result and rounds it once with
`ofRatio`, to the nearest representable number and on a tie to the one with an even significand.
-/

namespace SchedulerLink

structure Binary64 where
  bits : UInt64
  deriving DecidableEq, Repr

namespace Binary64

def signBit : Nat := 0x8000000000000000

def hiddenBit : Nat := 0x10000000000000

def ofMagnitude (negative : Bool) (magnitude : Nat) : Binary64 :=
  ⟨(if negative then signBit + magnitude else magnitude).toUInt64⟩

def magnitude (x : Binary64) : Nat := x.bits.toNat % signBit

def infiniteMagnitude : Nat := 2047 * hiddenBit

def isNegative (x : Binary64) : Bool := signBit ≤ x.bits.toNat

def isFinite (x : Binary64) : Bool := x.magnitude < infiniteMagnitude

def isZero (x : Binary64) : Bool := x.magnitude = 0

def zero (negative : Bool) : Binary64 := ofMagnitude negative 0

def infinity (negative : Bool) : Binary64 := ofMagnitude negative infiniteMagnitude

def nan : Binary64 := ofMagnitude false (infiniteMagnitude + hiddenBit / 2)

def negate (x : Binary64) : Binary64 := ofMagnitude (!x.isNegative) x.magnitude

/-- Integer factor of a finite number; below `hiddenBit` exactly for zero and subnormal numbers. -/
def significand (x : Binary64) : Nat :=
  if x.magnitude < hiddenBit then x.magnitude else hiddenBit + x.magnitude % hiddenBit

def exponent (x : Binary64) : Int :=
  if x.magnitude < hiddenBit then -1074 else (x.magnitude / hiddenBit : Nat) - 1075

/-- Numerator of the absolute value of a finite number over `denominator`. -/
def numerator (x : Binary64) : Nat := x.significand * Nat.pow 2 x.exponent.toNat

def denominator (x : Binary64) : Nat := Nat.pow 2 (-x.exponent).toNat

def roundDiv (num den : Nat) : Nat :=
  let quotient := num / den
  let twice := 2 * (num % den)
  if den < twice || (den = twice && quotient % 2 = 1) then quotient + 1 else quotient

/-- Nearest number to `num / den` for positive `den`, with the given sign; infinity from the middle
between the largest finite number and the next power of two. -/
def ofRatio (negative : Bool) (num den : Nat) : Binary64 :=
  if num = 0 then zero negative
  else
    let scaled (power : Int) : Nat × Nat :=
      (num * Nat.pow 2 (-power).toNat, den * Nat.pow 2 power.toNat)
    let first : Int := max ((Nat.log2 num : Int) - Nat.log2 den - 53) (-1074)
    let (top, bottom) := scaled first
    let power := if 2 * hiddenBit ≤ top / bottom then first + 1 else first
    let (top, bottom) := scaled power
    let magnitude := (power + 1074).toNat * hiddenBit + roundDiv top bottom
    ofMagnitude negative (min magnitude infiniteMagnitude)

def ofNat (n : Nat) : Binary64 := ofRatio false n 1

def mul (x y : Binary64) : Binary64 :=
  ofRatio (x.isNegative != y.isNegative) (x.numerator * y.numerator) (x.denominator * y.denominator)

def div (x y : Binary64) : Binary64 :=
  ofRatio (x.isNegative != y.isNegative) (x.numerator * y.denominator) (x.denominator * y.numerator)

/-- Nearest number to `± digits * 10 ^ power`. Powers so large or so small that only infinity or
zero can be near are told apart first. -/
def ofDecimal (negative : Bool) (digits : Nat) (power : Int) : Binary64 :=
  if digits = 0 then zero negative
  else if 400 < power then infinity negative
  else if power * 3 + Nat.log2 digits < -1100 then zero negative
  else ofRatio negative (digits * Nat.pow 10 power.toNat) (Nat.pow 10 (-power).toNat)

end Binary64

end SchedulerLink
