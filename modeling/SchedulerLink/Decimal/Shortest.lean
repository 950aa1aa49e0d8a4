import SchedulerLink.Decimal.Binary64

/-!
The shortest decimal that reads back as a given binary number, and its layout as text.

The reals that round to a finite number form an interval around it whose ends belong to it exactly
if the significand is even. `shortest` takes grids of one, two, … significant digits and answers
with a point of the first grid that meets the interval: the nearest to the number, on a tie the
even one.
-/

namespace SchedulerLink

structure Decimal where
  digits : Nat
  power : Int
  deriving DecidableEq, Repr

namespace Decimal

/-- How a decimal is written: positionally while the point falls into a window of places, with one
leading digit and an exponent otherwise. -/
structure Layout where
  widest : Int
  deepest : Int

def Layout.render (layout : Layout) (value : Decimal) : String :=
  let digits := Nat.toDigits 10 value.digits
  let point : Int := digits.length + value.power
  if 0 ≤ value.power && point ≤ layout.widest then
    String.ofList (digits ++ List.replicate value.power.toNat '0') ++ ".0"
  else if 0 < point && point ≤ layout.widest then
    String.ofList (digits.take point.toNat ++ '.' :: digits.drop point.toNat)
  else if -layout.deepest ≤ point && point ≤ 0 then
    "0." ++ String.ofList (List.replicate (-point).toNat '0' ++ digits)
  else
    let fraction := match digits.drop 1 with
      | [] => ""
      | rest => "." ++ String.ofList rest
    String.ofList (digits.take 1) ++ fraction ++ "e" ++ toString (point - 1)

def trim : Nat → Decimal → Decimal
  | 0, value => value
  | steps + 1, value =>
    if value.digits ≠ 0 ∧ value.digits % 10 = 0 then trim steps ⟨value.digits / 10, value.power + 1⟩
    else value

end Decimal

namespace Binary64

structure Interval where
  low : Nat
  centre : Nat
  high : Nat
  scale : Nat
  closed : Bool

/-- The reals that round to a finite positive number. Below a power of two the neighbours are twice
as dense, except at the bottom of the range. -/
def roundingInterval (x : Binary64) : Interval :=
  let below := if x.significand = hiddenBit ∧ -1074 < x.exponent then 1 else 2
  let unit := Nat.pow 2 x.exponent.toNat
  { low := (4 * x.significand - below) * unit
    centre := 4 * x.significand * unit
    high := (4 * x.significand + 2) * unit
    scale := 4 * x.denominator
    closed := x.significand % 2 = 0 }

def Interval.contains (interval : Interval) (value : Decimal) : Bool :=
  let point := value.digits * Nat.pow 10 value.power.toNat * interval.scale
  let unit := Nat.pow 10 (-value.power).toNat
  if interval.closed then interval.low * unit ≤ point && point ≤ interval.high * unit
  else interval.low * unit < point && point < interval.high * unit

def Interval.nearestOn (interval : Interval) (power : Int) : Option Decimal :=
  let top := interval.centre * Nat.pow 10 (-power).toNat
  let bottom := interval.scale * Nat.pow 10 power.toNat
  let lower := top / bottom
  let nearest := roundDiv top bottom
  let other := if nearest = lower then lower + 1 else lower
  [nearest, other].map (Decimal.mk · power) |>.find? fun value =>
    value.digits ≠ 0 && interval.contains value

def Interval.magnitude (interval : Interval) : Int :=
  (Nat.toDigits 10 interval.centre).length - (Nat.toDigits 10 interval.scale).length

/-- Shortest decimal in the rounding interval of a finite number other than zero; seventeen digits
always suffice, and the grids start two places above the leading digit. -/
def shortest (x : Binary64) : Decimal :=
  let interval := x.roundingInterval
  let start := interval.magnitude + 2
  let found := (List.range 22).findSome? fun (finer : Nat) => interval.nearestOn (start - finer)
  (found.getD ⟨x.numerator, 0⟩).trim 400

def render (layout : Decimal.Layout) (x : Binary64) : String :=
  let unsigned := if x.isZero then "0.0" else layout.render x.shortest
  if x.isNegative then "-" ++ unsigned else unsigned

end Binary64

end SchedulerLink
