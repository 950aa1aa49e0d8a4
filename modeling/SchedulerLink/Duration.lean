import SchedulerLink.Decimal.Binary64

/-!
Spans of time in whole nanoseconds, and their text.

The longest span is `2 ^ 64 - 1` seconds and `999999999` nanoseconds; `times` stops there. Instants
of a clock are spans since the clock was started.
-/

namespace SchedulerLink

structure Duration where
  nanos : Nat
  deriving DecidableEq, Repr, Inhabited

namespace Duration

def second : Nat := 1000000000

def zero : Duration := ⟨0⟩

def ofSeconds (seconds : Nat) : Duration := ⟨seconds * second⟩

def ofMillis (millis : Nat) : Duration := ⟨millis * 1000000⟩

def ofParts (seconds nanos : Nat) : Duration := ⟨seconds * second + nanos⟩

def seconds (span : Duration) : Nat := span.nanos / second

def subsecond (span : Duration) : Nat := span.nanos % second

def secondsLimit : Nat := 0xffffffffffffffff

def longest : Duration := ofParts secondsLimit (second - 1)

instance : LE Duration where
  le one other := one.nanos ≤ other.nanos

instance : LT Duration where
  lt one other := one.nanos < other.nanos

instance (one other : Duration) : Decidable (one ≤ other) :=
  inferInstanceAs (Decidable (one.nanos ≤ other.nanos))

instance (one other : Duration) : Decidable (one < other) :=
  inferInstanceAs (Decidable (one.nanos < other.nanos))

instance : Min Duration where
  min one other := ⟨min one.nanos other.nanos⟩

instance : Add Duration where
  add one other := ⟨one.nanos + other.nanos⟩

instance : Sub Duration where
  sub one other := ⟨one.nanos - other.nanos⟩

/-- A multiple of a span, at most the longest span. -/
def times (span : Duration) (factor : Nat) : Duration :=
  ⟨min (span.nanos * factor) longest.nanos⟩

def decimalText (value unit : Nat) : String :=
  let whole := toString (value / unit)
  let places := Nat.toDigits 10 (unit + value % unit) |>.drop 1
  let kept := (places.reverse.dropWhile (· = '0')).reverse
  if kept.isEmpty then whole else whole ++ "." ++ String.ofList kept

def text (span : Duration) : String :=
  if second ≤ span.nanos then decimalText span.nanos second ++ "s"
  else if 1000000 ≤ span.nanos then decimalText span.nanos 1000000 ++ "ms"
  else if 1000 ≤ span.nanos then decimalText span.nanos 1000 ++ "µs"
  else toString span.nanos ++ "ns"

/-- The span of a number of seconds, to the nearest nanosecond and on a tie to the even one; none if
the number is negative, not a number, or too large. Minus zero is no time at all. -/
def ofBinarySeconds? (seconds : Binary64) : Option Duration :=
  if !seconds.isFinite then none
  else if seconds.isNegative && !seconds.isZero then none
  else if secondsLimit + 1 ≤ seconds.numerator / seconds.denominator then none
  else
    let nanos := Binary64.roundDiv (seconds.numerator * second) seconds.denominator
    some ⟨nanos⟩

end Duration

end SchedulerLink
