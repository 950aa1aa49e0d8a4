import SchedulerLink.Duration

/-!
Points in time at which something has to be over.

A deadline is set a budget after the present instant. An instant counts at most `2 ^ 63 - 1` whole
seconds, so a budget that leads beyond that sets no deadline.
-/

namespace SchedulerLink

/-- A point in time, as the span since the clock was started. -/
structure Deadline where
  expiry : Duration
  deriving DecidableEq, Repr

namespace Deadline

def secondsLimit : Nat := 0x7fffffffffffffff

/-- There is an instant a budget after `now`. -/
def InReach (now budget : Duration) : Prop := (now + budget).seconds ≤ secondsLimit

instance (now budget : Duration) : Decidable (InReach now budget) :=
  inferInstanceAs (Decidable ((now + budget).seconds ≤ secondsLimit))

def overflowMessage : String := "overflow when adding duration to instant"

def after? (now budget : Duration) : Option Deadline :=
  if InReach now budget then some ⟨now + budget⟩ else none

def remaining (deadline : Deadline) (now : Duration) : Duration := deadline.expiry - now

def isExpired (deadline : Deadline) (now : Duration) : Bool := deadline.remaining now = .zero

def earlier (one other : Deadline) : Deadline := ⟨min one.expiry other.expiry⟩

/-- This deadline, or the one a budget after `now` if that comes first. -/
def capped? (deadline : Deadline) (now budget : Duration) : Option Deadline :=
  (after? now budget).map deadline.earlier

end Deadline

end SchedulerLink
