import SchedulerLink.Duration

/-!
How long to wait between the attempts of one call.

The pause doubles with every attempt, up to the eighth doubling and up to the policy's longest
pause, and never exceeds what is left of the call's time.
-/

namespace SchedulerLink

/-- Pauses between attempts and the time that a call may take in all. -/
structure Policy where
  baseDelay : Duration := .ofSeconds 5
  longestDelay : Duration := .ofSeconds 30
  longestWait : Duration := .ofSeconds 600
  deriving DecidableEq, Repr

namespace Policy

def doublings : Nat := 8

/-- Pause after an attempt, counted from one. -/
def backoff (policy : Policy) (attempt : Nat) : Duration :=
  min (policy.baseDelay.times (Nat.pow 2 (min (attempt - 1) doublings))) policy.longestDelay

/-- Pause after an attempt when some time is left, none when it has run out. -/
def pause? (policy : Policy) (attempt : Nat) (remaining : Duration) : Option Duration :=
  if remaining = .zero then none else some (min (policy.backoff attempt) remaining)

section

variable {policy : Policy} {attempt : Nat} {remaining pause : Duration}

theorem pause?_eq_none : policy.pause? attempt remaining = none ↔ remaining = .zero := by
  rw [pause?]
  by_cases spent : remaining = .zero
  · rw [if_pos spent]
    exact iff_of_true rfl spent
  · rw [if_neg spent]
    exact iff_of_false (Option.some_ne_none _) spent

theorem pause?_eq_some : policy.pause? attempt remaining = some pause ↔
    remaining ≠ .zero ∧ pause = min (policy.backoff attempt) remaining := by
  rw [pause?]
  by_cases spent : remaining = .zero
  · rw [if_pos spent]
    exact iff_of_false (fun same => Option.some_ne_none _ same.symm) fun left => left.1 spent
  · rw [if_neg spent, Option.some.injEq]
    exact ⟨fun same => ⟨spent, same.symm⟩, fun left => left.2.symm⟩

end

end Policy

end SchedulerLink
