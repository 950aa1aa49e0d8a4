import SchedulerLink.Duration

/-!
Clocks: the time that has passed since some beginning, and waiting.
-/

namespace SchedulerLink

/-- A clock. -/
structure Clock (m : Type → Type) where
  now : m Duration
  pause : Duration → m Unit

end SchedulerLink
