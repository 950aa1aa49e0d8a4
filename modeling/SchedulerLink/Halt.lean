import SchedulerLink.Pacing.Deadline

/-!
Computations that may stop without a result.
-/

namespace SchedulerLink

/-- Why a computation stopped without a result. -/
inductive Halt where
  | overflow
  | unfinished
  deriving DecidableEq, Repr

def Halt.message : Halt → String
  | .overflow => Deadline.overflowMessage
  | .unfinished => "gave up before the end"

abbrev Run (m : Type → Type) (α : Type) := ExceptT Halt m α

end SchedulerLink
