import SchedulerLink.Call.Failure
import SchedulerLink.Call.Response

/-!
What the result of a single call means for the caller: an answer, a failure that may pass, refused
credentials, or a failure for good.
-/

namespace SchedulerLink

/-- Meaning of the result of a single call. -/
inductive Outcome where
  | success (response : Response)
  | transient (reason : String)
  | permanent (failure : CallFailure)
  | refused (reason : String)
  deriving Repr

/-- Meaning of a result. Only a call that is safe to repeat outlives a lost connection. -/
def Outcome.ofResult (result : Except CallFailure Response) (repeatable : Bool) : Outcome :=
  match result with
  | .ok response =>
    if response.isTransient then .transient (", ".intercalate response.details)
    else .success response
  | .error (.channel (.unauthorized status)) => .refused s!"HTTP {status}"
  | .error (.channel (.timedOut detail)) => .transient s!"timed out: {detail}"
  | .error (.channel failure) =>
    if repeatable && failure.isNetwork then .transient failure.message
    else .permanent (.channel failure)
  | .error failure => .permanent failure

end SchedulerLink
