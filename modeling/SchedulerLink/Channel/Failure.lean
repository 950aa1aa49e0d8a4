import SchedulerLink.Text.Quoted

/-!
How a channel to a scheduler fails.
-/

namespace SchedulerLink

inductive ChannelFailure where
  | notOpen (detail : String)
  | timedOut (detail : String)
  | unauthorized (status : Nat)
  | badAddress (address : String)
  | unknown (detail : String)
  deriving DecidableEq, Repr

namespace ChannelFailure

def message : ChannelFailure → String
  | .notOpen detail => s!"transport not open: {detail}"
  | .timedOut detail => s!"timed out: {detail}"
  | .unauthorized status => s!"unauthorized (HTTP {status})"
  | .badAddress address => s!"invalid scheduler URI {Text.quoted address}"
  | .unknown detail => s!"transport error: {detail}"

/-- Whether another attempt at the same address may fare better. -/
def isNetwork : ChannelFailure → Bool
  | .badAddress _ => false
  | _ => true

end ChannelFailure

end SchedulerLink
