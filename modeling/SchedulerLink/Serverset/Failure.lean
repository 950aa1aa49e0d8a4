import SchedulerLink.Duration
import SchedulerLink.Json.Fault

/-!
How looking up the members of a serverset fails.
-/

namespace SchedulerLink

inductive DiscoveryFailure where
  | timeout (path : String) (waited : Duration)
  | malformed (detail : String)
  | unavailable (detail : String)
  deriving DecidableEq, Repr

namespace DiscoveryFailure

def ofFault (fault : Json.Fault) : DiscoveryFailure := .malformed fault.message

def message : DiscoveryFailure → String
  | .timeout path waited => s!"no scheduler endpoints found in {path} within {waited.text}"
  | .malformed detail => s!"malformed serverset member: {detail}"
  | .unavailable detail => s!"registry unavailable: {detail}"

end DiscoveryFailure

end SchedulerLink
