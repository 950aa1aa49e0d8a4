import SchedulerLink.Serverset.Failure
import SchedulerLink.Text.Quoted

/-!
Why a link has no connection.
-/

namespace SchedulerLink

inductive LinkFailure where
  | configuration (detail : String)
  | noScheduler (cluster : String) (waited : Duration)
  | discovery (cluster : String) (failure : DiscoveryFailure)
  | notConnected (uri reason : String)
  | connectTimeout (uri : String) (attempts : Nat) (reason : String)
  | interrupted (uri : String)
  deriving DecidableEq, Repr

namespace LinkFailure

def message : LinkFailure → String
  | .configuration detail => s!"configuration error: {detail}"
  | .noScheduler cluster waited =>
    s!"no schedulers detected for cluster {Text.quoted cluster} within {waited.text}"
  | .discovery cluster failure =>
    s!"scheduler discovery failed for cluster {Text.quoted cluster}: {failure.message}"
  | .notConnected uri reason => s!"could not connect to {uri}: {reason}"
  | .connectTimeout uri attempts reason =>
    s!"gave up connecting to {uri} after {attempts} attempts: {reason}"
  | .interrupted uri => s!"connecting to {uri} was interrupted"

def chain (failure : LinkFailure) : List String :=
  match failure with
  | .discovery _ cause => [failure.message, cause.message]
  | _ => [failure.message]

end LinkFailure

end SchedulerLink
