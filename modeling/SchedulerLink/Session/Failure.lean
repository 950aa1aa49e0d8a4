import SchedulerLink.Call.Failure
import SchedulerLink.Call.Method
import SchedulerLink.Link.Failure

/-!
Why a call of a session failed.
-/

namespace SchedulerLink

inductive SessionFailure where
  | arguments (error : ArgumentError)
  | unreachable (method : Method) (cluster : String) (failure : LinkFailure)
  | disconnected (method : Method) (failure : ChannelFailure)
  | refused (method : Method) (advice : String)
  | timedOut (method : Method) (cluster lastError : String)
  | failed (method : Method) (failure : CallFailure)
  | terminated (method : Method) (cluster : String)
  deriving Repr

namespace SessionFailure

def methodName : SessionFailure → String
  | .arguments error => error.method
  | .unreachable method _ _ => method.name
  | .disconnected method _ => method.name
  | .refused method _ => method.name
  | .timedOut method _ _ => method.name
  | .failed method _ => method.name
  | .terminated method _ => method.name

def message : SessionFailure → String
  | .arguments error => error.message
  | .unreachable method cluster failure =>
    let reason := failure.message
    s!"{method.name}: unable to reach scheduler for cluster {Text.quoted cluster}: {reason}"
  | .disconnected method failure =>
    s!"{method.name}: connection error communicating with scheduler: {failure.message}"
  | .refused method advice => s!"{method.name}: authentication failed: {advice}"
  | .timedOut method cluster lastError =>
    let target := Text.quoted cluster
    s!"timed out attempting to issue {method.name} to {target} (last error: {lastError})"
  | .failed method failure => s!"{method.name}: {failure.message}"
  | .terminated method cluster =>
    s!"{method.name} to {Text.quoted cluster} abandoned: proxy is terminating"

def chain : SessionFailure → List String
  | .unreachable method cluster failure =>
    (unreachable method cluster failure).message :: failure.chain
  | .disconnected method failure => [(disconnected method failure).message, failure.message]
  | .failed method failure => [(failed method failure).message, failure.message]
  | failure => [failure.message]

end SessionFailure

end SchedulerLink
