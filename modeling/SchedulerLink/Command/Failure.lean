import SchedulerLink.Json.Fault
import SchedulerLink.Session.Failure
import SchedulerLink.Settings.File

/-!
Why a command failed, and how the program ends.
-/

namespace SchedulerLink

inductive CommandFailure where
  | settings (failure : SettingsFailure)
  | unknownMethod (name : String)
  | argument (place : Nat) (text : String) (fault : Json.Fault)
  | unknownCluster (unknown : UnknownCluster)
  | session (failure : SessionFailure)
  | link (failure : LinkFailure)
  | answered (method : Method) (code : ResponseCode)
  deriving Repr

namespace CommandFailure

def chain : CommandFailure → List String
  | .settings failure => failure.chain
  | .unknownMethod name => [s!"unknown RPC {Text.quoted name} (see \x60aurora-client methods\x60)"]
  | .argument place text fault =>
    [s!"argument {place} is not valid JSON: {text}", fault.message]
  | .unknownCluster unknown => [unknown.message]
  | .session failure => failure.chain
  | .link failure => failure.chain
  | .answered method code => [s!"{method.name} returned {code.name}"]

def message (failure : CommandFailure) : String := ": ".intercalate failure.chain

end CommandFailure

inductive Ending where
  | done
  | misused
  | failed (failure : CommandFailure)
  | halted (halt : Halt)
  deriving Repr

namespace Ending

def status : Ending → UInt8
  | .done => 0
  | .failed _ => 1
  | .misused => 2
  | .halted _ => 101

def complaint : Ending → Option String
  | .done => none
  | .misused => some "aurora-client: see \x60aurora-client help\x60 for how it is used"
  | .failed failure => some s!"aurora-client error: {failure.message}"
  | .halted halt => some s!"aurora-client: {halt.message}"

end Ending

end SchedulerLink
