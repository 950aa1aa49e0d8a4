import SchedulerLink.Link.Failure
import SchedulerLink.Link.Surroundings
import SchedulerLink.Url.Address

/-!
Opening a channel.

`openUntil` opens the same channel again after every failure that may pass, with a pause in between,
until it is open, the attempts are used up, or the time is over. Without a deadline it never stops
by itself, so the number of rounds is bounded by `fuel`.
-/

namespace SchedulerLink.Connect

def interfaceName : String := "api"

def interfaceUri (base : String) : Except LinkFailure String :=
  match (Url.parse base).bind (·.sibling interfaceName) with
  | .ok url => .ok url.text
  | .error fault =>
    .error (.configuration s!"invalid scheduler URI {Text.quoted base}: {fault.message}")

variable {m : Type → Type} [Monad m] {Channel : Type}

/-- What follows a failure: another attempt after a pause, or none. -/
def pauseAfter (surroundings : Surroundings m Channel) (options : LinkOptions) (uri : String)
    (limit : Option Deadline) (attempts : Nat) (failure : ChannelFailure) :
    Run m (Except LinkFailure Duration) :=
  if !failure.isNetwork then pure (.error (.notConnected uri failure.message))
  else if options.connectAttempts.any (· ≤ attempts) then
    pure (.error (.notConnected uri s!"{failure.message} (after {attempts} attempts)"))
  else
    match limit with
    | none => pure (.ok options.connectInterval)
    | some deadline => do
      if ← surroundings.isStopping then pure (.error (.interrupted uri))
      else
        let remaining := deadline.remaining (← surroundings.now)
        if remaining = .zero then
          pure (.error (.connectTimeout uri attempts failure.message))
        else pure (.ok (min options.connectInterval remaining))

/-- Opens a channel on which `failed` attempts have been made. -/
def openUntil (surroundings : Surroundings m Channel) (options : LinkOptions) (uri : String)
    (limit : Option Deadline) (channel : Channel) :
    (fuel failed : Nat) → Run m (Except LinkFailure Unit)
  | 0, _ => throw .unfinished
  | fuel + 1, failed => do
    match ← surroundings.openChannel channel with
    | .ok () => pure (.ok ())
    | .error failure =>
      match ← pauseAfter surroundings options uri limit (failed + 1) failure with
      | .error failure => pure (.error failure)
      | .ok pause => do
        surroundings.pause pause
        openUntil surroundings options uri limit channel fuel (failed + 1)

def openChannel (surroundings : Surroundings m Channel) (fuel : Nat) (options : LinkOptions)
    (login : Login) (uri : String) (limit : Option Deadline) :
    Run m (Except LinkFailure Channel) := do
  let channel ← surroundings.create uri (.ofOptions options login)
  let result ← openUntil surroundings options uri limit channel fuel 0
  pure (result.map fun () => channel)

end SchedulerLink.Connect
