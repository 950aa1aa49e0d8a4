import SchedulerLink.Call.Message
import SchedulerLink.Call.Method
import SchedulerLink.Halt

/-!
One call over a channel: the message is written and flushed, and the reply is read to its end.

The reply is taken only if it names the method and the sequence number of the call, so an answer
that comes late is never taken for the answer to a later call.
-/

namespace SchedulerLink

/-- Writing to a channel and reading from it. -/
structure Line (m : Type → Type) where
  write : Bytes → m (Except ChannelFailure Unit)
  flush : m (Except ChannelFailure Unit)
  read : Nat → m (Except ChannelFailure Bytes)

namespace Line

variable {m : Type → Type} [Monad m]

def blockLength : Nat := 8192

def readAll (line : Line m) : (fuel : Nat) → (held : Bytes) → Run m (Except ChannelFailure Bytes)
  | 0, _ => throw .unfinished
  | fuel + 1, held => do
    match ← line.read blockLength with
    | .error failure => pure (.error failure)
    | .ok [] => pure (.ok held)
    | .ok block => readAll line fuel (held ++ block)

/-- Sends a call and waits for the answer. -/
def exchange (line : Line m) (fuel : Nat) (sequence : Int32) (method : Method)
    (arguments : List Json) : Run m (Except CallFailure Response) := do
  match ← line.write (Message.encodeCall method.name sequence arguments) with
  | .error failure => pure (.error (.channel failure))
  | .ok () =>
    match ← line.flush with
    | .error failure => pure (.error (.channel failure))
    | .ok () =>
      match ← line.readAll fuel [] with
      | .error failure => pure (.error (.channel failure))
      | .ok reply => pure (Message.decodeReply reply method.name sequence)

end Line

end SchedulerLink
