import SchedulerLink.Channel.Failure
import SchedulerLink.Json.Fault
import SchedulerLink.Json.Printer

/-!
How a single call fails, before anything is said about repeating it.
-/

namespace SchedulerLink

inductive MessageKind where
  | call
  | reply
  | exception
  | oneway
  deriving DecidableEq, Repr

namespace MessageKind

def toInt : MessageKind → Int
  | .call => 1
  | .reply => 2
  | .exception => 3
  | .oneway => 4

def ofInt? (value : Int) : Option MessageKind :=
  if value = 1 then some .call
  else if value = 2 then some .reply
  else if value = 3 then some .exception
  else if value = 4 then some .oneway
  else none

def name : MessageKind → String
  | .call => "Call"
  | .reply => "Reply"
  | .exception => "Exception"
  | .oneway => "Oneway"

end MessageKind

/-- Why octets are not the message that was waited for. -/
inductive MessageFault where
  | json (fault : Json.Fault)
  | notFiveItems
  | otherVersion (found : Json)
  | methodNotText
  | unknownKind (found : Json)
  | sequenceOutOfRange
  | bodyNotRecord
  | notCall (kind : MessageKind)
  | argumentField (name : String)
  | otherMethod (found wanted : String)
  | otherSequence (wanted found : Int32)
  | notReply (kind : MessageKind)
  | noResult (method : String)
  | noCode
  | stated (text : String)
  deriving Repr

def MessageFault.message : MessageFault → String
  | .json fault => s!"invalid JSON: {fault.message}"
  | .notFiveItems => "message is not a 5-element array"
  | .otherVersion found => s!"unsupported message version {found.compact}"
  | .methodNotText => "message name is not a string"
  | .unknownKind found => s!"unknown message type {found.compact}"
  | .sequenceOutOfRange => "sequence id is not an i32"
  | .bodyNotRecord => "message body is not a struct"
  | .notCall kind => s!"expected a call, got {kind.name}"
  | .argumentField name => s!"invalid argument field id {Text.quoted name}"
  | .otherMethod found wanted => s!"reply for {found} while calling {wanted}"
  | .otherSequence wanted found =>
    s!"out of order reply: expected seqid {wanted.toInt}, got {found.toInt}"
  | .notReply kind => s!"expected a reply, got {kind.name}"
  | .noResult method => s!"{method} reply has no result"
  | .noCode => "response has no responseCode"
  | .stated text => text

/-- Failure of a single call. -/
inductive CallFailure where
  | channel (failure : ChannelFailure)
  | protocol (fault : MessageFault)
  | application (kind : Int32) (detail : String)
  deriving Repr

def CallFailure.message : CallFailure → String
  | .channel failure => failure.message
  | .protocol fault => s!"protocol error: {fault.message}"
  | .application kind detail => s!"application exception (type {kind.toInt}): {detail}"

end SchedulerLink
