import SchedulerLink.Call.Message
import SchedulerLink.Http.Transfer

/-!
Scripted peers: what they reply to a message, and to a request that carries one.
-/

namespace SchedulerLink

/-- What a peer replies to a message. -/
inductive ReplyScript where
  | bytes (reply : Bytes)
  | response (response : Response)
  | exception (kind : Int32) (detail : String)
  deriving Repr

def ReplyScript.replyTo (message : Bytes) : ReplyScript → Option Bytes
  | .bytes reply => some reply
  | .response given =>
    match Message.decodeCall message with
    | .ok (method, sequence, _) => some (Message.encodeReply method sequence given)
    | .error _ => none
  | .exception kind detail =>
    match Message.decodeCall message with
    | .ok (method, sequence, _) => some (Message.encodeException method sequence kind detail)
    | .error _ => none

inductive PeerScript where
  | reply (status : Nat) (fields : List (String × String)) (body : ReplyScript)
  | octets (octets : Bytes)
  | hangUp
  | silence
  deriving Repr

structure HttpPeer where
  hosts : List String := []
  port : Nat := 0
  scripts : List PeerScript := []
  deriving Repr

namespace PeerScript

def replyOctets (status : Nat) (fields : List (String × String)) (body : Bytes) : Bytes :=
  let lines := s!"HTTP/1.1 {status} Scripted" ::
    ((fields ++ [("Content-Length", toString body.length)]).map fun (name, value) =>
      s!"{name}: {value}")
  Bytes.ofString (String.join ((lines ++ [""]).map (· ++ "\r\n"))) ++ body

def treat (request : HttpRequest) : PeerScript → Except TransferFault Bytes
  | .reply status fields body =>
    match body.replyTo request.body with
    | some body => .ok (replyOctets status fields body)
    | none => .ok (replyOctets 400 [] [])
  | .octets sent => .ok sent
  | .hangUp => .ok []
  | .silence => .error .timedOut

end PeerScript

namespace HttpPeer

def isAt (peer : HttpPeer) (address : HttpAddress) : Bool :=
  peer.hosts.contains address.host.toLower && peer.port = address.portNumber

def reach (peer : HttpPeer) (address : HttpAddress) : Except TransferFault Unit :=
  if !peer.isAt address then .error .notConnected
  else if address.secure then .error .secureConnect
  else .ok ()

end HttpPeer

end SchedulerLink
