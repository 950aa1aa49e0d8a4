import SchedulerLink.Http.Reply
import SchedulerLink.Http.Request

/-!
Deliveries over a network.

A delivery is repeated wherever the peer sends the client, for as often as is allowed. Credentials
that an address carries take the place of credentials from an earlier address; they are sent to the
first peer only.
-/

namespace SchedulerLink

/-- Peers that are reached over a network. -/
structure Network (m : Type → Type) where
  reach : HttpAddress → m (Except TransferFault Unit)
  send : HttpAddress → HttpRequest → m (Except TransferFault Bytes)

def redirectLimit : Nat := 10

inductive ReplyTurn where
  | ended (result : Except TransferFault (Nat × Bytes))
  | elsewhere (status : Nat) (location : Bytes)
  deriving Repr

/-- What a delivery comes to with what came back for a request. -/
def ReplyTurn.of (reply : Except TransferFault Bytes) : ReplyTurn :=
  match reply with
  | .error fault => .ended (.error fault)
  | .ok octets =>
    match ReplyHead.read octets with
    | .error fault => .ended (.error fault)
    | .ok (head, behind) =>
      match head.location with
      | none => .ended ((head.body (behind.getD [])).map fun body => (head.status, body))
      | some location => .elsewhere head.status location

namespace Delivery

variable {m : Type → Type} [Monad m]

/-- What a delivery carries to an address: credentials stay with the first peer. -/
def confined (delivery : Delivery) (first address : HttpAddress) : Delivery :=
  if address.samePeer first then delivery else { delivery with account := none }

/-- Where a delivery goes that was sent elsewhere from an address, and what is left of it. An own
account is not replaced by one that the new address carries. -/
def onward (delivery : Delivery) (ownAccount : Bool) (address : HttpAddress) (status : Nat)
    (location : Bytes) : Except TransferFault (HttpAddress × Delivery) := do
  let next ← address.resolve location
  let account ← next.account?
  let left := delivery.redirected status
  pure (next, { left with account := if ownAccount then left.account else account.or left.account })

def follow (network : Network m) (first : HttpAddress) (ownAccount : Bool) :
    (redirects : Nat) → HttpAddress → Delivery → m (Except TransferFault (Nat × Bytes))
  | 0, address, delivery => do
    let reply ← network.send address ((delivery.confined first address).request address)
    match ReplyTurn.of reply with
    | .ended result => pure result
    | .elsewhere _ _ => pure (.error .tooManyRedirects)
  | redirects + 1, address, delivery => do
    let reply ← network.send address ((delivery.confined first address).request address)
    match ReplyTurn.of reply with
    | .ended result => pure result
    | .elsewhere status location =>
      match delivery.onward ownAccount address status location with
      | .error fault => pure (.error fault)
      | .ok (next, left) => follow network first ownAccount redirects next left

/-- Makes a delivery. The result is the status of the last reply and its body. -/
def send (network : Network m) (address : HttpAddress) (delivery : Delivery) :
    m (Except TransferFault (Nat × Bytes)) :=
  match address.account? with
  | .error fault => pure (.error fault)
  | .ok account =>
    follow network address delivery.account.isSome redirectLimit address
      { delivery with account := delivery.account.or account }

end Delivery

end SchedulerLink
