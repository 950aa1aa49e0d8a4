import SchedulerLink.Channel.Headers
import SchedulerLink.Http.Address
import SchedulerLink.Text.Base64

/-!
Requests to a peer.

A message is delivered in a `POST`. A peer may send a client elsewhere; depending on its status the
message is delivered there or its result is fetched by a `GET`. Credentials go to the first peer
only.
-/

namespace SchedulerLink

structure HttpRequest where
  method : String
  target : String
  headers : Headers
  body : Bytes
  deriving DecidableEq, Repr

/-- What is to be delivered to a peer. -/
structure Delivery where
  headers : Headers
  account : Option Bytes
  message : Option Bytes
  deriving DecidableEq, Repr

namespace Delivery

def authorization (account : Bytes) : String := "Basic " ++ String.ofList (Base64.encode account)

def request (delivery : Delivery) (address : HttpAddress) : HttpRequest :=
  let headers := match delivery.account with
    | some account => delivery.headers.set "Authorization" (authorization account)
    | none => delivery.headers
  let target := String.ofList address.target
  match delivery.message with
  | some message =>
    ⟨"POST", target, headers.set "Content-Length" (toString message.length), message⟩
  | none => ⟨"GET", target, headers, []⟩

/-- What is left to be delivered after a peer's status has sent the client elsewhere. -/
def redirected (delivery : Delivery) (status : Nat) : Delivery :=
  if status = 301 ∨ status = 302 ∨ status = 303 then { delivery with message := none } else delivery

end Delivery

def HttpRequest.octets (request : HttpRequest) (host : String) : Bytes :=
  let fields := ("Host", host) :: request.headers.fields
  let lines := s!"{request.method} {request.target} HTTP/1.1" ::
    fields.map fun (name, value) => s!"{name}: {value}"
  Bytes.ofString (String.join ((lines ++ [""]).map (· ++ "\r\n"))) ++ request.body

end SchedulerLink
