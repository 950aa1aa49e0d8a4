import SchedulerLink.Bytes
import SchedulerLink.Json.Printer

/-!
Members of a serverset: the schedulers that a registry advertises.

`Member.pack` writes a member as JSON with its fields in a fixed order; its reader is in
`Serverset.Record`.
-/

namespace SchedulerLink

structure Endpoint where
  host : String
  port : UInt16
  deriving DecidableEq, Repr

inductive MemberStatus where
  | dead
  | starting
  | alive
  | stopping
  | stopped
  | warning
  deriving DecidableEq, Repr

namespace MemberStatus

def all : List MemberStatus := [.dead, .starting, .alive, .stopping, .stopped, .warning]

def packedName : MemberStatus → String
  | .dead => "DEAD"
  | .starting => "STARTING"
  | .alive => "ALIVE"
  | .stopping => "STOPPING"
  | .stopped => "STOPPED"
  | .warning => "WARNING"

def ofPackedName? (name : String) : Option MemberStatus :=
  all.find? fun status => status.packedName = name

def name : MemberStatus → String
  | .dead => "Dead"
  | .starting => "Starting"
  | .alive => "Alive"
  | .stopping => "Stopping"
  | .stopped => "Stopped"
  | .warning => "Warning"

end MemberStatus

structure Member where
  endpoint : Endpoint
  additional : List (String × Endpoint) := []
  status : MemberStatus := .alive
  shard : Option Int32 := none
  deriving DecidableEq, Repr

namespace Member

def insertEndpoint (name : String) (endpoint : Endpoint) :
    List (String × Endpoint) → List (String × Endpoint)
  | [] => [(name, endpoint)]
  | (other, held) :: rest =>
    if name < other then (name, endpoint) :: (other, held) :: rest
    else if name = other then (name, endpoint) :: rest
    else (other, held) :: insertEndpoint name endpoint rest

def address (scheme : String) (endpoint : Endpoint) : String :=
  s!"{scheme}://{endpoint.host}:{endpoint.port}"

/-- Address of a member's interface: its `https` endpoint, else its `http` endpoint, else its main
one. -/
def url (member : Member) : String :=
  match member.additional.lookup "https", member.additional.lookup "http" with
  | some endpoint, _ => address "https" endpoint
  | none, some endpoint => address "http" endpoint
  | none, none => address "http" member.endpoint

def packEndpoint (endpoint : Endpoint) : Json :=
  .obj [("host", .str endpoint.host), ("port", .int endpoint.port.toNat)]

def packedFields (member : Member) : List (String × Json) :=
  [("serviceEndpoint", packEndpoint member.endpoint),
    ("additionalEndpoints",
      .obj (member.additional.map fun (name, endpoint) => (name, packEndpoint endpoint))),
    ("status", .str member.status.packedName)] ++
  (member.shard.map fun shard => ("shard", Json.int shard.toInt)).toList

def pack (member : Member) : Bytes := Json.encode (.obj member.packedFields)

end Member

end SchedulerLink
