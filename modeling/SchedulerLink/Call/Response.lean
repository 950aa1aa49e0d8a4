import SchedulerLink.Json.Basic

/-!
What a scheduler answers to a call.

`ResponseCode.ofInt32` and `ResponseCode.toInt32` agree on every code but an `unknown` one that has
a number with a name.
-/

namespace SchedulerLink

inductive ResponseCode where
  | invalidRequest
  | ok
  | error
  | warning
  | authFailed
  | lockError
  | errorTransient
  | unknown (value : Int32)
  deriving DecidableEq, Repr

namespace ResponseCode

def ofInt32 (value : Int32) : ResponseCode :=
  if value = 0 then .invalidRequest
  else if value = 1 then .ok
  else if value = 2 then .error
  else if value = 3 then .warning
  else if value = 4 then .authFailed
  else if value = 5 then .lockError
  else if value = 6 then .errorTransient
  else .unknown value

def toInt32 : ResponseCode → Int32
  | .invalidRequest => 0
  | .ok => 1
  | .error => 2
  | .warning => 3
  | .authFailed => 4
  | .lockError => 5
  | .errorTransient => 6
  | .unknown value => value

def name : ResponseCode → String
  | .invalidRequest => "InvalidRequest"
  | .ok => "Ok"
  | .error => "Error"
  | .warning => "Warning"
  | .authFailed => "AuthFailed"
  | .lockError => "LockError"
  | .errorTransient => "ErrorTransient"
  | .unknown value => s!"Unknown({value.toInt})"

end ResponseCode

/-- A scheduler's answer. The result and the server's description of itself stay encoded. -/
structure Response where
  code : ResponseCode
  details : List String
  result : Option Json
  serverInfo : Option Json
  deriving Repr

namespace Response

def ofCode (code : ResponseCode) : Response := ⟨code, [], none, none⟩

def transient (details : List String) : Response := ⟨.errorTransient, details, none, none⟩

def withDetails (response : Response) (details : List String) : Response :=
  { response with details }

def withResult (response : Response) (result : Json) : Response :=
  { response with result := some result }

def isTransient (response : Response) : Bool := response.code = .errorTransient

end Response

end SchedulerLink
