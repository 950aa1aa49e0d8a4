/-!
Header fields of a request, by name. Names are compared without regard to ASCII case; the fields are
kept in increasing order of their names as they were last written.
-/

namespace SchedulerLink

structure Headers where
  fields : List (String × String)
  deriving DecidableEq, Repr, Inhabited

namespace Headers

def sameName (one other : String) : Bool := one.toLower = other.toLower

def empty : Headers := ⟨[]⟩

/-- Places a field before the first one with a later name. -/
def place (name value : String) : List (String × String) → List (String × String)
  | [] => [(name, value)]
  | (other, held) :: rest =>
    if name < other then (name, value) :: (other, held) :: rest
    else (other, held) :: place name value rest

def set (headers : Headers) (name value : String) : Headers :=
  ⟨place name value (headers.fields.filter fun field => !sameName field.1 name)⟩

def get? (headers : Headers) (name : String) : Option String :=
  (headers.fields.find? fun field => sameName field.1 name).map Prod.snd

/-- The field by which a scheduler that does not lead is asked to serve the request all the same. -/
def bypassName : String := "Bypass-Leader-Redirect"

def initial (bypassLeaderRedirect : Bool) : Headers :=
  if bypassLeaderRedirect then empty.set bypassName "true" else empty

end Headers

end SchedulerLink
