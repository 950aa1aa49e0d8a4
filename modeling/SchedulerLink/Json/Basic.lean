import SchedulerLink.Decimal.Binary64

/-!
JSON values.

Whole numbers from `-2 ^ 63` to `2 ^ 64 - 1` are integers and all other numbers are binary floats,
so `1` and `1.0` differ. The fields of an object are kept in increasing order of their names, each
name once; `Json.insert` keeps that order, and `Json.WellFormed` states it for a whole value.
-/

namespace SchedulerLink

/-- A JSON value. -/
inductive Json where
  | null
  | bool (flag : Bool)
  | int (value : Int)
  | float (value : Binary64)
  | str (text : String)
  | arr (items : List Json)
  | obj (fields : List (String × Json))
  deriving Inhabited, Repr

namespace Json

/-- Fields of an object with one field added; a field of the same name is replaced. -/
def insertField (name : String) (value : Json) : List (String × Json) → List (String × Json)
  | [] => [(name, value)]
  | (other, held) :: rest =>
    if name < other then (name, value) :: (other, held) :: rest
    else if name = other then (name, value) :: rest
    else (other, held) :: insertField name value rest

/-- Object with the given fields; of fields that share a name the last one counts. -/
def ofFields (fields : List (String × Json)) : Json :=
  .obj (fields.foldl (fun held (name, value) => insertField name value held) [])

def single (name : String) (value : Json) : Json := .obj [(name, value)]

def get? (name : String) : Json → Option Json
  | .obj fields => fields.lookup name
  | _ => none

def int64? : Json → Option Int
  | .int value =>
    if -0x8000000000000000 ≤ value ∧ value < 0x8000000000000000 then some value else none
  | _ => none

def str? : Json → Option String
  | .str text => some text
  | _ => none

def arr? : Json → Option (List Json)
  | .arr items => some items
  | _ => none

def isNull : Json → Bool
  | .null => true
  | _ => false

mutual

/-- Integers are in range, floats are finite, and the fields of every object are in increasing order
of their names. -/
inductive WellFormed : Json → Prop where
  | null : WellFormed .null
  | bool (flag : Bool) : WellFormed (.bool flag)
  | int {value : Int} :
      -0x8000000000000000 ≤ value → value < 0x10000000000000000 → WellFormed (.int value)
  | float {value : Binary64} : value.isFinite → WellFormed (.float value)
  | str (text : String) : WellFormed (.str text)
  | arr {items : List Json} : WellFormedItems items → WellFormed (.arr items)
  | obj {fields : List (String × Json)} : fields.Pairwise (fun one next => one.1 < next.1) →
      WellFormedFields fields → WellFormed (.obj fields)

inductive WellFormedItems : List Json → Prop where
  | nil : WellFormedItems []
  | cons {item : Json} {rest : List Json} :
      WellFormed item → WellFormedItems rest → WellFormedItems (item :: rest)

inductive WellFormedFields : List (String × Json) → Prop where
  | nil : WellFormedFields []
  | cons {name : String} {value : Json} {rest : List (String × Json)} :
      WellFormed value → WellFormedFields rest → WellFormedFields ((name, value) :: rest)

end

mutual

def depth : Json → Nat
  | .arr items => depthItems items + 1
  | .obj fields => depthFields fields + 1
  | _ => 0

def depthItems : List Json → Nat
  | [] => 0
  | item :: rest => max (depth item) (depthItems rest)

def depthFields : List (String × Json) → Nat
  | [] => 0
  | (_, value) :: rest => max (depth value) (depthFields rest)

end

end Json

end SchedulerLink
