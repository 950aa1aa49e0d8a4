import SchedulerLink.Json.Basic

/-!
Arguments of calls. A value travels under the name of its wire type.
-/

namespace SchedulerLink.Argument

def text (value : String) : Json := .single "str" (.str value)

def optionalText : Option String → Json
  | some value => text value
  | none => .null

def number (value : Int32) : Json := .single "i32" (.int value.toInt)

def record (fields : Json) : Json := .single "rec" fields

end SchedulerLink.Argument
