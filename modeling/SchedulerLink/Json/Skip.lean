import SchedulerLink.Json.Reader

/-!
Passing over a JSON value that nobody asked for. The outline of the text is checked, to any depth:
numbers may be of any size and strings may hold any octets from `20` on.
-/

namespace SchedulerLink.Json

open Ascii

/-- What an open bracket belongs to. -/
inductive Frame where
  | array
  | object
  deriving DecidableEq, Repr

def Frame.ended : Frame → Fault
  | .array => .endInArray
  | .object => .endInObject

def Frame.unclosed : Frame → Fault
  | .array => .commaOrBracketExpected
  | .object => .commaOrBraceExpected

def Frame.close : Frame → UInt8
  | .array => closeBracket
  | .object => closeBrace

def skipScalar (letter : UInt8) (rest : Bytes) : Reading Unit (letter :: rest) :=
  match letter with
  | lowerN => readWord () nullTail lowerN rest
  | lowerT => readWord () trueTail lowerT rest
  | lowerF => readWord () falseTail lowerF rest
  | quote => (Text.skip rest).map fun parsed => parsed.within (by simp)
  | letter =>
    if letter = minus ∨ isDigit letter then
      (Numeral.read .badNumber (letter :: rest)).map fun parsed =>
        ⟨(), parsed.rest, parsed.shorter⟩
    else .error .valueExpected

def skipName (input : Bytes) : Except Fault { rest : Bytes // rest.length < input.length } :=
  match blank : skipBlank input with
  | [] => .error .endInObject
  | quote :: afterQuote =>
    match Text.skip afterQuote with
    | .error fault => .error fault
    | .ok ⟨_, afterName, named⟩ =>
      match dropColon afterName with
      | .error fault => .error fault
      | .ok ⟨rest, passed⟩ => .ok ⟨rest, by
          have := length_skipBlank_le input
          simp only [blank, List.length_cons] at this; omega⟩
  | _ => .error .nameExpected

mutual

/-- Passes over a value and all that is left of the frames around it. -/
def skipWithin (frames : List Frame) (input : Bytes) :
    Except Fault { rest : Bytes // rest.length < input.length } :=
  match blank : skipBlank input with
  | [] => .error .endInValue
  | letter :: rest =>
    have bound : rest.length < input.length := by
      have := length_skipBlank_le input
      simp only [blank, List.length_cons] at this; omega
    if letter = openBracket then
      match next : skipBlank rest with
      | [] => .error .endInArray
      | octet :: more =>
        have nextBound : more.length < rest.length := by
          have := length_skipBlank_le rest
          simp only [next, List.length_cons] at this; omega
        if octet = closeBracket then
          (skipBehind frames more).map fun ⟨rest, _⟩ => ⟨rest, by omega⟩
        else
          (skipWithin (.array :: frames) rest).map fun ⟨rest, _⟩ => ⟨rest, by omega⟩
    else if letter = openBrace then
      match next : skipBlank rest with
      | [] => .error .endInObject
      | octet :: more =>
        have nextBound : more.length < rest.length := by
          have := length_skipBlank_le rest
          simp only [next, List.length_cons] at this; omega
        if octet = closeBrace then
          (skipBehind frames more).map fun ⟨rest, _⟩ => ⟨rest, by omega⟩
        else
          match skipName rest with
          | .error fault => .error fault
          | .ok ⟨afterName, named⟩ =>
            (skipWithin (.object :: frames) afterName).map fun ⟨rest, _⟩ => ⟨rest, by omega⟩
    else
      match skipScalar letter rest with
      | .error fault => .error fault
      | .ok ⟨_, afterValue, shorter⟩ =>
        have behind : afterValue.length < input.length := by
          simp only [List.length_cons] at shorter
          have := length_skipBlank_le input
          simp only [blank, List.length_cons] at this; omega
        (skipBehind frames afterValue).map fun ⟨rest, _⟩ => ⟨rest, by omega⟩
termination_by (input.length, 0)

def skipBehind (frames : List Frame) (input : Bytes) :
    Except Fault { rest : Bytes // rest.length ≤ input.length } :=
  match frames with
  | [] => .ok ⟨input, Nat.le_refl _⟩
  | frame :: outer =>
    match blank : skipBlank input with
    | [] => .error frame.ended
    | octet :: rest =>
      have bound : rest.length < input.length := by
        have := length_skipBlank_le input
        simp only [blank, List.length_cons] at this; omega
      if octet = comma then
        match frame with
        | .array => (skipWithin (.array :: outer) rest).map fun ⟨rest, _⟩ => ⟨rest, by omega⟩
        | .object =>
          match skipName rest with
          | .error fault => .error fault
          | .ok ⟨afterName, named⟩ =>
            (skipWithin (.object :: outer) afterName).map fun ⟨rest, _⟩ => ⟨rest, by omega⟩
      else if octet = frame.close then
        (skipBehind outer rest).map fun ⟨rest, _⟩ => ⟨rest, by omega⟩
      else .error frame.unclosed
termination_by (input.length, 1)

end

def skipValue (input : Bytes) : Reading Unit input :=
  (skipWithin [] input).map fun ⟨rest, shorter⟩ => ⟨(), rest, shorter⟩

end SchedulerLink.Json
