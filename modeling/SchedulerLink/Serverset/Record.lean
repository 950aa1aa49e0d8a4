import SchedulerLink.Json.Skip
import SchedulerLink.Serverset.Member
import SchedulerLink.Text.Quoted

/-!
Reading packed members.

A record may be written as an object, with its fields in any order and with fields that nobody knows
among them, or as an array of its fields in their order, where fields with a default may be missing
at the end. A state may be written as an object with the state as its only name and null as value.
-/

namespace SchedulerLink.Member

open Ascii Json

def describe : Json → String
  | .null => "null"
  | .bool flag => s!"boolean `{flag}`"
  | .int value => s!"integer `{value}`"
  | .float value => s!"floating point `{value.render floatLayout}`"
  | .str text => s!"string {Text.quoted text}"
  | .arr _ => "sequence"
  | .obj _ => "map"

def mismatch (expected : String) (letter : UInt8) (rest : Bytes) : Fault :=
  if letter = openBracket then .wrongType (describe (.arr [])) expected
  else if letter = openBrace then .wrongType (describe (.obj [])) expected
  else
    match readScalar letter rest with
    | .error fault => fault
    | .ok parsed => .wrongType (describe parsed.value) expected

def readString (expected : String) (input : Bytes) : Reading String input :=
  match blank : skipBlank input with
  | [] => .error .endInValue
  | letter :: rest =>
    if letter = quote then
      (Text.read rest).map fun parsed => parsed.within (by
        have := length_skipBlank_le input; simp only [blank, List.length_cons] at this; omega)
    else .error (mismatch expected letter rest)

def readInteger (expected : String) (low high : Int) (input : Bytes) : Reading Int input :=
  match blank : skipBlank input with
  | [] => .error .endInValue
  | letter :: rest =>
    if letter = minus ∨ isDigit letter then
      match readScalar letter rest with
      | .error fault => .error fault
      | .ok ⟨.int value, behind, shorter⟩ =>
        if low ≤ value ∧ value < high then
          .ok ⟨value, behind, by
            have := length_skipBlank_le input; rw [blank] at this
            exact Nat.lt_of_lt_of_le shorter this⟩
        else .error (.wrongValue (describe (.int value)) expected)
      | .ok ⟨value, _, _⟩ => .error (.wrongType (describe value) expected)
    else .error (mismatch expected letter rest)

def readPort (input : Bytes) : Reading UInt16 input :=
  (readInteger "u16" 0 0x10000 input).map fun parsed =>
    ⟨UInt16.ofNat parsed.value.toNat, parsed.rest, parsed.shorter⟩

def readNothing {input : Bytes} {letter : UInt8} {rest : Bytes}
    (blank : skipBlank input = letter :: rest) :
    Reading Unit input :=
  (readNull letter rest).map fun parsed => parsed.within (by
    have := length_skipBlank_le input; rw [blank] at this; exact this)

def readShard (input : Bytes) : Reading (Option Int32) input :=
  match blank : skipBlank input with
  | lowerN :: _ => (readNothing blank).map fun parsed => ⟨none, parsed.rest, parsed.shorter⟩
  | _ =>
    (readInteger "i32" (-0x80000000) 0x80000000 input).map fun parsed =>
      ⟨some (Int32.ofInt parsed.value), parsed.rest, parsed.shorter⟩

def statusOf (name : String) : Except Fault MemberStatus :=
  match MemberStatus.ofPackedName? name with
  | some status => .ok status
  | none => .error (.unknownVariant name (MemberStatus.all.map (·.packedName)))

def readUnit (input : Bytes) : Reading Unit input :=
  match blank : skipBlank input with
  | [] => .error .endInValue
  | letter :: rest =>
    if letter = lowerN then readNothing blank else .error (mismatch "unit" letter rest)

def closeStatus (status : MemberStatus) (input : Bytes) : Reading MemberStatus input :=
  match blank : skipBlank input with
  | [] => .error .endInObject
  | octet :: rest =>
    if octet = closeBrace then .ok ⟨status, rest, length_lt_of_skipBlank blank⟩
    else .error .valueExpected

def readStatusObject (input : Bytes) : Reading MemberStatus input :=
  match readString "variant identifier" input with
  | .error fault => .error fault
  | .ok ⟨name, afterName, named⟩ =>
    match statusOf name with
    | .error fault => .error fault
    | .ok status =>
      match dropColon afterName with
      | .error fault => .error fault
      | .ok ⟨afterColon, passed⟩ =>
        match readUnit afterColon with
        | .error fault => .error fault
        | .ok ⟨_, afterValue, valued⟩ =>
          (closeStatus status afterValue).map fun parsed => parsed.within (by omega)

def readStatus (input : Bytes) : Reading MemberStatus input :=
  match blank : skipBlank input with
  | [] => .error .endInValue
  | letter :: rest =>
    have behind : rest.length ≤ input.length := by
      have := length_skipBlank_le input; simp only [blank, List.length_cons] at this; omega
    if letter = quote then
      match Text.read rest with
      | .error fault => .error fault
      | .ok ⟨name, afterName, named⟩ =>
        (statusOf name).map fun status => ⟨status, afterName, by omega⟩
    else if letter = openBrace then
      (readStatusObject rest).map fun parsed => parsed.within behind
    else .error .valueExpected

/-- Reads the places of an array up to the closing bracket: at most `left` more, from place `place`
on. Answers with the number of places there were. -/
def readPlaces {σ : Type} (readPlace : σ → Nat → (input : Bytes) → Reading σ input)
    (left place : Nat) (state : σ) (input : Bytes) : Reading (σ × Nat) input :=
  match blank : skipBlank input with
  | [] => .error .endInArray
  | closeBracket :: rest => .ok ⟨(state, place), rest, by
      have := length_skipBlank_le input; simp only [blank, List.length_cons] at this; omega⟩
  | octet :: rest =>
    have inside : (octet :: rest).length ≤ input.length := by
      have := length_skipBlank_le input; rw [blank] at this; exact this
    match left with
    | 0 =>
      if octet = comma && (skipBlank rest).head? = some closeBracket then .error .trailingComma
      else .error .trailingText
    | left + 1 =>
      if place = 0 then
        match readPlace state place (octet :: rest) with
        | .error fault => .error fault
        | .ok ⟨state, behind, shorter⟩ =>
          (readPlaces readPlace left (place + 1) state behind).map fun parsed =>
            parsed.within (by omega)
      else if octet = comma then
        match next : skipBlank rest with
        | [] => .error .endInValue
        | closeBracket :: _ => .error .trailingComma
        | octet :: more =>
          match readPlace state place (octet :: more) with
          | .error fault => .error fault
          | .ok ⟨state, behind, shorter⟩ =>
            (readPlaces readPlace left (place + 1) state behind).map fun parsed =>
              parsed.within (by
                have := length_skipBlank_le rest
                simp only [next, List.length_cons] at *; omega)
      else .error .commaOrBracketExpected

/-- Reads a record: an object by its names or an array by its places. Answers with what the fields
came to and, for an array, the number of its places. -/
def readRecord {σ : Type} (expected : String) (start : σ)
    (readField : σ → String → (input : Bytes) → Reading σ input)
    (readPlace : σ → Nat → (input : Bytes) → Reading σ input) (places : Nat) (input : Bytes) :
    Reading (σ × Option Nat) input :=
  match blank : skipBlank input with
  | [] => .error .endInValue
  | letter :: rest =>
    have behind : rest.length ≤ input.length := by
      have := length_skipBlank_le input; simp only [blank, List.length_cons] at this; omega
    if letter = openBrace then
      (readObject readField start rest).map fun parsed =>
        ⟨(parsed.value, none), parsed.rest, Nat.lt_of_lt_of_le parsed.shorter behind⟩
    else if letter = openBracket then
      (readPlaces readPlace places 0 start rest).map fun parsed =>
        ⟨(parsed.value.1, some parsed.value.2), parsed.rest,
          Nat.lt_of_lt_of_le parsed.shorter behind⟩
    else .error (mismatch expected letter rest)

def missing (name expected : String) (places : Option Nat) : Fault :=
  match places with
  | some count => .wrongLength count expected
  | none => .missingField name

structure EndpointDraft where
  host : Option String := none
  port : Option UInt16 := none

namespace EndpointDraft

def readHost (draft : EndpointDraft) (input : Bytes) : Reading EndpointDraft input :=
  if draft.host.isSome then .error (.repeatedField "host")
  else
    (readString "a string" input).map fun parsed =>
      ⟨{ draft with host := some parsed.value }, parsed.rest, parsed.shorter⟩

def readPort (draft : EndpointDraft) (input : Bytes) : Reading EndpointDraft input :=
  if draft.port.isSome then .error (.repeatedField "port")
  else
    (Member.readPort input).map fun parsed =>
      ⟨{ draft with port := some parsed.value }, parsed.rest, parsed.shorter⟩

def readField (draft : EndpointDraft) (name : String) (input : Bytes) :
    Reading EndpointDraft input :=
  if name = "host" then draft.readHost input
  else if name = "port" then draft.readPort input
  else (skipValue input).map fun parsed => ⟨draft, parsed.rest, parsed.shorter⟩

def readPlace (draft : EndpointDraft) (place : Nat) (input : Bytes) : Reading EndpointDraft input :=
  if place = 0 then draft.readHost input else draft.readPort input

def finish (draft : EndpointDraft) (places : Option Nat) : Except Fault Endpoint :=
  match draft.host, draft.port with
  | some host, some port => .ok ⟨host, port⟩
  | none, _ => .error (missing "host" "struct Endpoint with 2 elements" places)
  | some _, none => .error (missing "port" "struct Endpoint with 2 elements" places)

end EndpointDraft

def readEndpoint (input : Bytes) : Reading Endpoint input :=
  match readRecord "struct Endpoint" {} EndpointDraft.readField EndpointDraft.readPlace 2 input with
  | .error fault => .error fault
  | .ok ⟨(draft, places), rest, shorter⟩ =>
    (draft.finish places).map fun endpoint => ⟨endpoint, rest, shorter⟩

/-- Reads endpoints by name; of endpoints that share a name the last one counts. -/
def readEndpoints (input : Bytes) : Reading (List (String × Endpoint)) input :=
  match blank : skipBlank input with
  | [] => .error .endInValue
  | letter :: rest =>
    if letter = openBrace then
      let readNamed (held : List (String × Endpoint)) (name : String) (input : Bytes) :
          Reading (List (String × Endpoint)) input :=
        (readEndpoint input).map fun parsed =>
          ⟨insertEndpoint name parsed.value held, parsed.rest, parsed.shorter⟩
      (readObject readNamed [] rest).map fun parsed => parsed.within (by
        have := length_skipBlank_le input; simp only [blank, List.length_cons] at this; omega)
    else .error (mismatch "a map" letter rest)

structure Draft where
  endpoint : Option Endpoint := none
  additional : Option (List (String × Endpoint)) := none
  status : Option MemberStatus := none
  shard : Option (Option Int32) := none

namespace Draft

def readMain (draft : Draft) (input : Bytes) : Reading Draft input :=
  if draft.endpoint.isSome then .error (.repeatedField "serviceEndpoint")
  else
    (readEndpoint input).map fun parsed =>
      ⟨{ draft with endpoint := some parsed.value }, parsed.rest, parsed.shorter⟩

def readAdditional (draft : Draft) (input : Bytes) : Reading Draft input :=
  if draft.additional.isSome then .error (.repeatedField "additionalEndpoints")
  else
    (readEndpoints input).map fun parsed =>
      ⟨{ draft with additional := some parsed.value }, parsed.rest, parsed.shorter⟩

def readStatus (draft : Draft) (input : Bytes) : Reading Draft input :=
  if draft.status.isSome then .error (.repeatedField "status")
  else
    (Member.readStatus input).map fun parsed =>
      ⟨{ draft with status := some parsed.value }, parsed.rest, parsed.shorter⟩

def readShard (draft : Draft) (input : Bytes) : Reading Draft input :=
  if draft.shard.isSome then .error (.repeatedField "shard")
  else
    (Member.readShard input).map fun parsed =>
      ⟨{ draft with shard := some parsed.value }, parsed.rest, parsed.shorter⟩

def readField (draft : Draft) (name : String) (input : Bytes) : Reading Draft input :=
  if name = "serviceEndpoint" then draft.readMain input
  else if name = "additionalEndpoints" then draft.readAdditional input
  else if name = "status" then draft.readStatus input
  else if name = "shard" then draft.readShard input
  else (skipValue input).map fun parsed => ⟨draft, parsed.rest, parsed.shorter⟩

def readPlace (draft : Draft) (place : Nat) (input : Bytes) : Reading Draft input :=
  if place = 0 then draft.readMain input
  else if place = 1 then draft.readAdditional input
  else if place = 2 then draft.readStatus input
  else draft.readShard input

def finish (draft : Draft) (places : Option Nat) : Except Fault Member :=
  match draft.endpoint with
  | none => .error (missing "serviceEndpoint" "struct ServiceInstance with 4 elements" places)
  | some endpoint =>
    .ok ⟨endpoint, draft.additional.getD [], draft.status.getD .alive, draft.shard.join⟩

end Draft

def readMember (input : Bytes) : Reading Member input :=
  match readRecord "struct ServiceInstance" {} Draft.readField Draft.readPlace 4 input with
  | .error fault => .error fault
  | .ok ⟨(draft, places), rest, shorter⟩ =>
    (draft.finish places).map fun member => ⟨member, rest, shorter⟩

def unpack (text : Bytes) : Except Fault Member := complete (readMember text)

end SchedulerLink.Member
