import Mathlib.Data.List.Forall2
import SchedulerLink.Proofs.Json.Skipping
import SchedulerLink.Serverset.Record

/-!
Texts that carry a member.

The fields of a member may stand in any order, with blanks between the parts of the text and with
fields of other names among them, whatever their values are. A field that has its default may be
left out. What `Member.pack` writes is one of the texts that carry a member.
-/

namespace SchedulerLink.Member

open Ascii Json

/-- An object with the given names in their order. A known name stands there once at most and its
value is written as it has to be; any other name has any value. -/
inductive RecordText (known : List String) (writes : String → Bytes → Prop) :
    List String → Bytes → Prop where
  | fields {entries : List (String × FieldText)} {text : Bytes} (object : ObjectText entries text)
    (once : ((entries.map Prod.fst).filter (· ∈ known)).Nodup)
    (each : ∀ entry ∈ entries,
      if entry.1 ∈ known then writes entry.1 entry.2.value else ValueText entry.2.value) :
    RecordText known writes (entries.map Prod.fst) text

/-- What is written for an object is such a text. -/
theorem recordText_encode {known : List String} {writes : String → Bytes → Prop}
    {fields : List (String × Json)} (once : ((fields.map Prod.fst).filter (· ∈ known)).Nodup)
    (each : ∀ field ∈ fields,
      if field.1 ∈ known then writes field.1 field.2.encode else field.2.isFloatless = true) :
    RecordText known writes (fields.map Prod.fst) (Json.obj fields).encode := by
  have names : (fields.map fun field => (field.1, FieldText.ofField field)).map Prod.fst =
      fields.map Prod.fst := by
    rw [List.map_map]
    rfl
  rw [← names] at once ⊢
  refine .fields (objectText_encode fields) once (List.forall_mem_map.mpr fun field member => ?_)
  have written := each field member
  by_cases listed : field.1 ∈ known
  · rw [if_pos listed] at written ⊢
    exact written
  · rw [if_neg listed] at written ⊢
    exact (writtenAs_encode field.2).valueText written

theorem recordText_known {known : List String} {writes : String → Bytes → Prop}
    {fields : List (String × Json)} (different : (fields.map Prod.fst).Nodup)
    (each : ∀ field ∈ fields, field.1 ∈ known ∧ writes field.1 field.2.encode) :
    RecordText known writes (fields.map Prod.fst) (Json.obj fields).encode := by
  refine recordText_encode (different.filter _) fun field member => ?_
  obtain ⟨listed, written⟩ := each field member
  rw [if_pos listed]
  exact written

/-! Endpoints. -/

def endpointFields : List String := ["host", "port"]

inductive EndpointField (endpoint : Endpoint) : String → Bytes → Prop where
  | host {value : Bytes} (quotes : Quotes endpoint.host value) : EndpointField endpoint "host" value
  | port : EndpointField endpoint "port" (encodeInt endpoint.port.toNat)

inductive EndpointText (endpoint : Endpoint) : Bytes → Prop where
  | record {names : List String} {text : Bytes}
    (record : RecordText endpointFields (EndpointField endpoint) names text)
    (whole : ∀ name ∈ endpointFields, name ∈ names) : EndpointText endpoint text

inductive EndpointsText (endpoints : List (String × Endpoint)) : Bytes → Prop where
  | object {entries : List (String × FieldText)} {listed : List (String × Endpoint)} {text : Bytes}
    (object : ObjectText entries text)
    (each : List.Forall₂
      (fun entry named => entry.1 = named.1 ∧ EndpointText named.2 entry.2.value) entries listed)
    (same : listed.Perm endpoints) : EndpointsText endpoints text

theorem endpointText_pack (endpoint : Endpoint) :
    EndpointText endpoint (packEndpoint endpoint).encode := by
  refine .record (recordText_known (by simp) ?_) fun name member => member
  refine List.forall_mem_cons.mpr ⟨?_, List.forall_mem_singleton.mpr ?_⟩
  · exact ⟨by simp [endpointFields], .host (quotes_encodeText _)⟩
  · exact ⟨by simp [endpointFields], .port⟩

theorem endpointsText_pack {listed endpoints : List (String × Endpoint)}
    (same : listed.Perm endpoints) :
    EndpointsText endpoints
      (Json.obj (listed.map fun named => (named.1, packEndpoint named.2))).encode := by
  refine .object (objectText_encode _) ?_ same
  rw [List.map_map, List.forall₂_map_left_iff, List.forall₂_same]
  exact fun named _ => ⟨rfl, endpointText_pack named.2⟩

/-! Members. -/

def memberFields : List String := ["serviceEndpoint", "additionalEndpoints", "status", "shard"]

inductive MemberField (member : Member) : String → Bytes → Prop where
  | endpoint {value : Bytes} (written : EndpointText member.endpoint value) :
    MemberField member "serviceEndpoint" value
  | additional {value : Bytes} (written : EndpointsText member.additional value) :
    MemberField member "additionalEndpoints" value
  | status {value : Bytes} (quotes : Quotes member.status.packedName value) :
    MemberField member "status" value
  | shard {number : Int32} (numbered : member.shard = some number) :
    MemberField member "shard" (encodeInt number.toInt)
  | noShard (unnumbered : member.shard = none) :
    MemberField member "shard" (Bytes.ofString "null")

structure Suffices (member : Member) (names : List String) : Prop where
  endpoint : "serviceEndpoint" ∈ names
  additional : "additionalEndpoints" ∈ names ∨ member.additional = []
  status : "status" ∈ names ∨ member.status = .alive
  shard : "shard" ∈ names ∨ member.shard = none

/-- The texts of a member, with blanks around them. -/
inductive Carries (member : Member) : Bytes → Prop where
  | record {names : List String} {before text after : Bytes} (early : Blank before)
    (record : RecordText memberFields (MemberField member) names text)
    (enough : Suffices member names) (late : Blank after) :
    Carries member (before ++ (text ++ after))

theorem memberField_pack (member : Member) : ∀ field ∈ member.packedFields,
    field.1 ∈ memberFields ∧ MemberField member field.1 field.2.encode := by
  intro field listed
  rw [packedFields, List.mem_append] at listed
  rcases listed with always | numbered
  · simp only [List.mem_cons, List.not_mem_nil, or_false] at always
    rcases always with rfl | rfl | rfl
    · exact ⟨by simp [memberFields], .endpoint (endpointText_pack _)⟩
    · exact ⟨by simp [memberFields], .additional (endpointsText_pack (.refl _))⟩
    · exact ⟨by simp [memberFields], .status (quotes_encodeText _)⟩
  · rw [Option.mem_toList, Option.map_eq_some_iff] at numbered
    obtain ⟨number, numbered, rfl⟩ := numbered
    exact ⟨by simp [memberFields], .shard numbered⟩

theorem packedFields_different (member : Member) :
    (member.packedFields.map Prod.fst).Nodup := by
  cases numbered : member.shard with
  | none => simp [packedFields, numbered]
  | some number => simp [packedFields, numbered]

theorem packedFields_suffice (member : Member) :
    Suffices member (member.packedFields.map Prod.fst) := by
  cases numbered : member.shard with
  | none => constructor <;> simp [packedFields, numbered]
  | some number => constructor <;> simp [packedFields, numbered]

theorem carries_pack (member : Member) : Carries member member.pack := by
  have record := recordText_known member.packedFields_different member.memberField_pack
  have carries := Carries.record .nil record member.packedFields_suffice .nil
  rw [List.append_nil] at carries
  exact carries

end SchedulerLink.Member
