import SchedulerLink.Json.Reader
import SchedulerLink.Proofs.Json.Fields

/-!
Objects that are read have every name once.

The fields of an object are put in one by one, each where its name belongs. So the names of every
object in a value that was read are in order, however deep the object lies and in whatever order its
fields were written.
-/

namespace SchedulerLink.Json

open Ascii

/-- What a value is made of: itself, and the parts of its items or fields. -/
inductive Part : Json → Json → Prop where
  | self {value : Json} : Part value value
  | item {part item : Json} {items : List Json} (member : item ∈ items) (inside : Part part item) :
    Part part (.arr items)
  | field {part : Json} {field : String × Json} {fields : List (String × Json)}
    (member : field ∈ fields) (inside : Part part field.2) : Part part (.obj fields)

def Sorted (value : Json) : Prop := ∀ fields, Part (.obj fields) value → InOrder fields

theorem Sorted.arr {items : List Json} (sorted : ∀ item ∈ items, item.Sorted) :
    (arr items).Sorted := by
  intro fields part
  cases part with
  | item member inside => exact sorted _ member fields inside

theorem Sorted.obj {fields : List (String × Json)} (order : InOrder fields)
    (sorted : ∀ field ∈ fields, field.2.Sorted) : (obj fields).Sorted := by
  intro others part
  cases part with
  | self => exact order
  | field member inside => exact sorted _ member others inside

def isScalar : Json → Bool
  | .arr _ => false
  | .obj _ => false
  | _ => true

theorem Sorted.of_isScalar {value : Json} (scalar : value.isScalar = true) : value.Sorted := by
  intro fields part
  cases part with
  | self => cases scalar
  | item _ _ => cases scalar
  | field _ _ => cases scalar

/-- What came of a reading that was looked at in another way came of the reading. -/
theorem exists_of_map_eq_ok {α β : Type} {input other : Bytes} {reading : Reading α input}
    {view : Parsed α input → Parsed β other} {parsed : Parsed β other}
    (reads : reading.map view = .ok parsed) :
    ∃ found, reading = .ok found ∧ view found = parsed := by
  cases reading with
  | error fault => cases reads
  | ok found => exact ⟨found, rfl, Except.ok.inj reads⟩

section Readers

variable {α σ : Type} {input : Bytes}

theorem readItems_all {property : α → Prop} {readItem : (input : Bytes) → Reading α input}
    (each : ∀ input parsed, readItem input = .ok parsed → property parsed.value)
    {parsed : Parsed (List α) input} (reads : readItems readItem input = .ok parsed) :
    ∀ item ∈ parsed.value, property item := by
  fun_induction readItems readItem input with
  | case3 input item afterItem shorter reading rest blank =>
    cases reads
    exact List.forall_mem_singleton.mpr (each _ _ reading)
  | case6 input item afterItem shorter reading rest blank octet more unclosed next bound ih =>
    obtain ⟨found, later, rfl⟩ := exists_of_map_eq_ok reads
    exact List.forall_mem_cons.mpr ⟨each _ _ reading, ih later⟩
  | _ => cases reads

theorem readArray_all {property : α → Prop} {readItem : (input : Bytes) → Reading α input}
    (each : ∀ input parsed, readItem input = .ok parsed → property parsed.value)
    {parsed : Parsed (List α) input} (reads : readArray readItem input = .ok parsed) :
    ∀ item ∈ parsed.value, property item := by
  unfold readArray at reads
  split at reads
  · cases reads
  · cases reads
    exact List.forall_mem_nil _
  · obtain ⟨found, items, rfl⟩ := exists_of_map_eq_ok reads
    change ∀ item ∈ found.value, property item
    exact readItems_all each items

theorem readFields_keeps {property : σ → Prop}
    {readField : σ → String → (input : Bytes) → Reading σ input}
    (keeps : ∀ state name input parsed, property state → readField state name input = .ok parsed →
      property parsed.value)
    {state : σ} {parsed : Parsed σ input} (holds : property state)
    (reads : readFields readField state input = .ok parsed) : property parsed.value := by
  fun_induction readFields readField state input with
  | case5 state input name afterName named read afterColon passed colon next afterValue shorter
      reading rest blank =>
    cases reads
    exact keeps state name afterColon _ holds reading
  | case7 state input name afterName named read afterColon passed colon next afterValue shorter
      reading rest blank more quoted bound ih =>
    obtain ⟨found, later, rfl⟩ := exists_of_map_eq_ok reads
    exact ih (keeps state name afterColon _ holds reading) later
  | _ => cases reads

theorem readObject_keeps {property : σ → Prop}
    {readField : σ → String → (input : Bytes) → Reading σ input}
    (keeps : ∀ state name input parsed, property state → readField state name input = .ok parsed →
      property parsed.value)
    {state : σ} {parsed : Parsed σ input} (holds : property state)
    (reads : readObject readField state input = .ok parsed) : property parsed.value := by
  unfold readObject at reads
  split at reads
  · cases reads
  · cases reads
    exact holds
  · obtain ⟨found, fields, rfl⟩ := exists_of_map_eq_ok reads
    change property found.value
    exact readFields_keeps keeps holds fields
  · cases reads

end Readers

theorem Numeral.isScalar_of_value {numeral : Numeral} {value : Json}
    (means : numeral.value = .ok value) : value.isScalar = true := by
  unfold Numeral.value at means
  dsimp only at means
  split at means
  · cases means
    rfl
  split at means
  · cases means
    rfl
  split at means <;> cases means
  rfl

theorem readWord_value {α : Type} {value : α} {remaining rest : Bytes} {letter : UInt8}
    {parsed : Parsed α (letter :: rest)}
    (reads : readWord value remaining letter rest = .ok parsed) :
    parsed.value = value := by
  unfold readWord at reads
  split at reads <;> cases reads
  rfl

theorem readScalar_isScalar {letter : UInt8} {rest : Bytes} {parsed : Parsed Json (letter :: rest)}
    (reads : readScalar letter rest = .ok parsed) : parsed.value.isScalar = true := by
  unfold readScalar at reads
  split at reads
  · rw [readWord_value reads]
    rfl
  · rw [readWord_value reads]
    rfl
  · rw [readWord_value reads]
    rfl
  · obtain ⟨found, text, rfl⟩ := exists_of_map_eq_ok reads
    rfl
  · split at reads
    · split at reads
      · cases reads
      · rename_i numeral behind shorter reading
        cases means : numeral.value with
        | error fault => rw [means] at reads; cases reads
        | ok value =>
          rw [means] at reads
          cases reads
          exact Numeral.isScalar_of_value means
    · cases reads

def SortedFields (fields : List (String × Json)) : Prop :=
  InOrder fields ∧ ∀ field ∈ fields, field.2.Sorted

theorem SortedFields.insertField {held : List (String × Json)} {name : String} {value : Json}
    (fields : SortedFields held) (sorted : value.Sorted) :
    SortedFields (Json.insertField name value held) := by
  refine ⟨fields.1.insertField name value, fun field member => ?_⟩
  rcases mem_insertField member with rfl | member
  · exact sorted
  · exact fields.2 field member

theorem readValue_sorted {depth : Nat} {input : Bytes} {parsed : Parsed Json input}
    (reads : readValue depth input = .ok parsed) : parsed.value.Sorted := by
  induction depth generalizing input with
  | zero =>
    unfold readValue at reads
    split at reads
    · cases reads
    split at reads
    · cases reads
    split at reads
    · cases reads
    · obtain ⟨found, scalar, rfl⟩ := exists_of_map_eq_ok reads
      exact .of_isScalar (readScalar_isScalar scalar)
  | succ depth ih =>
    unfold readValue at reads
    split at reads
    · cases reads
    split at reads
    · obtain ⟨found, items, rfl⟩ := exists_of_map_eq_ok reads
      exact .arr (readArray_all (fun _ _ => ih) items)
    split at reads
    · obtain ⟨found, object, rfl⟩ := exists_of_map_eq_ok reads
      have fields : SortedFields found.value := by
        refine readObject_keeps ?_ ⟨.nil, List.forall_mem_nil _⟩ object
        intro held name input parsed fields field
        obtain ⟨inner, value, rfl⟩ := exists_of_map_eq_ok field
        exact fields.insertField (ih value)
      exact .obj fields.1 fields.2
    · obtain ⟨found, scalar, rfl⟩ := exists_of_map_eq_ok reads
      exact .of_isScalar (readScalar_isScalar scalar)

/-- Objects in a value that was parsed have their names in order. -/
theorem parse_sorted {input : Bytes} {value : Json} (parsed : parse input = .ok value) :
    value.Sorted := by
  unfold parse complete at parsed
  split at parsed
  · cases parsed
  · rename_i found reads
    split at parsed <;> cases parsed
    exact readValue_sorted reads

end SchedulerLink.Json
