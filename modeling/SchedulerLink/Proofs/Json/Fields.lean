import Mathlib.Data.String.Basic
import SchedulerLink.Json.Basic

/-!
The fields of an object.

Adding a field keeps the names in order and changes no field of another name. Fields that are in
order already come out as they were put in.
-/

namespace SchedulerLink.Json

variable {name : String} {value : Json} {fields : List (String × Json)}

def InOrder (fields : List (String × Json)) : Prop :=
  fields.Pairwise fun one next => one.1 < next.1

theorem lookup_cons (name key : String) (value : Json) (rest : List (String × Json)) :
    ((key, value) :: rest).lookup name = if name = key then some value else rest.lookup name := by
  by_cases same : name = key
  · rw [if_pos same, List.lookup_cons, beq_iff_eq.mpr same]
  · rw [if_neg same, List.lookup_cons, beq_eq_false_iff_ne.mpr same]

theorem lookup_insertField (name other : String) (value : Json) (fields : List (String × Json)) :
    (insertField name value fields).lookup other =
      if other = name then some value else fields.lookup other := by
  induction fields with
  | nil => exact lookup_cons other name value []
  | cons field rest ih =>
    obtain ⟨held, heldValue⟩ := field
    rw [insertField]
    split
    · exact lookup_cons other name value _
    split
    · rename_i same
      subst same
      rw [lookup_cons, lookup_cons]
      split <;> rfl
    · rename_i different
      rw [lookup_cons, lookup_cons, ih]
      by_cases found : other = name
      · subst found
        simp only [if_neg different, ↓reduceIte]
      · simp only [if_neg found]

theorem mem_insertField {field : String × Json} (member : field ∈ insertField name value fields) :
    field = (name, value) ∨ field ∈ fields := by
  induction fields with
  | nil => exact .inl (List.mem_singleton.mp member)
  | cons held rest ih =>
    rw [insertField] at member
    split at member
    · exact List.mem_cons.mp member
    split at member
    · exact (List.mem_cons.mp member).imp_right (List.mem_cons_of_mem _)
    · rcases List.mem_cons.mp member with rfl | later
      · exact .inr List.mem_cons_self
      · exact (ih later).imp_right (List.mem_cons_of_mem _)

theorem InOrder.insertField (sorted : InOrder fields) (name : String) (value : Json) :
    InOrder (insertField name value fields) := by
  induction fields with
  | nil => exact List.pairwise_singleton _ _
  | cons field rest ih =>
    obtain ⟨held, heldValue⟩ := field
    obtain ⟨first, later⟩ := List.pairwise_cons.mp sorted
    rw [Json.insertField]
    split
    · rename_i less
      refine List.pairwise_cons.mpr ⟨fun other member => ?_, sorted⟩
      rcases List.mem_cons.mp member with rfl | member
      · exact less
      · exact less.trans (first other member)
    split
    · rename_i same
      subst same
      exact List.pairwise_cons.mpr ⟨first, later⟩
    · rename_i notLess different
      refine List.pairwise_cons.mpr ⟨fun other member => ?_, ih later⟩
      rcases mem_insertField member with rfl | member
      · exact lt_of_le_of_ne (not_lt.mp notLess) (Ne.symm different)
      · exact first other member

theorem insertField_append {held : List (String × Json)} (value : Json)
    (before : ∀ field ∈ held, field.1 < name) :
    insertField name value held = held ++ [(name, value)] := by
  induction held with
  | nil => rfl
  | cons field rest ih =>
    have less : field.1 < name := before field List.mem_cons_self
    rw [insertField, if_neg less.asymm, if_neg less.ne',
      ih fun other member => before other (List.mem_cons_of_mem _ member)]
    rfl

def insertFields (held fields : List (String × Json)) : List (String × Json) :=
  fields.foldl (fun held field => insertField field.1 field.2 held) held

theorem insertFields_append (held fields : List (String × Json))
    (sorted : InOrder (held ++ fields)) :
    insertFields held fields = held ++ fields := by
  induction fields generalizing held with
  | nil => exact (List.append_nil held).symm
  | cons field rest ih =>
    have before : ∀ other ∈ held, other.1 < field.1 := by
      intro other member
      exact (List.pairwise_append.mp sorted).2.2 other member field List.mem_cons_self
    rw [List.append_cons] at sorted ⊢
    rw [insertFields, List.foldl_cons, insertField_append field.2 before]
    exact ih _ sorted

theorem InOrder.insertFields {held : List (String × Json)} (sorted : InOrder held)
    (fields : List (String × Json)) : InOrder (insertFields held fields) := by
  induction fields generalizing held with
  | nil => exact sorted
  | cons field rest ih => exact ih (sorted.insertField field.1 field.2)

theorem mem_insertFields {held : List (String × Json)} {field : String × Json}
    (member : field ∈ insertFields held fields) : field ∈ fields ∨ field ∈ held := by
  induction fields generalizing held with
  | nil => exact .inr member
  | cons first rest ih =>
    rcases ih member with later | member
    · exact .inl (List.mem_cons_of_mem _ later)
    · rcases mem_insertField member with rfl | member
      · exact .inl List.mem_cons_self
      · exact .inr member

theorem lookup_insertFields (held fields : List (String × Json)) (name : String)
    (different : (fields.map Prod.fst).Nodup) :
    (insertFields held fields).lookup name = (fields.lookup name).or (held.lookup name) := by
  induction fields generalizing held with
  | nil => rfl
  | cons field rest ih =>
    obtain ⟨key, value⟩ := field
    obtain ⟨fresh, others⟩ := List.nodup_cons.mp different
    rw [insertFields, List.foldl_cons]
    refine (ih _ others).trans ?_
    rw [lookup_insertField, lookup_cons]
    by_cases same : name = key
    · have absent : rest.lookup name = none := by
        rw [List.lookup_eq_none_iff]
        intro other member
        rw [bne_iff_ne, same]
        intro taken
        exact fresh (List.mem_map.mpr ⟨other, member, taken.symm⟩)
      rw [if_pos same, if_pos same, absent]
      rfl
    · rw [if_neg same, if_neg same]

theorem InOrder.lookup_eq_some_iff {fields : List (String × Json)} (order : InOrder fields)
    {name : String} {value : Json} : fields.lookup name = some value ↔ (name, value) ∈ fields := by
  constructor
  · intro found
    obtain ⟨before, behind, split, -⟩ := List.lookup_eq_some_iff.mp found
    rw [split]
    exact List.mem_append_right _ List.mem_cons_self
  · intro member
    obtain ⟨before, behind, rfl⟩ := List.append_of_mem member
    refine List.lookup_eq_some_iff.mpr ⟨before, behind, rfl, fun other earlier => ?_⟩
    have less := (List.pairwise_append.mp order).2.2 other earlier _ List.mem_cons_self
    exact bne_iff_ne.mpr less.ne'

end SchedulerLink.Json
