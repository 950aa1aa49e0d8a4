import SchedulerLink.Channel.Headers
import SchedulerLink.Proofs.Json.Wording

/-!
What header fields are after they have been set one after the other.

A name stands for all its spellings in ASCII. Of each name the field that was set last is kept, and
the fields are in the order of the octets of their names.
-/

namespace SchedulerLink

/-! The order of texts is the order of their octets. -/

namespace Bytes

theorem ofNat_cons_lt_iff {one other : Nat} (small : one < 256) (little : other < 256)
    (rest more : Bytes) :
    UInt8.ofNat one :: rest < UInt8.ofNat other :: more ↔
      one < other ∨ one = other ∧ rest < more := by
  have value {number : Nat} (bound : number < 256) : (UInt8.ofNat number).toNat = number :=
    UInt8.toNat_ofNat_of_lt' bound
  rw [List.cons_lt_cons_iff, UInt8.lt_iff_toNat_lt, ← UInt8.toNat_inj, value small, value little]

theorem utf8EncodeChar_lt {one other : Char} (less : one < other) (rest more : Bytes) :
    String.utf8EncodeChar one ++ rest < String.utf8EncodeChar other ++ more := by
  have codes : one.val.toNat < other.val.toNat := less
  have bound : other.val.toNat < 0x110000 := by
    rcases other.valid with _ | _ <;> omega
  simp only [String.utf8EncodeChar]
  generalize one.val.toNat = code at *
  generalize other.val.toNat = greater at *
  -- An octet behind the first holds a digit to the base 64.
  have digits (low high : Nat) (less : low < high) :
      low / 64 < high / 64 ∨ low / 64 = high / 64 ∧ low % 64 < high % 64 := by omega
  have last := digits code greater codes
  have third := digits (code / 64) (greater / 64)
  have second := digits (code / 64 / 64) (greater / 64 / 64)
  simp only [Nat.div_div_eq_div_mul, Nat.reduceMul] at third second
  have first : code / 262144 % 8 = code / 262144 := Nat.mod_eq_of_lt (by omega)
  have leads : greater / 262144 % 8 = greater / 262144 := Nat.mod_eq_of_lt (by omega)
  -- One case for each pair of lengths. The longer encoding begins with the greater octet.
  split <;> repeat' split
  all_goals
    simp (disch := omega) only [List.cons_append, List.nil_append, ofNat_cons_lt_iff]
    omega

theorem utf8EncodeChar_ne_nil (letter : Char) : String.utf8EncodeChar letter ≠ [] := by
  simp only [String.utf8EncodeChar]
  repeat' split
  all_goals exact List.cons_ne_nil _ _

theorem ofString_lt {one other : String} (less : one < other) : ofString one < ofString other := by
  obtain ⟨letters, rfl⟩ : ∃ letters, one = String.ofList letters := ⟨_, String.ofList_toList.symm⟩
  obtain ⟨others, rfl⟩ : ∃ others, other = String.ofList others := ⟨_, String.ofList_toList.symm⟩
  rw [String.lt_iff, String.toList_ofList, String.toList_ofList, ← List.lex_lt] at less
  rw [ofString_flatMap, ofString_flatMap]
  induction less with
  | @nil letter others =>
    obtain ⟨first, rest, encoded⟩ := List.exists_cons_of_ne_nil (utf8EncodeChar_ne_nil letter)
    rw [List.flatMap_cons, encoded]
    exact List.nil_lt_cons _ _
  | rel less => exact utf8EncodeChar_lt less _ _
  | cons _ ih => exact List.append_left_lt ih

end Bytes

namespace Headers

/-! Names. -/

variable {one other name value : String}

theorem sameName_iff : sameName one other = true ↔ one.toLower = other.toLower :=
  decide_eq_true_iff

theorem sameName_self (name : String) : sameName name name = true := sameName_iff.mpr rfl

theorem sameName_symm (same : sameName one other = true) : sameName other one = true :=
  sameName_iff.mpr (sameName_iff.mp same).symm

theorem sameName_comm (one other : String) : sameName one other = sameName other one :=
  Bool.eq_iff_iff.mpr ⟨sameName_symm, sameName_symm⟩

theorem sameName_congr (same : sameName one other = true) (third : String) :
    sameName third one = sameName third other := by
  simp only [sameName, sameName_iff.mp same]

/-! Placing a field. -/

variable {fields : List (String × String)}

theorem mem_place {field : String × String} :
    field ∈ place name value fields ↔ field = (name, value) ∨ field ∈ fields := by
  induction fields with
  | nil => simp only [place, List.mem_cons, List.not_mem_nil, or_false]
  | cons first rest ih =>
    rw [place]
    split
    · rw [List.mem_cons]
    · rw [List.mem_cons, ih, List.mem_cons]
      exact or_left_comm

theorem place_pairwise (sorted : fields.Pairwise (·.1 < ·.1))
    (new : ∀ field ∈ fields, field.1 ≠ name) : (place name value fields).Pairwise (·.1 < ·.1) := by
  induction fields with
  | nil => exact List.pairwise_singleton _ _
  | cons first rest ih =>
    obtain ⟨least, ordered⟩ := List.pairwise_cons.mp sorted
    obtain ⟨differs, others⟩ := List.forall_mem_cons.mp new
    rw [place]
    split
    next before =>
      refine List.pairwise_cons.mpr ⟨List.forall_mem_cons.mpr ⟨before, fun field member => ?_⟩, sorted⟩
      exact String.lt_trans before (least field member)
    next behind =>
      refine List.pairwise_cons.mpr ⟨fun field member => ?_, ih ordered others⟩
      rcases mem_place.mp member with rfl | member
      · exact Std.lt_of_le_of_ne (String.not_lt.mp behind) differs
      · exact least field member

/-! Fields that are set one after the other. -/

def setAll (headers : Headers) (fields : List (String × String)) : Headers :=
  fields.foldl (fun headers field => headers.set field.1 field.2) headers

def lastOf (name : String) (fields : List (String × String)) : Option (String × String) :=
  (fields.filter fun field => sameName field.1 name).getLast?

theorem lastOf_concat (name : String) (fields : List (String × String)) (field : String × String) :
    lastOf name (fields ++ [field]) =
      if sameName field.1 name then some field else lastOf name fields := by
  rw [lastOf, List.filter_append, List.getLast?_append, List.filter_cons, List.filter_nil]
  cases sameName field.1 name <;> rfl

theorem sameName_of_lastOf {field : String × String} (last : lastOf name fields = some field) :
    sameName field.1 name = true :=
  (List.mem_filter.mp (List.mem_of_getLast? last)).2

theorem lastOf_congr (same : sameName one other = true) (fields : List (String × String)) :
    lastOf one fields = lastOf other fields := by
  simp only [lastOf, sameName_congr same]

/-- Header fields in order that are those which were set last. -/
structure Keeps (headers : Headers) (fields : List (String × String)) : Prop where
  sorted : headers.fields.Pairwise (·.1 < ·.1)
  kept (field : String × String) : field ∈ headers.fields ↔ lastOf field.1 fields = some field

namespace Keeps

variable {headers : Headers}

theorem empty : Keeps .empty [] where
  sorted := .nil
  kept field := by simp only [Headers.empty, lastOf, List.filter_nil, List.getLast?_nil,
    List.not_mem_nil, reduceCtorEq]

theorem set (keeps : headers.Keeps fields) (name value : String) :
    (headers.set name value).Keeps (fields ++ [(name, value)]) where
  sorted := by
    refine place_pairwise (keeps.sorted.filter _) fun field member same => ?_
    have other := (List.mem_filter.mp member).2
    rw [same, sameName_self] at other
    cases other
  kept field := by
    rw [Headers.set, mem_place, List.mem_filter, keeps.kept, lastOf_concat,
      sameName_comm field.1 name]
    cases same : sameName name field.1 with
    | true =>
      simp only [Bool.not_true, Bool.false_eq_true, and_false, or_false, if_true, Option.some.injEq]
      exact eq_comm
    | false =>
      have differs : field ≠ (name, value) := by
        rintro rfl
        cases (sameName_self name).symm.trans same
      simp only [Bool.not_false, and_true, Bool.false_eq_true, if_false, or_iff_right differs]

theorem setAll (keeps : headers.Keeps fields) (more : List (String × String)) :
    (headers.setAll more).Keeps (fields ++ more) := by
  induction more generalizing headers fields with
  | nil =>
    rw [List.append_nil]
    exact keeps
  | cons field rest ih =>
    rw [List.append_cons]
    exact ih (keeps.set field.1 field.2)

theorem eq_of_sameName (keeps : headers.Keeps fields) {one other : String × String}
    (first : one ∈ headers.fields) (second : other ∈ headers.fields)
    (same : sameName one.1 other.1 = true) : one = other := by
  have last := (keeps.kept one).mp first
  rw [lastOf_congr same, (keeps.kept other).mp second] at last
  exact (Option.some.inj last).symm

theorem find?_eq (keeps : headers.Keeps fields) (name : String) :
    (headers.fields.find? fun field => sameName field.1 name) = lastOf name fields := by
  cases last : lastOf name fields with
  | none =>
    refine List.find?_eq_none.mpr fun field member same => ?_
    rw [← lastOf_congr same, (keeps.kept field).mp member] at last
    cases last
  | some field =>
    have same := sameName_of_lastOf last
    have member := (keeps.kept field).mpr ((lastOf_congr same fields).trans last)
    cases finds : headers.fields.find? fun field => sameName field.1 name with
    | none => exact absurd same (List.find?_eq_none.mp finds field member)
    | some found =>
      have named : sameName found.1 name = true :=
        List.find?_some (p := fun field : String × String => sameName field.1 name) finds
      rw [keeps.eq_of_sameName (List.mem_of_find?_eq_some finds) member
        ((sameName_congr same found.1).trans named)]

end Keeps

def initialFields (bypassLeaderRedirect : Bool) : List (String × String) :=
  if bypassLeaderRedirect then [(bypassName, "true")] else []

theorem initial_keeps (bypassLeaderRedirect : Bool) :
    (initial bypassLeaderRedirect).Keeps (initialFields bypassLeaderRedirect) := by
  cases bypassLeaderRedirect with
  | false => exact .empty
  | true => exact Keeps.empty.set bypassName "true"

/-- Header fields are what was set last for each name, in whatever spelling. So a name has the value
that it was given last, no two fields have the same name, each field is as it was set last, and they
are in the order of the octets of their names. A request starts with no fields, or with one. -/
theorem fields_are_set_last (bypassLeaderRedirect : Bool) (fields : List (String × String)) :
    let headers := (initial bypassLeaderRedirect).setAll fields
    let history := initialFields bypassLeaderRedirect ++ fields
    (∀ name, headers.get? name = (lastOf name history).map Prod.snd) ∧
    (headers.fields.Pairwise fun one other => sameName one.1 other.1 = false) ∧
    (∀ field, field ∈ headers.fields ↔ lastOf field.1 history = some field) ∧
    headers.fields.Pairwise fun one other => Bytes.ofString one.1 < Bytes.ofString other.1 := by
  intro headers history
  have keeps : headers.Keeps history := (initial_keeps bypassLeaderRedirect).setAll fields
  refine ⟨fun name => ?_, ?_, keeps.kept, keeps.sorted.imp Bytes.ofString_lt⟩
  · rw [get?, keeps.find?_eq]
  · refine keeps.sorted.imp_of_mem fun first second less => ?_
    refine Bool.eq_false_iff.mpr fun same => ?_
    rw [keeps.eq_of_sameName first second same] at less
    exact String.lt_irrefl _ less

end Headers

end SchedulerLink
