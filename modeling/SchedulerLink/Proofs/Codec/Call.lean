import Mathlib.Data.List.DropRight
import SchedulerLink.Call.Argument
import SchedulerLink.Proofs.Codec.Envelope
import SchedulerLink.Proofs.Codec.Names

/-!
Calls that are encoded decode to themselves.

An argument is found under the number of its place, and the greatest number among the fields is the
place of the last argument that is not null. So the nulls at the end of a list are the only
arguments that a call does not carry.
-/

namespace SchedulerLink.Message

open Json

/-! Fields of argument lists. -/

theorem mem_argumentFields {start : Nat} {arguments : List Json} {field : String × Json}
    (member : field ∈ argumentFields start arguments) :
    ∃ place, start ≤ place ∧ place < start + arguments.length ∧ field.1 = argumentName place ∧
      field.2 ∈ arguments := by
  induction arguments generalizing start with
  | nil => cases member
  | cons argument rest ih =>
    have later : field ∈ argumentFields (start + 1) rest → ∃ place, start ≤ place ∧
        place < start + (argument :: rest).length ∧ field.1 = argumentName place ∧
          field.2 ∈ argument :: rest := by
      intro member
      obtain ⟨place, least, most, name, held⟩ := ih member
      rw [List.length_cons]
      exact ⟨place, by omega, by omega, name, List.mem_cons_of_mem _ held⟩
    rw [argumentFields] at member
    split at member
    · exact later member
    · rcases List.mem_cons.mp member with rfl | member
      · exact ⟨start, Nat.le_refl start, by simp, rfl, List.mem_cons_self⟩
      · exact later member

theorem argumentFields_nodup (start : Nat) (arguments : List Json) :
    ((argumentFields start arguments).map Prod.fst).Nodup := by
  induction arguments generalizing start with
  | nil => exact List.nodup_nil
  | cons argument rest ih =>
    rw [argumentFields]
    split
    · exact ih (start + 1)
    · refine List.nodup_cons.mpr ⟨fun taken => ?_, ih (start + 1)⟩
      obtain ⟨field, member, name⟩ := List.mem_map.mp taken
      obtain ⟨place, least, -, named, -⟩ := mem_argumentFields member
      have same := argumentName_injective (name.symm.trans named)
      omega

/-- An argument stands under the name of its place unless it is null. -/
theorem lookup_argumentFields (start place : Nat) (arguments : List Json) :
    (argumentFields start arguments).lookup (argumentName (start + place)) =
      arguments[place]?.filter fun argument => !argument.isNull := by
  induction arguments generalizing start place with
  | nil => rfl
  | cons argument rest ih =>
    rw [argumentFields]
    cases place with
    | zero =>
      -- The number of a name tells it from the names of all later arguments.
      have absent : (argumentFields (start + 1) rest).lookup (argumentName (start + 0)) = none := by
        rw [List.lookup_eq_none_iff]
        intro field member
        obtain ⟨place, least, -, named, -⟩ := mem_argumentFields member
        rw [bne_iff_ne, named]
        intro same
        have same := argumentName_injective same
        omega
      cases null : argument.isNull with
      | true =>
        rw [if_pos rfl, absent, List.getElem?_cons_zero, Option.filter_some, null]
        rfl
      | false =>
        rw [if_neg Bool.false_ne_true, Nat.add_zero, lookup_cons, if_pos rfl,
          List.getElem?_cons_zero, Option.filter_some, null]
        rfl
    | succ place =>
      have other : argumentName (start + (place + 1)) ≠ argumentName start := by
        intro same
        have same := argumentName_injective same
        omega
      have shift : start + (place + 1) = start + 1 + place := by omega
      have later := ih (start + 1) place
      rw [← shift] at later
      rw [List.getElem?_cons_succ, ← later]
      split
      · rfl
      · rw [lookup_cons, if_neg other]

theorem argumentFields_append (start : Nat) (one other : List Json) :
    argumentFields start (one ++ other) =
      argumentFields start one ++ argumentFields (start + one.length) other := by
  induction one generalizing start with
  | nil => rfl
  | cons argument rest ih =>
    have shift : start + (argument :: rest).length = start + 1 + rest.length := by
      rw [List.length_cons]
      omega
    rw [List.cons_append, argumentFields, argumentFields, ih, shift]
    split <;> rfl

theorem argumentFields_nulls (start : Nat) {arguments : List Json}
    (null : ∀ argument ∈ arguments, argument.isNull = true) :
    argumentFields start arguments = [] := by
  induction arguments generalizing start with
  | nil => rfl
  | cons argument rest ih =>
    rw [argumentFields, if_pos (null argument List.mem_cons_self)]
    exact ih (start + 1) fun other member => null other (List.mem_cons_of_mem _ member)

/-- A list without the nulls at its end. -/
def trimmed (arguments : List Json) : List Json := arguments.rdropWhile Json.isNull

theorem argumentFields_trimmed (start : Nat) (arguments : List Json) :
    argumentFields start (trimmed arguments) = argumentFields start arguments := by
  have split : trimmed arguments ++ arguments.rtakeWhile Json.isNull = arguments :=
    List.rdropWhile_append_rtakeWhile
  have nulls := argumentFields_nulls (start + (trimmed arguments).length)
    fun argument member => List.mem_rtakeWhile_imp (p := Json.isNull) (l := arguments) member
  conv => rhs; rw [← split, argumentFields_append, nulls, List.append_nil]

theorem encodeCall_trimmed (method : String) (sequence : Int32) (arguments : List Json) :
    encodeCall method sequence (trimmed arguments) = encodeCall method sequence arguments := by
  rw [encodeCall, argumentFields_trimmed, encodeCall]

/-! Bodies of calls. -/

section Body

variable (arguments : List Json)

theorem lookup_inOrder (place : Nat) :
    (inOrder (argumentFields 0 arguments)).lookup (argumentName place) =
      arguments[place]?.filter fun argument => !argument.isNull := by
  have found := lookup_argumentFields 0 place arguments
  have whole := lookup_insertFields [] _ (argumentName place) (argumentFields_nodup 0 arguments)
  rw [Nat.zero_add] at found
  rw [found, List.lookup_nil, Option.or_none] at whole
  exact whole

theorem mem_inOrder {arguments : List Json} {field : String × Json}
    (member : field ∈ inOrder (argumentFields 0 arguments)) :
    field ∈ argumentFields 0 arguments :=
  (mem_insertFields member).resolve_right List.not_mem_nil

theorem argumentsOf_inOrder :
    argumentsOf (inOrder (argumentFields 0 arguments)) arguments.length = arguments := by
  apply List.ext_getElem
  · rw [argumentsOf, List.length_map, List.length_range]
  · intro place _ within
    simp only [argumentsOf, List.getElem_map, List.getElem_range, lookup_inOrder,
      List.getElem?_eq_getElem within]
    cases found : arguments[place] <;> rfl

theorem argumentCount_inOrder (few : arguments.length ≤ argumentLimit)
    (ends : ∀ last ∈ arguments.getLast?, last.isNull = false) :
    argumentCount (inOrder (argumentFields 0 arguments)) = .ok arguments.length := by
  refine argumentCount_eq_ok.mpr ⟨few, fun field member => ?_, fun place many => ?_⟩
  · obtain ⟨place, -, within, named, -⟩ := mem_argumentFields (mem_inOrder member)
    exact ⟨place, by omega, named ▸ spells_argumentName place⟩
  · have within : place < arguments.length := many ▸ Nat.lt_succ_self place
    have last : arguments.getLast? = some arguments[place] := by
      rw [List.getLast?_eq_getElem?, many, Nat.add_sub_cancel, List.getElem?_eq_getElem within]
    have kept := lookup_inOrder arguments place
    rw [List.getElem?_eq_getElem within, Option.filter_some, ends _ last] at kept
    obtain ⟨before, behind, split, -⟩ := List.lookup_eq_some_iff.mp kept
    refine ⟨(argumentName place, arguments[place]), ?_, spells_argumentName place⟩
    rw [split]
    exact List.mem_append_right _ List.mem_cons_self

theorem portable_body {arguments : List Json} {levels : Nat}
    (portable : ∀ argument ∈ arguments, Portable levels argument) :
    Portable (levels + 1) (.obj (inOrder (argumentFields 0 arguments))) := by
  refine Portable.obj_iff.mpr ⟨InOrder.insertFields List.Pairwise.nil _, fun field member => ?_⟩
  obtain ⟨-, -, -, -, held⟩ := mem_argumentFields (mem_inOrder member)
  exact portable _ held

end Body

theorem getLast?_trimmed (arguments : List Json) :
    ∀ last ∈ (trimmed arguments).getLast?, last.isNull = false := by
  intro last member
  obtain ⟨nonempty, rfl⟩ := List.mem_getLast?_eq_getLast member
  exact Bool.not_eq_true _ ▸ List.rdropWhile_last_not Json.isNull arguments nonempty

/-- What a peer makes of a call: the nulls at the end of its arguments are gone. -/
theorem decodeCall_eq_trimmed (method : String) (sequence : Int32) {arguments : List Json}
    (few : arguments.length ≤ argumentLimit)
    (portable : ∀ argument ∈ arguments, Portable 125 argument) :
    decodeCall (encodeCall method sequence arguments) =
      .ok (method, sequence, trimmed arguments) := by
  have kept : trimmed arguments <+: arguments := List.rdropWhile_prefix Json.isNull arguments
  have body : Portable 126 (.obj (inOrder (argumentFields 0 (trimmed arguments)))) :=
    portable_body fun argument member => portable argument (kept.subset member)
  have counted := argumentCount_inOrder (trimmed arguments) (kept.length_le.trans few)
    (getLast?_trimmed arguments)
  rw [← encodeCall_trimmed method sequence arguments, encodeCall, decodeCall, decode_encode _ body]
  simp only [bind, Except.bind, pure, Except.pure, counted, argumentsOf_inOrder]
  rfl

/-- A call decodes to its method, its sequence number and its arguments but for the nulls at the
end, and these are encoded to the same octets again. -/
theorem decodeCall_encodeCall (method : String) (sequence : Int32) (arguments : List Json)
    (few : arguments.length ≤ argumentLimit)
    (portable : ∀ argument ∈ arguments, Portable 125 argument) :
    decodeCall (encodeCall method sequence arguments) =
        .ok (method, sequence, trimmed arguments) ∧
      encodeCall method sequence (trimmed arguments) = encodeCall method sequence arguments :=
  ⟨decodeCall_eq_trimmed method sequence few portable, encodeCall_trimmed method sequence arguments⟩

theorem decodeCall_twelve_arguments :
    decodeCall (encodeCall "killTasks" 7
        (List.replicate 9 (Argument.text "a") ++ [.null, Argument.text "m", .null])) =
      .ok ("killTasks", 7, List.replicate 9 (Argument.text "a") ++ [.null, Argument.text "m"]) := by
  have text : ∀ value, Portable 125 (Argument.text value) := fun value =>
    (Portable.single (Portable.str value : Portable 0 _)).mono (by decide)
  have portable : ∀ argument ∈ List.replicate 9 (Argument.text "a") ++
      [.null, Argument.text "m", .null], Portable 125 argument := by
    intro argument member
    simp only [List.mem_append, List.mem_replicate, List.mem_cons, List.not_mem_nil, or_false]
      at member
    rcases member with ⟨-, rfl⟩ | rfl | rfl | rfl
    · exact text "a"
    · exact .null
    · exact text "m"
    · exact .null
  exact (decodeCall_encodeCall "killTasks" 7 _ (by decide) portable).1

end SchedulerLink.Message
