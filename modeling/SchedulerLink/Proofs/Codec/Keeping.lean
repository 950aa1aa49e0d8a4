import SchedulerLink.Proofs.Codec.Acceptance
import SchedulerLink.Proofs.Codec.Call
import SchedulerLink.Proofs.Json.Parts

/-!
What a decoded call keeps of its fields.

A field is taken under every spelling of its number, with a plus or with zeros in front, but its
value is looked up under the shortest one. So a call keeps the values of the fields whose numbers
are spelled shortest. Under any other spelling a field makes the list of arguments longer and its
value is lost.
-/

namespace SchedulerLink.Message

open Json

/-- Arguments come from the fields of a body: those with the shortest names hold their values, and
where there is none the argument is null. -/
structure Carries (body : List (String × Json)) (arguments : List Json) : Prop where
  counts : Counts body arguments.length
  kept : ∀ place value, (argumentName place, value) ∈ body → arguments[place]? = some value
  filled : ∀ place < arguments.length, (∀ value, (argumentName place, value) ∉ body) →
    arguments[place]? = some .null

theorem getElem?_argumentsOf {body : List (String × Json)} {count place : Nat}
    (within : place < count) :
    (argumentsOf body count)[place]? = some ((body.lookup (argumentName place)).getD .null) := by
  rw [argumentsOf, List.getElem?_map, List.getElem?_range within, Option.map_some]

theorem carries_argumentsOf {body : List (String × Json)} {count : Nat} (order : InOrder body)
    (counts : Counts body count) : Carries body (argumentsOf body count) := by
  have length : (argumentsOf body count).length = count := by
    rw [argumentsOf, List.length_map, List.length_range]
  refine ⟨by rwa [length], fun place value member => ?_, fun place within absent => ?_⟩
  · obtain ⟨other, less, spelled⟩ := counts.within _ member
    rw [spelled.unique (spells_argumentName place)] at less
    rw [getElem?_argumentsOf less, order.lookup_eq_some_iff.mpr member, Option.getD_some]
  · rw [length] at within
    have none : body.lookup (argumentName place) = none := by
      rw [Option.eq_none_iff_forall_ne_some]
      exact fun value found => absent value (order.lookup_eq_some_iff.mp found)
    rw [getElem?_argumentsOf within, none]
    rfl

/-- No other arguments come from a body. -/
theorem Carries.unique {body : List (String × Json)} {one other : List Json}
    (carries : Carries body one) (carriesToo : Carries body other) : one = other := by
  have length : one.length = other.length :=
    (carries.counts.le carriesToo.counts).antisymm (carriesToo.counts.le carries.counts)
  apply List.ext_getElem? 
  intro place
  by_cases within : place < one.length
  · by_cases held : ∃ value, (argumentName place, value) ∈ body
    · obtain ⟨value, member⟩ := held
      rw [carries.kept place value member, carriesToo.kept place value member]
    · have absent := not_exists.mp held
      rw [carries.filled place within absent, carriesToo.filled place (length ▸ within) absent]
  · rw [List.getElem?_eq_none (not_lt.mp within),
      List.getElem?_eq_none (length ▸ not_lt.mp within)]

theorem inOrder_of_addresses {bytes : Bytes} {method : String} {sequence : Int32} {kind : Int}
    {body : List (String × Json)} (addressed : Addresses bytes method sequence kind body) :
    InOrder body :=
  parse_sorted addressed body (.item (by simp) .self)

section Decoding

variable {bytes : Bytes} {method : String} {sequence : Int32} {arguments : List Json}

theorem decodeCall_eq_ok_iff_decode :
    decodeCall bytes = .ok (method, sequence, arguments) ↔
      ∃ kind body count, (kind = .call ∨ kind = .oneway) ∧
        decode bytes = .ok ⟨method, kind, sequence, body⟩ ∧ argumentCount body = .ok count ∧
          argumentsOf body count = arguments := by
  unfold decodeCall
  constructor
  · intro taken
    cases decoded : decode bytes with
    | error fault => rw [decoded] at taken; cases taken
    | ok message =>
      simp only [decoded, bind, Except.bind] at taken
      by_cases called : message.kind = .call ∨ message.kind = .oneway
      · simp only [called, ↓reduceIte, pure, Except.pure] at taken
        cases counted : argumentCount message.body with
        | error fault => rw [counted] at taken; cases taken
        | ok count =>
          rw [counted] at taken
          cases taken
          exact ⟨message.kind, message.body, count, called, rfl, counted, rfl⟩
      · simp only [called, ↓reduceIte] at taken
        cases taken
  · rintro ⟨kind, body, count, called, decoded, counted, rfl⟩
    simp only [decoded, counted, bind, Except.bind, called, ↓reduceIte, pure, Except.pure]

theorem decodeCall_eq_ok :
    decodeCall bytes = .ok (method, sequence, arguments) ↔
      ∃ kind body, (kind = 1 ∨ kind = 4) ∧ Addresses bytes method sequence kind body ∧
        Carries body arguments := by
  rw [decodeCall_eq_ok_iff_decode]
  constructor
  · rintro ⟨kind, body, count, called, decoded, counted, rfl⟩
    have addressed := (addresses_iff kind body).mpr decoded
    refine ⟨kind.toInt, body, ?_, addressed, carries_argumentsOf (inOrder_of_addresses addressed)
      (counts_of_argumentCount counted)⟩
    rcases called with rfl | rfl
    · exact .inl rfl
    · exact .inr rfl
  · rintro ⟨kind, body, called, addressed, carries⟩
    have order := inOrder_of_addresses addressed
    have counted := argumentCount_eq_ok.mpr carries.counts
    have same := (carries_argumentsOf order carries.counts).unique carries
    rcases called with rfl | rfl
    · exact ⟨.call, body, _, .inl rfl, (addresses_iff .call body).mp addressed, counted, same⟩
    · exact ⟨.oneway, body, _, .inr rfl, (addresses_iff .oneway body).mp addressed, counted, same⟩

end Decoding

theorem Addresses.unique {bytes : Bytes} {method : String} {sequence : Int32} {kind other : Int}
    {body bodyToo : List (String × Json)} (addressed : Addresses bytes method sequence kind body)
    (addressedToo : Addresses bytes method sequence other bodyToo) : body = bodyToo := by
  have same := addressed.symm.trans addressedToo
  simp only [Except.ok.injEq, arr.injEq, List.cons.injEq, obj.injEq] at same
  exact same.2.2.2.2.1

theorem Carries.field {body : List (String × Json)} {arguments : List Json}
    (carries : Carries body arguments) {name : String} {value : Json}
    (member : (name, value) ∈ body) :
    ∃ place < arguments.length, Spells name place ∧
      (name = argumentName place → arguments[place]? = some value) ∧
      (name ≠ argumentName place → ∀ argument, arguments[place]? = some argument →
        (argumentName place, argument) ∈ body ∨
          argument = .null ∧ ∀ other, (argumentName place, other) ∉ body) := by
  obtain ⟨place, within, spelled⟩ := carries.counts.within _ member
  refine ⟨place, within, spelled, ?_, fun _ argument found => ?_⟩
  · rintro rfl
    exact carries.kept place value member
  · by_cases held : ∃ other, (argumentName place, other) ∈ body
    · obtain ⟨other, memberToo⟩ := held
      rw [carries.kept place other memberToo] at found
      cases found
      exact .inl memberToo
    · have absent := not_exists.mp held
      rw [carries.filled place within absent] at found
      cases found
      exact .inr ⟨rfl, absent⟩

/-- A call is decoded from nothing but a message of the kind 1 or 4 whose fields spell numbers of
arguments, and the value of such a field is the argument of that number exactly as far as the
field has the shortest name of it. -/
theorem decodeCall_keeps_shortest_names (bytes : Bytes) (method : String) (sequence : Int32)
    (arguments : List Json) :
    (decodeCall bytes = .ok (method, sequence, arguments) ↔
      ∃ kind body, (kind = 1 ∨ kind = 4) ∧ Addresses bytes method sequence kind body ∧
        Carries body arguments) ∧
    (decodeCall bytes = .ok (method, sequence, arguments) →
      ∀ kind body, Addresses bytes method sequence kind body →
        ∀ name value, (name, value) ∈ body → ∃ place < arguments.length, Spells name place ∧
          (name = argumentName place → arguments[place]? = some value) ∧
          (name ≠ argumentName place → ∀ argument, arguments[place]? = some argument →
            (argumentName place, argument) ∈ body ∨
              argument = .null ∧ ∀ other, (argumentName place, other) ∉ body)) := by
  refine ⟨decodeCall_eq_ok, fun accepted kind body addressed name value member => ?_⟩
  obtain ⟨other, bodyToo, -, addressedToo, carries⟩ := decodeCall_eq_ok.mp accepted
  rw [addressed.unique addressedToo] at member ⊢
  exact carries.field member

theorem portable_text (levels : Nat) (value : String) :
    Portable (levels + 1) (Argument.text value) :=
  Portable.single (Portable.str value)

def signedCall : Message :=
  ⟨"killTasks", .call, 3, [("+2", Argument.text "b"), ("1", Argument.text "a")]⟩

theorem signedCall_addresses : Addresses signedCall.encode "killTasks" 3 1 signedCall.body := by
  have order : InOrder signedCall.body := List.pairwise_pair.mpr (by decide)
  refine (addresses_iff .call signedCall.body).mpr
    (decode_encode signedCall (Portable.obj_iff.mpr ⟨order, fun field member => ?_⟩))
  simp only [signedCall, List.mem_cons, List.not_mem_nil, or_false] at member
  rcases member with rfl | rfl
  · exact portable_text 124 "b"
  · exact portable_text 124 "a"

/-- The first of two arguments comes back, the second is lost. -/
theorem decodeCall_signed_name :
    decodeCall signedCall.encode = .ok ("killTasks", 3, [Argument.text "a", .null]) ∧
      ∀ name value, (name, value) ∈ signedCall.body → ∃ place < 2, Spells name place ∧
        (name = argumentName place → [Argument.text "a", .null][place]? = some value) ∧
        (name ≠ argumentName place →
          ∀ argument, [Argument.text "a", .null][place]? = some argument →
            (argumentName place, argument) ∈ signedCall.body ∨
              argument = .null ∧ ∀ other, (argumentName place, other) ∉ signedCall.body) := by
  have accepted : decodeCall signedCall.encode =
      .ok ("killTasks", 3, [Argument.text "a", .null]) := by
    have counts : argumentCount signedCall.body = .ok 2 := rfl
    have carries := carries_argumentsOf (inOrder_of_addresses signedCall_addresses)
      (counts_of_argumentCount counts)
    exact decodeCall_eq_ok.mpr ⟨1, signedCall.body, .inl rfl, signedCall_addresses, carries⟩
  exact ⟨accepted, (decodeCall_keeps_shortest_names _ _ _ _).2 accepted 1 signedCall.body
    signedCall_addresses⟩

def paddedCall : Message := ⟨"getJobs", .call, 1, [("01", Argument.text "x")]⟩

/-- The argument of a number with a zero in front is taken for one and comes back null. -/
theorem padded_name_loses_argument :
    Addresses paddedCall.encode "getJobs" 1 1 [("01", Argument.text "x")] ∧
      argumentNumber? "01" = some 1 ∧
      decodeCall paddedCall.encode = .ok ("getJobs", 1, [.null]) ∧
      [Json.null][0]? ≠ some (Argument.text "x") := by
  have addressed : Addresses paddedCall.encode "getJobs" 1 1 paddedCall.body :=
    (addresses_iff .call paddedCall.body).mpr
      (decode_encode paddedCall (Portable.single (portable_text 124 "x")))
  have carries := carries_argumentsOf (inOrder_of_addresses addressed)
    (counts_of_argumentCount (rfl : argumentCount paddedCall.body = .ok 1))
  exact ⟨addressed, rfl, decodeCall_eq_ok.mpr ⟨1, paddedCall.body, .inl rfl, addressed, carries⟩,
    by simp [Argument.text, Json.single]⟩

end SchedulerLink.Message
