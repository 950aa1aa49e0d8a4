import SchedulerLink.Call.Exchange
import SchedulerLink.Proofs.Codec.Call

/-!
Argument lists that are fitted to a call.

A call takes every list of a length in range. A padded call adds nulls to it, and since nulls are
not written, the octets of the call do not tell whether they were added.
-/

namespace SchedulerLink

namespace Signature

variable {signature : Signature} {given fitted : List Json}

def Takes (signature : Signature) (given : List Json) : Prop :=
  signature.required ≤ given.length ∧ given.length ≤ signature.most

def gap (signature : Signature) (given : List Json) : Nat :=
  if signature.padded then signature.most - given.length else 0

theorem fit_of_takes (takes : signature.Takes given) :
    signature.fit given = .ok (given ++ List.replicate (signature.gap given) .null) := by
  unfold fit gap
  rw [if_neg (not_or.mpr ⟨takes.1.not_gt, takes.2.not_gt⟩)]
  cases signature.padded with
  | true => rfl
  | false => rw [if_neg Bool.false_ne_true, if_neg Bool.false_ne_true, List.replicate_zero,
      List.append_nil]

theorem fit_of_not_takes (misfit : ¬ signature.Takes given) :
    signature.fit given =
      .error ⟨signature.name, signature.required, signature.most, given.length⟩ := by
  rw [Takes, not_and_or, not_le, not_le] at misfit
  rw [fit, if_pos misfit]

theorem fit_eq_ok :
    signature.fit given = .ok fitted ↔
      signature.Takes given ∧ fitted = given ++ List.replicate (signature.gap given) .null := by
  by_cases takes : signature.Takes given
  · rw [fit_of_takes takes, Except.ok.injEq, eq_comm]
    exact (and_iff_right takes).symm
  · rw [fit_of_not_takes takes]
    exact iff_of_false nofun fun fits => takes fits.1

theorem length_append_gap (takes : signature.Takes given) (padded : signature.padded = true) :
    (given ++ List.replicate (signature.gap given) Json.null).length = signature.most := by
  rw [List.length_append, List.length_replicate, gap, if_pos padded, Nat.add_sub_cancel' takes.2]

theorem length_le_of_fit (fits : signature.fit given = .ok fitted) :
    fitted.length ≤ signature.most := by
  obtain ⟨takes, rfl⟩ := fit_eq_ok.mp fits
  cases padded : signature.padded with
  | true => exact (length_append_gap takes padded).le
  | false => simpa [gap, padded] using takes.2

theorem mem_of_fit (fits : signature.fit given = .ok fitted) {argument : Json}
    (member : argument ∈ fitted) : argument ∈ given ∨ argument = .null := by
  obtain ⟨-, rfl⟩ := fit_eq_ok.mp fits
  exact (List.mem_append.mp member).imp_right List.eq_of_mem_replicate

/-- What an argument list is fitted to: the list itself and nulls, which nobody sees. -/
structure Fits (signature : Signature) (given fitted : List Json) : Prop where
  nulls : ∃ count, fitted = given ++ List.replicate count .null
  full : signature.padded = true → fitted.length = signature.most
  plain : signature.padded = false → fitted = given
  settled : signature.fit fitted = .ok fitted
  encoded (name : String) (sequence : Int32) :
    Message.encodeCall name sequence fitted = Message.encodeCall name sequence given

end Signature

/-! The calls of the interface take few arguments. -/

theorem Method.most_le (method : Method) : method.signature.most ≤ 3 := by
  cases method <;> decide

end SchedulerLink
