import SchedulerLink.Call.Message
import SchedulerLink.Proofs.Json.RoundTrip

/-!
Messages that are encoded decode to themselves.

The five items of a message take a level, its body takes another, and every item reads back on its
own.
-/

namespace SchedulerLink

open Json

theorem MessageKind.ofInt?_toInt (kind : MessageKind) : ofInt? kind.toInt = some kind := by
  cases kind <;> rfl

theorem int32_bounds (number : Int32) :
    -0x80000000 ≤ number.toInt ∧ number.toInt < 0x80000000 :=
  ⟨number.le_toInt, number.toInt_lt⟩

namespace Json

theorem int64?_int32 (number : Int32) : (int number.toInt).int64? = some number.toInt := by
  have bounds := int32_bounds number
  rw [int64?, if_pos (by omega)]

theorem Portable.int32 (levels : Nat) (number : Int32) : Portable levels (.int number.toInt) := by
  have bounds := int32_bounds number
  exact .int (by omega) (by omega)

theorem length_encodeInt_int32 (number : Int32) : (encodeInt number.toInt).length ≤ 11 := by
  have digits : ∀ absolute ≤ 0x80000000,
      (Bytes.ofString (toString absolute)).length ≤ 10 := by
    intro absolute small
    rw [Numeral.ofString_toString, List.length_map,
      Nat.length_toDigits_le_iff (by decide) (by decide)]
    omega
  obtain ⟨least, most⟩ := int32_bounds number
  obtain ⟨absolute, natural | negative⟩ := number.toInt.eq_nat_or_neg
  · rw [natural, encodeInt_natural]
    exact (digits absolute (by omega)).trans (by decide)
  · cases absolute with
    | zero =>
      rw [negative]
      decide
    | succ less =>
      rw [negative, encodeInt_negative (Nat.succ_pos less), List.length_cons]
      exact Nat.succ_le_succ (digits (less + 1) (by omega))

end Json

namespace Message

theorem sequence?_toInt (sequence : Int32) : sequence? (.int sequence.toInt) = some sequence := by
  rw [sequence?, int64?_int32, Option.bind_some, if_pos (int32_bounds sequence),
    Int32.ofInt_toInt]

theorem int64?_kind (kind : MessageKind) : (int kind.toInt).int64? = some kind.toInt := by
  cases kind <;> rfl

theorem ofItems_self (message : Message) :
    ofItems (.int version) (.str message.method) (.int message.kind.toInt)
      (.int message.sequence.toInt) (.obj message.body) = .ok message := by
  have first : (int version).int64? = some version := rfl
  have kind : (int message.kind.toInt).int64?.bind MessageKind.ofInt? = some message.kind := by
    rw [int64?_kind, Option.bind_some, MessageKind.ofInt?_toInt]
  simp only [ofItems, first, str?, kind, sequence?_toInt, ↓reduceIte]
  rfl

theorem portable_items (message : Message) (portable : Portable 126 (.obj message.body)) :
    Portable depthLimit (.arr [.int version, .str message.method, .int message.kind.toInt,
      .int message.sequence.toInt, .obj message.body]) := by
  have kind : Portable 126 (.int message.kind.toInt) := by
    cases message.kind <;> exact .int (by decide) (by decide)
  refine Portable.arr_iff.mpr fun item member => ?_
  simp only [List.mem_cons, List.not_mem_nil, or_false] at member
  rcases member with rfl | rfl | rfl | rfl | rfl
  · exact .int (by decide) (by decide)
  · exact .str message.method
  · exact kind
  · exact .int32 126 message.sequence
  · exact portable

theorem decode_encode (message : Message) (portable : Portable 126 (.obj message.body)) :
    decode message.encode = .ok message := by
  rw [decode, encode, parse_encode (portable_items message portable)]
  exact ofItems_self message

theorem length_encode_le (message : Message) :
    message.encode.length ≤ { message with sequence := 0 }.encode.length + 10 := by
  have most := length_encodeInt_int32 message.sequence
  have least : (encodeInt (Int32.toInt 0)).length = 1 := by decide
  simp only [encode, Json.encode, encodeItems, List.length_append, List.length_cons,
    List.length_nil]
  omega

end Message

end SchedulerLink
