import SchedulerLink.Proofs.Json.Number

/-!
What is written for a value is text.

Only octets of ASCII characters are escaped, and by octets of ASCII characters. The octets of all
others are left as they are, so no character is broken.
-/

namespace SchedulerLink

namespace Bytes

theorem ofString_flatMap (letters : List Char) :
    ofString (String.ofList letters) = letters.flatMap String.utf8EncodeChar := by
  rw [ofString, String.toByteArray_ofList, List.utf8Encode]
  simp only [List.data_toByteArray, List.toList_toArray]

def IsText (octets : Bytes) : Prop := ∃ text, ofString text = octets

theorem isText_ofString (text : String) : IsText (ofString text) := ⟨text, rfl⟩

theorem IsText.nil : IsText [] := isText_ofString ""

theorem IsText.append {one other : Bytes} (first : IsText one) (second : IsText other) :
    IsText (one ++ other) := by
  obtain ⟨text, rfl⟩ := first
  obtain ⟨more, rfl⟩ := second
  exact ⟨text ++ more, ofString_append text more⟩

theorem IsText.cons {octet : UInt8} {octets : Bytes} (ascii : octet.toNat < 128)
    (later : IsText octets) : IsText (octet :: octets) := by
  have single : ∀ code < 128, ofString (String.singleton (Char.ofNat code)) = [code.toUInt8] := by
    decide +kernel
  have same := single octet.toNat ascii
  rw [Nat.toUInt8_eq, UInt8.ofNat_toNat] at same
  exact .append ⟨_, same⟩ later

theorem isText_of_ascii {octets : Bytes} (ascii : ∀ octet ∈ octets, octet.toNat < 128) :
    IsText octets := by
  induction octets with
  | nil => exact .nil
  | cons octet rest ih =>
    obtain ⟨first, others⟩ := List.forall_mem_cons.mp ascii
    exact .cons first (ih others)

end Bytes

namespace Json

open Ascii Bytes

theorem escapeOctet_ascii : ∀ code < 128, ∀ written ∈ escapeOctet code.toUInt8,
    written.toNat < 128 := by decide +kernel

theorem escapeOctet_of_high {octet : UInt8} (high : 128 ≤ octet.toNat) :
    escapeOctet octet = [octet] := by
  have all : ∀ code < 256, 128 ≤ code → escapeOctet code.toUInt8 = [code.toUInt8] := by
    decide +kernel
  have same := all octet.toNat octet.toNat_lt high
  rwa [Nat.toUInt8_eq, UInt8.ofNat_toNat] at same

theorem flatMap_escapeOctet_of_high {octets : Bytes}
    (high : ∀ octet ∈ octets, 128 ≤ octet.toNat) : octets.flatMap escapeOctet = octets := by
  induction octets with
  | nil => rfl
  | cons octet rest ih =>
    obtain ⟨first, others⟩ := List.forall_mem_cons.mp high
    rw [List.flatMap_cons, escapeOctet_of_high first, ih others]
    rfl

theorem utf8EncodeChar_high {letter : Char} (wide : 128 ≤ letter.toNat) :
    ∀ octet ∈ String.utf8EncodeChar letter, 128 ≤ octet.toNat := by
  have several : ¬ letter.val.toNat ≤ 127 := Nat.not_le.mpr wide
  intro octet member
  -- One case for each length of the encoding, and in it one for each octet.
  simp only [String.utf8EncodeChar, if_neg several] at member
  split at member
  all_goals
    try split at member
  all_goals
    simp only [List.mem_cons, List.not_mem_nil, or_false] at member
    rcases member with rfl | rfl | rfl | rfl
  all_goals
    rw [UInt8.toNat_ofNat']
    omega

theorem isText_escaped (text : String) : IsText ((ofString text).flatMap escapeOctet) := by
  rw [← String.ofList_toList (s := text), ofString_flatMap]
  induction text.toList with
  | nil => exact .nil
  | cons letter rest ih =>
    rw [List.flatMap_cons, List.flatMap_append]
    refine .append ?_ ih
    by_cases ascii : letter.val.toNat ≤ 127
    · have single : String.utf8EncodeChar letter = [letter.val.toNat.toUInt8] := if_pos ascii
      rw [single, List.flatMap_cons, List.flatMap_nil, List.append_nil]
      exact isText_of_ascii (escapeOctet_ascii _ (Nat.lt_succ_of_le ascii))
    · rw [flatMap_escapeOctet_of_high (utf8EncodeChar_high (Nat.not_le.mp ascii))]
      exact ⟨String.ofList [letter], (ofString_flatMap [letter]).trans (List.append_nil _)⟩

theorem isText_encodeText (text : String) : IsText (encodeText text) :=
  .cons (by decide) ((isText_escaped text).append (.cons (by decide) .nil))

mutual

theorem isText_encode : (value : Json) → IsText value.encode
  | .null => isText_ofString _
  | .bool true => isText_ofString _
  | .bool false => isText_ofString _
  | .int _ => isText_ofString _
  | .float _ => isText_ofString _
  | .str text => isText_encodeText text
  | .arr items =>
    .cons (by decide) ((isText_encodeItems items).append (.cons (by decide) .nil))
  | .obj fields =>
    .cons (by decide) ((isText_encodeFields fields).append (.cons (by decide) .nil))

theorem isText_encodeItems : (items : List Json) → IsText (encodeItems items)
  | [] => .nil
  | [item] => isText_encode item
  | item :: more :: rest =>
    (isText_encode item).append (.cons (by decide) (isText_encodeItems (more :: rest)))

theorem isText_encodeFields : (fields : List (String × Json)) → IsText (encodeFields fields)
  | [] => .nil
  | [(name, value)] => (isText_encodeText name).append (.cons (by decide) (isText_encode value))
  | (name, value) :: more :: rest =>
    ((isText_encodeText name).append (.cons (by decide) (isText_encode value))).append
      (.cons (by decide) (isText_encodeFields (more :: rest)))

end

theorem isText_lineBreak (level : Nat) : IsText (lineBreak level) := by
  refine .cons (by decide) (isText_of_ascii fun octet member => ?_)
  rw [List.eq_of_mem_replicate member]
  decide

mutual

theorem isText_encodeAtLevel (level : Nat) : (value : Json) → IsText (encodeAtLevel level value)
  | .null => isText_encode .null
  | .bool flag => isText_encode (.bool flag)
  | .int value => isText_encode (.int value)
  | .float value => isText_encode (.float value)
  | .str text => isText_encode (.str text)
  | .arr [] => isText_encode (.arr [])
  | .arr (item :: rest) =>
    (IsText.cons (by decide) ((isText_encodeItemLines (level + 1) (item :: rest)).append
      (isText_lineBreak level))).append (.cons (by decide) .nil)
  | .obj [] => isText_encode (.obj [])
  | .obj (field :: rest) =>
    (IsText.cons (by decide) ((isText_encodeFieldLines (level + 1) (field :: rest)).append
      (isText_lineBreak level))).append (.cons (by decide) .nil)

theorem isText_encodeItemLines (level : Nat) :
    (items : List Json) → IsText (encodeItemLines level items)
  | [] => .nil
  | [item] => (isText_lineBreak level).append (isText_encodeAtLevel level item)
  | item :: more :: rest =>
    ((isText_lineBreak level).append (isText_encodeAtLevel level item)).append
      (.cons (by decide) (isText_encodeItemLines level (more :: rest)))

theorem isText_encodeFieldLines (level : Nat) :
    (fields : List (String × Json)) → IsText (encodeFieldLines level fields)
  | [] => .nil
  | [(name, value)] =>
    ((isText_lineBreak level).append (isText_encodeText name)).append
      (.cons (by decide) (.cons (by decide) (isText_encodeAtLevel level value)))
  | (name, value) :: more :: rest =>
    (((isText_lineBreak level).append (isText_encodeText name)).append
      (.cons (by decide) (.cons (by decide) (isText_encodeAtLevel level value)))).append
        (.cons (by decide) (isText_encodeFieldLines level (more :: rest)))

end

end Json

end SchedulerLink
