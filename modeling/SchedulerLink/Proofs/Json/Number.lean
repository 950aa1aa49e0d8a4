import Mathlib.Order.Nat
import SchedulerLink.Json.Printer
import SchedulerLink.Json.Reader

/-!
Integers that are written down read back.

Their digits are followed by something that cannot belong to a number, so the reader takes exactly
the digits that were written. None of them is dropped, because the integers that JSON values may
hold stay within the limit of a significand.
-/

namespace SchedulerLink

namespace Bytes

theorem ofString_ofList {letters : List Char} (ascii : ∀ letter ∈ letters, letter.toNat < 128) :
    ofString (String.ofList letters) = letters.map Char.toUInt8 := by
  rw [ofString, String.toByteArray_ofList, List.utf8Encode]
  simp only [List.data_toByteArray, List.toList_toArray]
  induction letters with
  | nil => rfl
  | cons letter rest ih =>
    have first : letter.val.toNat ≤ 127 := Nat.le_of_lt_succ (ascii letter List.mem_cons_self)
    rw [List.flatMap_cons, ih fun other member => ascii other (List.mem_cons_of_mem _ member)]
    simp only [String.utf8EncodeChar, if_pos first]
    rfl

theorem ofString_append (one other : String) :
    ofString (one ++ other) = ofString one ++ ofString other := by
  simp [ofString, String.toByteArray_append]

end Bytes

namespace Json

def Yields {α : Type} {input : Bytes} (reading : Reading α input) (value : α) (rest : Bytes) :
    Prop :=
  ∃ shorter, reading = .ok ⟨value, rest, shorter⟩

theorem Yields.within {α : Type} {suffix input : Bytes} {reading : Reading α suffix} {value : α}
    {rest : Bytes} (yields : Yields reading value rest)
    (inside : ∀ _ : Parsed α suffix, suffix.length ≤ input.length) :
    Yields ((reading.map fun parsed => parsed.within (inside parsed)) : Reading α input) value
      rest := by
  obtain ⟨shorter, rfl⟩ := yields
  exact ⟨_, rfl⟩

/-- A text that a number before it ends at. -/
def Stops (rest : Bytes) : Prop :=
  ∀ octet ∈ rest.head?,
    Ascii.digit? octet = none ∧ octet ≠ Ascii.dot ∧ octet ≠ Ascii.lowerE ∧ octet ≠ Ascii.upperE

theorem Stops.nil : Stops [] := by
  intro octet member
  cases member

theorem Stops.cons {octet : UInt8} (rest : Bytes) (digit : Ascii.digit? octet = none)
    (dot : octet ≠ Ascii.dot) (lower : octet ≠ Ascii.lowerE) (upper : octet ≠ Ascii.upperE) :
    Stops (octet :: rest) := by
  intro found member
  cases member
  exact ⟨digit, dot, lower, upper⟩

namespace Numeral

def digitValue (letter : Char) : Nat := letter.toNat - 48

def decimals (number : Nat) : List Nat := (Nat.toDigits 10 number).map digitValue

theorem isDigit_of_mem {number : Nat} {letter : Char} (member : letter ∈ Nat.toDigits 10 number) :
    letter.isDigit = true :=
  Nat.isDigit_of_mem_toDigits (by decide) (by decide) member

theorem bounds_of_isDigit {letter : Char} (digit : letter.isDigit = true) :
    48 ≤ letter.toNat ∧ letter.toNat ≤ 57 := by
  simpa [Char.isDigit, UInt32.le_iff_toNat_le] using digit

theorem digit?_toUInt8 {letter : Char} (digit : letter.isDigit = true) :
    Ascii.digit? letter.toUInt8 = some (digitValue letter) := by
  obtain ⟨low, high⟩ := bounds_of_isDigit digit
  have octet : letter.toUInt8.toNat = letter.toNat := by
    change letter.val.toNat % 256 = letter.val.toNat
    change letter.val.toNat ≤ 57 at high
    omega
  have range : Ascii.zero ≤ letter.toUInt8 ∧ letter.toUInt8 ≤ 0x39 := by
    rw [UInt8.le_iff_toNat_le, UInt8.le_iff_toNat_le, octet]
    exact ⟨low, high⟩
  rw [Ascii.digit?, if_pos range, octet]
  rfl

theorem ofString_toString (number : Nat) :
    Bytes.ofString (toString number) = (Nat.toDigits 10 number).map Char.toUInt8 := by
  change Bytes.ofString (String.ofList (Nat.toDigits 10 number)) = _
  apply Bytes.ofString_ofList
  intro letter member
  have high := (bounds_of_isDigit (isDigit_of_mem member)).2
  omega

theorem eq_zero_of_digitValue : ∀ digit < 10, digitValue (Nat.digitChar digit) = 0 → digit = 0 := by
  decide

theorem toDigits_ne_nil (number : Nat) : Nat.toDigits 10 number ≠ [] := by
  by_cases small : number < 10
  · rw [Nat.toDigits_of_lt_base small]
    exact List.cons_ne_nil _ _
  · rw [Nat.toDigits_of_base_le (by decide) (by omega)]
    exact List.append_ne_nil_of_right_ne_nil _ (List.cons_ne_nil _ _)

theorem eq_zero_of_head {number : Nat} {rest : List Nat} (zero : decimals number = 0 :: rest) :
    number = 0 := by
  induction number using Nat.strongRec generalizing rest with
  | _ number ih =>
    by_cases small : number < 10
    · rw [decimals, Nat.toDigits_of_lt_base small] at zero
      exact eq_zero_of_digitValue number small (List.cons.inj zero).1
    · rw [decimals, Nat.toDigits_of_base_le (by decide) (by omega), List.map_append] at zero
      have begins : ∃ more, decimals (number / 10) = 0 :: more := by
        cases digits : decimals (number / 10) with
        | nil => exact absurd (List.map_eq_nil_iff.mp digits) (toDigits_ne_nil _)
        | cons first more =>
          change decimals (number / 10) ++ _ = _ at zero
          rw [digits] at zero
          exact ⟨more, by rw [(List.cons.inj zero).1]⟩
      obtain ⟨more, begins⟩ := begins
      have small := ih (number / 10) (by omega) begins
      omega

theorem decimals_zero : decimals 0 = [0] := by decide

theorem decimals_shape (number : Nat) :
    decimals number = [0] ∨ ∃ first more, first ≠ 0 ∧ decimals number = first :: more := by
  cases digits : decimals number with
  | nil => exact absurd (List.map_eq_nil_iff.mp digits) (toDigits_ne_nil _)
  | cons first more =>
    by_cases zero : first = 0
    · subst zero
      have none := eq_zero_of_head digits
      subst none
      exact .inl (digits ▸ decimals_zero)
    · exact .inr ⟨first, more, zero, rfl⟩

theorem digits_stop {rest : Bytes} (stops : Stops rest) : digits rest = ([], rest) := by
  cases rest with
  | nil => rfl
  | cons octet rest =>
    obtain ⟨digit, -⟩ := stops octet rfl
    rw [digits, digit]

theorem digits_append {letters : List Char} (all : ∀ letter ∈ letters, letter.isDigit = true)
    {rest : Bytes} (stops : Stops rest) :
    digits (letters.map Char.toUInt8 ++ rest) = (letters.map digitValue, rest) := by
  induction letters with
  | nil => exact digits_stop stops
  | cons letter more ih =>
    have first := digit?_toUInt8 (all letter List.mem_cons_self)
    have later := ih fun other member => all other (List.mem_cons_of_mem _ member)
    simp only [List.map_cons, List.cons_append, digits, first, later]

theorem digits_ofString (number : Nat) {rest : Bytes} (stops : Stops rest) :
    digits (Bytes.ofString (toString number) ++ rest) = (decimals number, rest) := by
  rw [ofString_toString]
  exact digits_append (fun _ member => isDigit_of_mem member) stops

theorem wholeDigits_ofString (ended : Fault) (number : Nat) {rest : Bytes} (stops : Stops rest) :
    wholeDigits ended (Bytes.ofString (toString number) ++ rest) = .ok (decimals number, rest) := by
  have read := digits_ofString number stops
  rcases decimals_shape number with zero | ⟨first, more, positive, shape⟩
  · rw [zero] at read ⊢
    simp only [wholeDigits, someDigits, read]
  · rw [shape] at read ⊢
    simp only [wholeDigits, someDigits, read]
    split
    · rename_i same
      simp only [Except.ok.injEq, Prod.mk.injEq, List.cons.injEq] at same
      exact absurd same.1.1 positive
    · rfl

theorem fractionDigits_stop (ended : Fault) {rest : Bytes} (stops : Stops rest) :
    fractionDigits ended rest = .ok (none, rest) := by
  unfold fractionDigits
  split
  · obtain ⟨_, dot, _⟩ := stops _ rfl
    exact absurd rfl dot
  · rfl

theorem exponentDigits_stop (ended : Fault) {rest : Bytes} (stops : Stops rest) :
    exponentDigits ended rest = .ok (none, rest) := by
  unfold exponentDigits
  split
  · obtain ⟨_, _, lower, upper⟩ := stops _ rfl
    rw [if_neg (by rintro (same | same) <;> contradiction)]
  · rfl

theorem readUnsigned_parts {ended : Fault} {input afterWhole afterFraction rest : Bytes}
    {whole : List Nat} {fraction : Option (List Nat)} {exponent : Option (Bool × List Nat)}
    (first : wholeDigits ended input = .ok (whole, afterWhole))
    (second : fractionDigits ended afterWhole = .ok (fraction, afterFraction))
    (third : exponentDigits ended afterFraction = .ok (exponent, rest)) (negative : Bool) :
    Yields (readUnsigned ended negative input) ⟨negative, whole, fraction, exponent⟩ rest := by
  unfold readUnsigned
  split
  · rename_i fails
    rw [first] at fails
    cases fails
  rename_i reads
  rw [first] at reads
  cases reads
  split
  · rename_i fails
    rw [second] at fails
    cases fails
  rename_i reads
  rw [second] at reads
  cases reads
  split
  · rename_i fails
    rw [third] at fails
    cases fails
  rename_i reads
  rw [third] at reads
  cases reads
  exact ⟨_, rfl⟩

theorem readUnsigned_ofString (ended : Fault) (negative : Bool) (number : Nat) {rest : Bytes}
    (stops : Stops rest) :
    Yields (readUnsigned ended negative (Bytes.ofString (toString number) ++ rest))
      ⟨negative, decimals number, none, none⟩ rest :=
  readUnsigned_parts (wholeDigits_ofString ended number stops) (fractionDigits_stop ended stops)
    (exponentDigits_stop ended stops) negative

theorem accumulate_foldl (significand : Nat) (digits : List Nat)
    (bound : digits.foldl (fun value digit => 10 * value + digit) significand ≤ significandLimit) :
    accumulate significand digits =
      (digits.foldl (fun value digit => 10 * value + digit) significand, []) := by
  have grows : ∀ (start : Nat) (digits : List Nat),
      start ≤ digits.foldl (fun value digit => 10 * value + digit) start := by
    intro start digits
    induction digits generalizing start with
    | nil => exact Nat.le_refl start
    | cons digit rest ih =>
      have later := ih (10 * start + digit)
      rw [List.foldl_cons]
      omega
  induction digits generalizing significand with
  | nil => rfl
  | cons digit rest ih =>
    rw [List.foldl_cons] at bound ⊢
    have room : 10 * significand + digit ≤ significandLimit := (grows _ rest).trans bound
    rw [accumulate, if_pos room, ih _ bound]

theorem foldl_decimals (number : Nat) :
    (decimals number).foldl (fun value digit => 10 * value + digit) 0 = number := by
  rw [decimals, List.foldl_map]
  exact Nat.ofDigitChars_toDigits (by decide) (by decide)

theorem accumulate_decimals {number : Nat} (bound : number ≤ significandLimit) :
    accumulate 0 (decimals number) = (number, []) := by
  have whole := foldl_decimals number
  rw [accumulate_foldl 0 _ (whole.symm ▸ bound), whole]

theorem value_unsigned {number : Nat} (bound : number ≤ significandLimit) :
    value ⟨false, decimals number, none, none⟩ = .ok (.int number) := by
  simp [value, accumulate_decimals bound]

theorem value_negative {number : Nat} (positive : 0 < number)
    (bound : number ≤ 0x8000000000000000) :
    value ⟨true, decimals number, none, none⟩ = .ok (.int (-number)) := by
  have within : number ≤ significandLimit := bound.trans (by decide)
  simp [value, accumulate_decimals within, positive, bound]

end Numeral

theorem encodeInt_natural (number : Nat) :
    encodeInt number = Bytes.ofString (toString number) :=
  rfl

theorem encodeInt_negative {number : Nat} (positive : 0 < number) :
    encodeInt (-number) = Ascii.minus :: Bytes.ofString (toString number) := by
  cases number with
  | zero => cases positive
  | succ number =>
    change Bytes.ofString ("-" ++ toString (number + 1)) = _
    rw [Bytes.ofString_append]
    rfl

theorem Numeral.read_minus (ended : Fault) (rest : Bytes) :
    read ended (Ascii.minus :: rest) =
      (readUnsigned ended true rest).map fun parsed =>
        parsed.within (Bytes.length_le_cons Ascii.minus rest) :=
  rfl

theorem Numeral.read_unsigned (ended : Fault) {input : Bytes}
    (unsigned : ∀ rest, input ≠ Ascii.minus :: rest) :
    read ended input = readUnsigned ended false input := by
  unfold read
  split
  · exact absurd rfl (unsigned _)
  · rfl

theorem toString_ne_minus (number : Nat) (rest behind : Bytes) :
    Bytes.ofString (toString number) ++ rest ≠ Ascii.minus :: behind := by
  rw [Numeral.ofString_toString]
  cases digits : Nat.toDigits 10 number with
  | nil => exact absurd digits (Numeral.toDigits_ne_nil number)
  | cons letter more =>
    have member : letter ∈ Nat.toDigits 10 number := digits ▸ List.mem_cons_self
    have digit := Numeral.digit?_toUInt8 (Numeral.isDigit_of_mem member)
    intro same
    have minus : letter.toUInt8 = Ascii.minus := (List.cons.inj same).1
    rw [minus] at digit
    cases digit

theorem Numeral.read_encodeInt (ended : Fault) {integer : Int}
    (least : -0x8000000000000000 ≤ integer) (most : integer < 0x10000000000000000) {rest : Bytes}
    (stops : Stops rest) :
    ∃ numeral, Yields (read ended (encodeInt integer ++ rest)) numeral rest ∧
      numeral.value = .ok (.int integer) := by
  have natural : ∀ number : Nat, (number : Int) < 0x10000000000000000 →
      ∃ numeral, Yields (read ended (encodeInt number ++ rest)) numeral rest ∧
        numeral.value = .ok (.int number) := by
    intro number most
    have bound : number ≤ significandLimit := by
      rw [significandLimit]
      omega
    refine ⟨_, ?_, value_unsigned bound⟩
    rw [encodeInt_natural, read_unsigned ended (toString_ne_minus number rest)]
    exact readUnsigned_ofString ended false number stops
  rcases Int.eq_nat_or_neg integer with ⟨number, rfl | rfl⟩
  · exact natural number most
  · rcases Nat.eq_zero_or_pos number with rfl | positive
    · exact natural 0 (by decide)
    · refine ⟨_, ?_, value_negative positive (by omega)⟩
      rw [encodeInt_negative positive, List.cons_append, read_minus]
      exact (readUnsigned_ofString ended true number stops).within _

end Json

end SchedulerLink
