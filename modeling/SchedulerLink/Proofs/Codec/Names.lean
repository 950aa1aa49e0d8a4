import Mathlib.Data.List.Induction
import SchedulerLink.Call.Message
import SchedulerLink.Proofs.Json.Number

/-!
Names of argument fields.

A field is named by the number of its place. The number is read from decimal digits, so a plus and
zeros in front change nothing, and a name is taken exactly if it spells the number of a place in
range.
-/

namespace SchedulerLink.Message

open Json

theorem toList_argumentName (place : Nat) :
    (argumentName place).toList = Nat.toDigits 10 (place + 1) :=
  Nat.toList_repr

/-! Digits and their number. -/

theorem digitChar_of_isDigit {letter : Char} (digit : letter.isDigit = true) :
    letter.toNat - 48 < 10 ∧ Nat.digitChar (letter.toNat - 48) = letter := by
  obtain ⟨low, high⟩ := Numeral.bounds_of_isDigit digit
  have all : ∀ value < 10, Nat.digitChar value = Char.ofNat (value + 48) := by decide
  refine ⟨by omega, ?_⟩
  rw [all _ (by omega), Nat.sub_add_cancel low, Char.ofNat_toNat]

theorem ofDigitChars_concat (digits : List Char) (letter : Char) :
    Nat.ofDigitChars 10 (digits ++ [letter]) 0 =
      10 * Nat.ofDigitChars 10 digits 0 + (letter.toNat - 48) :=
  Nat.ofDigitChars_append 0

/-- Decimal digits are zeros in front of the shortest spelling of their number, and nothing but
zeros if that is zero. -/
theorem digits_of_number {digits : List Char}
    (decimal : ∀ letter ∈ digits, letter.isDigit = true) :
    ∃ zeros, (Nat.ofDigitChars 10 digits 0 = 0 ∧ digits = List.replicate zeros '0') ∨
      (0 < Nat.ofDigitChars 10 digits 0 ∧ digits =
        List.replicate zeros '0' ++ Nat.toDigits 10 (Nat.ofDigitChars 10 digits 0)) := by
  induction digits using List.reverseRecOn with
  | nil => exact ⟨0, .inl ⟨rfl, rfl⟩⟩
  | append_singleton front letter ih =>
    obtain ⟨zeros, before⟩ := ih fun other member => decimal other (List.mem_append_left _ member)
    obtain ⟨small, written⟩ := digitChar_of_isDigit
      (decimal letter (List.mem_append_right _ (List.mem_singleton_self letter)))
    rw [ofDigitChars_concat]
    rcases before with ⟨zero, same⟩ | ⟨positive, same⟩
    · rw [zero, Nat.mul_zero, Nat.zero_add, same]
      rcases Nat.eq_zero_or_pos (letter.toNat - 48) with none | some
      · have letterZero : letter = '0' := by rw [← written, none]; rfl
        exact ⟨zeros + 1, .inl ⟨none, by rw [letterZero, List.replicate_succ']⟩⟩
      · exact ⟨zeros, .inr ⟨some, by rw [Nat.toDigits_of_lt_base small, written]⟩⟩
    · refine ⟨zeros, .inr ⟨by omega, ?_⟩⟩
      rw [← Nat.toDigits_append_toDigits (by decide) positive small,
        Nat.toDigits_of_lt_base small, written, ← List.append_assoc, ← same]

theorem ofDigitChars_spelled (zeros number : Nat) :
    Nat.ofDigitChars 10 (List.replicate zeros '0' ++ Nat.toDigits 10 number) 0 = number := by
  have skipped : Nat.ofDigitChars 10 (List.replicate zeros '0') 0 = 0 := by
    induction zeros with
    | zero => rfl
    | succ zeros ih => exact ih
  rw [Nat.ofDigitChars_append, skipped, Nat.ofDigitChars_ten_toDigits]

/-! Spellings of numbers. -/

def IsSign (sign : List Char) : Prop := sign = [] ∨ sign = ['+']

/-- A name spells the number of the argument at a place, perhaps with a plus and zeros in front. -/
def Spells (name : String) (place : Nat) : Prop :=
  ∃ sign zeros, IsSign sign ∧
    name.toList = sign ++ (List.replicate zeros '0' ++ Nat.toDigits 10 (place + 1))

theorem spells_argumentName (place : Nat) : Spells (argumentName place) place :=
  ⟨[], 0, .inl rfl, toList_argumentName place⟩

theorem isDigit_of_mem_spelled {zeros number : Nat} {letter : Char}
    (member : letter ∈ List.replicate zeros '0' ++ Nat.toDigits 10 number) :
    letter.isDigit = true := by
  rcases List.mem_append.mp member with zero | member
  · rw [List.eq_of_mem_replicate zero]
    rfl
  · exact Numeral.isDigit_of_mem member

theorem Spells.number {name : String} {place : Nat} (spelled : Spells name place) :
    Nat.ofDigitChars 10 (name.toList.filter Char.isDigit) 0 = place + 1 := by
  obtain ⟨sign, zeros, plain, text⟩ := spelled
  have unsigned : sign.filter Char.isDigit = [] := by rcases plain with rfl | rfl <;> rfl
  rw [text, List.filter_append, unsigned, List.nil_append,
    List.filter_eq_self.mpr fun _ => isDigit_of_mem_spelled, ofDigitChars_spelled]

theorem Spells.unique {name : String} {one other : Nat} (first : Spells name one)
    (second : Spells name other) : one = other :=
  Nat.succ.inj (first.number.symm.trans second.number)

theorem argumentName_injective {one other : Nat} (same : argumentName one = argumentName other) :
    one = other :=
  (spells_argumentName one).unique (same ▸ spells_argumentName other)

def numberOf? (digits : List Char) : Option Nat :=
  if digits.isEmpty || !digits.all Char.isDigit then none
  else if 0 < Nat.ofDigitChars 10 digits 0 ∧ Nat.ofDigitChars 10 digits 0 ≤ argumentLimit then
    some (Nat.ofDigitChars 10 digits 0)
  else none

theorem numberOf?_eq_some {digits : List Char} {number : Nat} :
    numberOf? digits = some number ↔
      (∀ letter ∈ digits, letter.isDigit = true) ∧ number = Nat.ofDigitChars 10 digits 0 ∧
        0 < number ∧ number ≤ argumentLimit := by
  unfold numberOf?
  constructor
  · intro taken
    split at taken
    · cases taken
    split at taken
    · rename_i decimal range
      cases taken
      simp only [Bool.or_eq_true, Bool.not_eq_true', not_or, Bool.not_eq_false,
        List.all_eq_true] at decimal
      exact ⟨decimal.2, rfl, range⟩
    · cases taken
  · rintro ⟨decimal, rfl, range⟩
    have nonempty : digits.isEmpty = false := by
      cases digits with
      | nil => exact absurd range.1 (Nat.lt_irrefl 0)
      | cons letter rest => rfl
    rw [nonempty, List.all_eq_true.mpr decimal, if_pos range]
    rfl

theorem argumentNumber?_signed {name : String} {digits : List Char}
    (text : name.toList = '+' :: digits) : argumentNumber? name = numberOf? digits := by
  unfold argumentNumber?
  rw [text]
  rfl

theorem argumentNumber?_unsigned {name : String}
    (plain : ∀ digits, name.toList ≠ '+' :: digits) :
    argumentNumber? name = numberOf? name.toList := by
  unfold argumentNumber?
  split
  · rename_i digits text
    exact absurd text (plain digits)
  · rfl

theorem argumentNumber?_eq_some_iff_digits {name : String} {number : Nat} :
    argumentNumber? name = some number ↔
      ∃ sign digits, IsSign sign ∧ name.toList = sign ++ digits ∧
        (∀ letter ∈ digits, letter.isDigit = true) ∧ number = Nat.ofDigitChars 10 digits 0 ∧
          0 < number ∧ number ≤ argumentLimit := by
  constructor
  · intro taken
    by_cases signed : ∃ digits, name.toList = '+' :: digits
    · obtain ⟨digits, text⟩ := signed
      rw [argumentNumber?_signed text] at taken
      exact ⟨['+'], digits, .inr rfl, text, numberOf?_eq_some.mp taken⟩
    · rw [argumentNumber?_unsigned (not_exists.mp signed)] at taken
      exact ⟨[], name.toList, .inl rfl, rfl, numberOf?_eq_some.mp taken⟩
  · rintro ⟨sign, digits, rfl | rfl, text, decimal, number⟩
    · have plain : ∀ rest, name.toList ≠ '+' :: rest := by
        intro rest signed
        have digit := decimal '+' (by rw [← List.nil_append digits, ← text, signed]; simp)
        cases digit
      rw [argumentNumber?_unsigned plain, text]
      exact numberOf?_eq_some.mpr ⟨decimal, number⟩
    · rw [argumentNumber?_signed text]
      exact numberOf?_eq_some.mpr ⟨decimal, number⟩

theorem argumentNumber?_eq_some {name : String} {number : Nat} :
    argumentNumber? name = some number ↔
      ∃ place < argumentLimit, number = place + 1 ∧ Spells name place := by
  rw [argumentNumber?_eq_some_iff_digits]
  constructor
  · rintro ⟨sign, digits, plain, text, decimal, rfl, positive, most⟩
    obtain ⟨zeros, ⟨zero, -⟩ | ⟨-, spelled⟩⟩ := digits_of_number decimal
    · omega
    · refine ⟨Nat.ofDigitChars 10 digits 0 - 1, by omega, by omega, sign, zeros, plain, ?_⟩
      rw [Nat.sub_add_cancel positive, ← spelled, text]
  · rintro ⟨place, small, rfl, sign, zeros, plain, text⟩
    exact ⟨sign, _, plain, text, fun _ => isDigit_of_mem_spelled,
      (ofDigitChars_spelled zeros (place + 1)).symm, Nat.succ_pos place, small⟩

/-! The greatest number. -/

structure Counts (fields : List (String × Json)) (count : Nat) : Prop where
  limited : count ≤ argumentLimit
  within : ∀ field ∈ fields, ∃ place < count, Spells field.1 place
  reached : ∀ place, count = place + 1 → ∃ field ∈ fields, Spells field.1 place

namespace Counts

theorem nil : Counts [] 0 :=
  ⟨Nat.zero_le _, nofun, nofun⟩

theorem cons {fields : List (String × Json)} {count place : Nat} (counts : Counts fields count)
    {name : String} (value : Json) (small : place < argumentLimit) (spelled : Spells name place) :
    Counts ((name, value) :: fields) (max (place + 1) count) where
  limited := max_le small counts.limited
  within field member := by
    rcases List.mem_cons.mp member with rfl | member
    · exact ⟨place, by omega, spelled⟩
    · obtain ⟨other, less, spelled⟩ := counts.within field member
      exact ⟨other, by omega, spelled⟩
  reached other greatest := by
    rcases le_total count (place + 1) with less | more
    · rw [max_eq_left less] at greatest
      cases greatest
      exact ⟨(name, value), List.mem_cons_self, spelled⟩
    · rw [max_eq_right more] at greatest
      obtain ⟨field, member, spelled⟩ := counts.reached other greatest
      exact ⟨field, List.mem_cons_of_mem _ member, spelled⟩

theorem le {fields : List (String × Json)} {count other : Nat} (counts : Counts fields count)
    (counted : Counts fields other) : count ≤ other := by
  cases count with
  | zero => exact Nat.zero_le other
  | succ place =>
    obtain ⟨field, member, spelled⟩ := counts.reached place rfl
    obtain ⟨same, less, spelledToo⟩ := counted.within field member
    rwa [spelled.unique spelledToo]

end Counts

theorem counts_of_argumentCount {fields : List (String × Json)} {count : Nat}
    (counted : argumentCount fields = .ok count) : Counts fields count := by
  induction fields generalizing count with
  | nil =>
    cases counted
    exact .nil
  | cons field rest ih =>
    obtain ⟨name, value⟩ := field
    rw [argumentCount] at counted
    split at counted
    · cases counted
    · rename_i number numbered
      obtain ⟨place, small, rfl, spelled⟩ := argumentNumber?_eq_some.mp numbered
      cases later : argumentCount rest with
      | error fault => rw [later] at counted; cases counted
      | ok most =>
        rw [later] at counted
        cases counted
        exact (ih later).cons value small spelled

theorem exists_argumentCount {fields : List (String × Json)}
    (spelled : ∀ field ∈ fields, ∃ place < argumentLimit, Spells field.1 place) :
    ∃ count, argumentCount fields = .ok count := by
  induction fields with
  | nil => exact ⟨0, rfl⟩
  | cons field rest ih =>
    obtain ⟨name, value⟩ := field
    obtain ⟨place, small, named⟩ := spelled _ List.mem_cons_self
    obtain ⟨count, counted⟩ := ih fun other member => spelled other (List.mem_cons_of_mem _ member)
    exact ⟨max (place + 1) count, by
      rw [argumentCount, argumentNumber?_eq_some.mpr ⟨place, small, rfl, named⟩, counted]
      rfl⟩

theorem argumentCount_eq_ok {fields : List (String × Json)} {count : Nat} :
    argumentCount fields = .ok count ↔ Counts fields count := by
  constructor
  · exact counts_of_argumentCount
  · intro counts
    have spelled : ∀ field ∈ fields, ∃ place < argumentLimit, Spells field.1 place := by
      intro field member
      obtain ⟨place, less, spelled⟩ := counts.within field member
      exact ⟨place, less.trans_le counts.limited, spelled⟩
    obtain ⟨other, counted⟩ := exists_argumentCount spelled
    have counted' := counts_of_argumentCount counted
    rw [counted, (counted'.le counts).antisymm (counts.le counted')]

end SchedulerLink.Message
