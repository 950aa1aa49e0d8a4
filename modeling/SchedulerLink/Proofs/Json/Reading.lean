import SchedulerLink.Proofs.Json.Fields
import SchedulerLink.Proofs.Json.Spelling

/-!
The readers of JSON text, each taken apart into the ways in which it succeeds.

Values without floats that are nested no deeper than the reader goes are portable: what one reader
of them finds, another one finds as well.
-/

namespace SchedulerLink.Json

open Ascii

theorem Yields.map {α β : Type} {suffix input : Bytes} {reading : Reading α suffix} {value : α}
    {rest : Bytes} (yields : Yields reading value rest) (view : α → β)
    (inside : ∀ parsed : Parsed α suffix, parsed.rest.length < input.length) :
    Yields (reading.map fun parsed =>
      (⟨view parsed.value, parsed.rest, inside parsed⟩ : Parsed β input)) (view value) rest := by
  obtain ⟨shorter, rfl⟩ := yields
  exact ⟨_, rfl⟩

/-! Scalars. -/

theorem skipBlank_cons {octet : UInt8} (visible : isBlank octet = false) (rest : Bytes) :
    skipBlank (octet :: rest) = octet :: rest := by
  rw [skipBlank, List.dropWhile_cons_of_neg (by simp [visible])]

theorem dropWord_append (word rest : Bytes) : dropWord word (word ++ rest) = .ok rest := by
  induction word with
  | nil => rfl
  | cons letter word ih => rw [List.cons_append, dropWord, if_pos rfl, ih]

theorem readWord_append {α : Type} (value : α) (word : Bytes) (letter : UInt8) (rest : Bytes) :
    Yields (readWord value word letter (word ++ rest)) value rest := by
  unfold readWord
  split
  · rename_i fails
    rw [dropWord_append] at fails
    cases fails
  · rename_i behind read
    rw [dropWord_append] at read
    cases read
    exact ⟨_, rfl⟩

def startsNumber (octet : UInt8) : Bool := octet = minus || isDigit octet

theorem readScalar_number {octet : UInt8} {behind rest : Bytes} {numeral : Numeral} {value : Json}
    (starts : startsNumber octet = true)
    (reads : Yields (Numeral.read .endInValue (octet :: behind)) numeral rest)
    (means : numeral.value = .ok value) : Yields (readScalar octet behind) value rest := by
  obtain ⟨shorter, reads⟩ := reads
  unfold readScalar
  split
  · cases starts
  · cases starts
  · cases starts
  · cases starts
  · have numeric : octet = minus ∨ isDigit octet = true := by
      simpa [startsNumber] using starts
    simp only [if_pos numeric, reads, means]
    exact ⟨_, rfl⟩

theorem encodeInt_eq_cons (value : Int) :
    ∃ octet behind, encodeInt value = octet :: behind ∧ startsNumber octet = true := by
  have natural : ∀ number : Nat, ∃ octet behind,
      encodeInt number = octet :: behind ∧ startsNumber octet = true := by
    intro number
    rw [encodeInt_natural, Numeral.ofString_toString]
    cases digits : Nat.toDigits 10 number with
    | nil => exact absurd digits (Numeral.toDigits_ne_nil number)
    | cons letter more =>
      have member : letter ∈ Nat.toDigits 10 number := digits ▸ List.mem_cons_self
      have digit := Numeral.digit?_toUInt8 (Numeral.isDigit_of_mem member)
      refine ⟨_, _, rfl, ?_⟩
      rw [startsNumber, isDigit, digit, Option.isSome_some, Bool.or_true]
  rcases Int.eq_nat_or_neg value with ⟨number, rfl | rfl⟩
  · exact natural number
  · rcases Nat.eq_zero_or_pos number with rfl | positive
    · exact natural 0
    · exact ⟨_, _, encodeInt_negative positive, rfl⟩

theorem ne_of_startsNumber {octet other : UInt8} (starts : startsNumber octet = true)
    (different : startsNumber other = false) : octet ≠ other := by
  rintro rfl
  rw [starts] at different
  cases different

theorem isBlank_of_startsNumber {octet : UInt8} (starts : startsNumber octet = true) :
    isBlank octet = false := by
  rw [← Bool.not_eq_true]
  intro blank
  simp only [isBlank, Bool.or_eq_true, decide_eq_true_eq] at blank
  rcases blank with ((rfl | rfl) | rfl) | rfl
  all_goals
    cases starts

/-! Arrays. -/

section Arrays

variable {α : Type} {readItem : (input : Bytes) → Reading α input}
  {input afterItem afterComma behind rest : Bytes} {item : α} {items : List α} {octet : UInt8}

theorem readItems_last (reads : Yields (readItem input) item afterItem)
    (closed : skipBlank afterItem = closeBracket :: rest) :
    Yields (readItems readItem input) [item] rest := by
  obtain ⟨_, reads⟩ := reads
  rw [readItems]
  simp only [reads]
  split
  · rename_i blank
    rw [closed] at blank
    cases blank
  · rename_i blank
    rw [closed] at blank
    cases blank
    exact ⟨_, rfl⟩
  · rename_i blank
    rw [closed] at blank
    cases blank
  · rename_i other _
    exact absurd closed (other _)

theorem readItems_more (reads : Yields (readItem input) item afterItem)
    (separated : skipBlank afterItem = comma :: afterComma)
    (begins : skipBlank afterComma = octet :: behind) (unclosed : octet ≠ closeBracket)
    (later : Yields (readItems readItem (octet :: behind)) items rest) :
    Yields (readItems readItem input) (item :: items) rest := by
  obtain ⟨_, reads⟩ := reads
  obtain ⟨_, later⟩ := later
  rw [readItems]
  simp only [reads]
  split
  · rename_i blank
    rw [separated] at blank
    cases blank
  · rename_i blank
    rw [separated] at blank
    cases blank
  · rename_i blank
    rw [separated] at blank
    cases blank
    split
    · rename_i next
      rw [begins] at next
      cases next
    · rename_i next
      rw [begins] at next
      cases next
      exact absurd rfl unclosed
    · rename_i next
      rw [begins] at next
      cases next
      simp only [later]
      exact ⟨_, rfl⟩
  · rename_i _ other
    exact absurd separated (other _)

theorem readArray_empty (readItem : (input : Bytes) → Reading α input)
    (closed : skipBlank input = closeBracket :: rest) :
    Yields (readArray readItem input) [] rest := by
  unfold readArray
  split
  · rename_i blank
    rw [closed] at blank
    cases blank
  · rename_i blank
    rw [closed] at blank
    cases blank
    exact ⟨_, rfl⟩
  · rename_i other blank
    rw [closed] at blank
    cases blank
    exact absurd rfl other

theorem readArray_items (begins : skipBlank input = octet :: behind)
    (unclosed : octet ≠ closeBracket)
    (reads : Yields (readItems readItem (octet :: behind)) items rest) :
    Yields (readArray readItem input) items rest := by
  unfold readArray
  split
  · rename_i blank
    rw [begins] at blank
    cases blank
  · rename_i blank
    rw [begins] at blank
    cases blank
    exact absurd rfl unclosed
  · rename_i blank
    rw [begins] at blank
    cases blank
    exact reads.within _

end Arrays

/-! Objects. -/

section Objects

variable {τ : Type} {readField : τ → String → (input : Bytes) → Reading τ input}
  {held next last : τ} {name : String} {input afterName behind afterValue rest : Bytes}

theorem dropColon_of_skipBlank (parted : skipBlank afterName = colon :: behind) :
    ∃ passed, dropColon afterName = .ok ⟨behind, passed⟩ := by
  unfold dropColon
  split
  · rename_i blank
    rw [parted] at blank
    cases blank
  · rename_i blank
    rw [parted] at blank
    cases blank
    exact ⟨Nat.lt_of_lt_of_le (Bytes.length_lt_cons _ _) (parted ▸ length_skipBlank_le _), rfl⟩
  · rename_i other
    exact absurd parted (other _)

theorem readFields_last (named : Yields (Text.read input) name afterName)
    (parted : skipBlank afterName = colon :: behind)
    (valued : Yields (readField held name behind) last afterValue)
    (closed : skipBlank afterValue = closeBrace :: rest) :
    Yields (readFields readField held input) last rest := by
  obtain ⟨_, named⟩ := named
  obtain ⟨_, passed⟩ := dropColon_of_skipBlank parted
  obtain ⟨_, valued⟩ := valued
  rw [readFields]
  simp only [named, passed, valued]
  split
  · rename_i blank
    rw [closed] at blank
    cases blank
  · rename_i blank
    rw [closed] at blank
    cases blank
    exact ⟨_, rfl⟩
  · rename_i blank
    rw [closed] at blank
    cases blank
  · rename_i other _
    exact absurd closed (other _)

theorem readFields_more {more afterComma : Bytes} (named : Yields (Text.read input) name afterName)
    (parted : skipBlank afterName = colon :: behind)
    (valued : Yields (readField held name behind) next afterValue)
    (separated : skipBlank afterValue = comma :: afterComma)
    (quoted : skipBlank afterComma = quote :: more)
    (later : Yields (readFields readField next more) last rest) :
    Yields (readFields readField held input) last rest := by
  obtain ⟨_, named⟩ := named
  obtain ⟨_, passed⟩ := dropColon_of_skipBlank parted
  obtain ⟨_, valued⟩ := valued
  obtain ⟨_, later⟩ := later
  rw [readFields]
  simp only [named, passed, valued]
  split
  · rename_i blank
    rw [separated] at blank
    cases blank
  · rename_i blank
    rw [separated] at blank
    cases blank
  · rename_i blank
    rw [separated] at blank
    cases blank
    split
    · rename_i next
      rw [quoted] at next
      cases next
    · rename_i next
      rw [quoted] at next
      cases next
      simp only [later]
      exact ⟨_, rfl⟩
    · rename_i next
      rw [quoted] at next
      cases next
    · rename_i other _
      exact absurd quoted (other _)
  · rename_i _ other
    exact absurd separated (other _)

theorem readObject_empty (readField : τ → String → (input : Bytes) → Reading τ input) (held : τ)
    (closed : skipBlank input = closeBrace :: rest) :
    Yields (readObject readField held input) held rest := by
  unfold readObject
  split
  · rename_i blank
    rw [closed] at blank
    cases blank
  · rename_i blank
    rw [closed] at blank
    cases blank
    exact ⟨_, rfl⟩
  · rename_i blank
    rw [closed] at blank
    cases blank
  · rename_i other _
    exact absurd closed (other _)

theorem readObject_fields (quoted : skipBlank input = quote :: behind)
    (reads : Yields (readFields readField held behind) last rest) :
    Yields (readObject readField held input) last rest := by
  unfold readObject
  split
  · rename_i blank
    rw [quoted] at blank
    cases blank
  · rename_i blank
    rw [quoted] at blank
    cases blank
  · rename_i blank
    rw [quoted] at blank
    cases blank
    exact reads.within _
  · rename_i _ other
    exact absurd quoted (other _)

end Objects

/-! Values. -/

section Values

variable {depth : Nat} {input behind rest : Bytes}

theorem readValue_scalar {octet : UInt8} {value : Json}
    (begins : skipBlank input = octet :: behind) (noArray : octet ≠ openBracket)
    (noObject : octet ≠ openBrace) (reads : Yields (readScalar octet behind) value rest) :
    Yields (readValue depth input) value rest := by
  unfold readValue
  split
  · rename_i blank
    rw [begins] at blank
    cases blank
  · rename_i blank
    rw [begins] at blank
    cases blank
    simp only [if_neg noArray, if_neg noObject]
    exact reads.within _

theorem readValue_array {items : List Json} (begins : skipBlank input = openBracket :: behind)
    (reads : Yields (readArray (readValue depth) behind) items rest) :
    Yields (readValue (depth + 1) input) (.arr items) rest := by
  obtain ⟨_, reads⟩ := reads
  rw [readValue]
  split
  · rename_i blank
    rw [begins] at blank
    cases blank
  · rename_i blank
    rw [begins] at blank
    cases blank
    simp only [↓reduceIte, reads]
    exact ⟨_, rfl⟩

def readMember (depth : Nat) (held : List (String × Json)) (name : String) (input : Bytes) :
    Reading (List (String × Json)) input :=
  (readValue depth input).map fun parsed =>
    ⟨insertField name parsed.value held, parsed.rest, parsed.shorter⟩

theorem readValue_object {fields : List (String × Json)}
    (begins : skipBlank input = openBrace :: behind)
    (reads : Yields (readObject (readMember depth) [] behind) fields rest) :
    Yields (readValue (depth + 1) input) (.obj fields) rest := by
  obtain ⟨_, reads⟩ := reads
  unfold readMember at reads
  have other : openBrace ≠ openBracket := by decide
  rw [readValue]
  split
  · rename_i blank
    rw [begins] at blank
    cases blank
  · rename_i blank
    rw [begins] at blank
    cases blank
    simp only [if_neg other, ↓reduceIte, reads]
    exact ⟨_, rfl⟩

end Values

/-! What can be written and read back. -/

mutual

def isFloatless : Json → Bool
  | .float _ => false
  | .arr items => areFloatless items
  | .obj fields => haveFloatless fields
  | _ => true

def areFloatless : List Json → Bool
  | [] => true
  | item :: rest => isFloatless item && areFloatless rest

def haveFloatless : List (String × Json) → Bool
  | [] => true
  | (_, value) :: rest => isFloatless value && haveFloatless rest

end

/-- A value without floats that is nested at most so many levels deep. -/
structure Portable (levels : Nat) (value : Json) : Prop where
  wellFormed : value.WellFormed
  floatless : value.isFloatless = true
  shallow : value.depth ≤ levels

theorem wellFormedItems_iff {items : List Json} :
    WellFormedItems items ↔ ∀ item ∈ items, item.WellFormed := by
  induction items with
  | nil => exact iff_of_true WellFormedItems.nil (List.forall_mem_nil _)
  | cons item rest ih =>
    rw [List.forall_mem_cons, ← ih]
    constructor
    · intro all
      cases all with
      | cons first others => exact ⟨first, others⟩
    · rintro ⟨first, others⟩
      exact WellFormedItems.cons first others

theorem wellFormedFields_iff {fields : List (String × Json)} :
    WellFormedFields fields ↔ ∀ field ∈ fields, field.2.WellFormed := by
  induction fields with
  | nil => exact iff_of_true WellFormedFields.nil (List.forall_mem_nil _)
  | cons field rest ih =>
    rw [List.forall_mem_cons, ← ih]
    constructor
    · intro all
      cases all with
      | cons first others => exact ⟨first, others⟩
    · rintro ⟨first, others⟩
      exact WellFormedFields.cons first others

theorem areFloatless_iff {items : List Json} :
    areFloatless items = true ↔ ∀ item ∈ items, item.isFloatless = true := by
  induction items with
  | nil => simp [areFloatless]
  | cons item rest ih => rw [areFloatless, Bool.and_eq_true, ih, List.forall_mem_cons]

theorem haveFloatless_iff {fields : List (String × Json)} :
    haveFloatless fields = true ↔ ∀ field ∈ fields, field.2.isFloatless = true := by
  induction fields with
  | nil => simp [haveFloatless]
  | cons field rest ih => rw [haveFloatless, Bool.and_eq_true, ih, List.forall_mem_cons]

theorem depthItems_le_iff {items : List Json} {levels : Nat} :
    depthItems items ≤ levels ↔ ∀ item ∈ items, item.depth ≤ levels := by
  induction items with
  | nil => simp [depthItems]
  | cons item rest ih => rw [depthItems, max_le_iff, ih, List.forall_mem_cons]

theorem depthFields_le_iff {fields : List (String × Json)} {levels : Nat} :
    depthFields fields ≤ levels ↔ ∀ field ∈ fields, field.2.depth ≤ levels := by
  induction fields with
  | nil => simp [depthFields]
  | cons field rest ih => rw [depthFields, max_le_iff, ih, List.forall_mem_cons]

namespace Portable

variable {levels : Nat}

theorem mono {value : Json} {more : Nat} (portable : Portable levels value)
    (least : levels ≤ more) : Portable more value :=
  ⟨portable.wellFormed, portable.floatless, portable.shallow.trans least⟩

theorem null : Portable levels .null := ⟨.null, rfl, Nat.zero_le _⟩

theorem str (text : String) : Portable levels (.str text) := ⟨.str text, rfl, Nat.zero_le _⟩

theorem int {value : Int} (least : -0x8000000000000000 ≤ value)
    (most : value < 0x10000000000000000) : Portable levels (.int value) :=
  ⟨.int least most, rfl, Nat.zero_le _⟩

theorem arr_iff {items : List Json} :
    Portable (levels + 1) (.arr items) ↔ ∀ item ∈ items, Portable levels item := by
  constructor
  · rintro ⟨wellFormed, floatless, shallow⟩ item member
    cases wellFormed with
    | arr all =>
      exact ⟨wellFormedItems_iff.mp all item member, areFloatless_iff.mp floatless item member,
        depthItems_le_iff.mp (Nat.le_of_succ_le_succ shallow) item member⟩
  · intro all
    exact ⟨.arr (wellFormedItems_iff.mpr fun item member => (all item member).wellFormed),
      areFloatless_iff.mpr fun item member => (all item member).floatless,
      Nat.succ_le_succ (depthItems_le_iff.mpr fun item member => (all item member).shallow)⟩

theorem obj_iff {fields : List (String × Json)} :
    Portable (levels + 1) (.obj fields) ↔
      InOrder fields ∧ ∀ field ∈ fields, Portable levels field.2 := by
  constructor
  · rintro ⟨wellFormed, floatless, shallow⟩
    cases wellFormed with
    | obj sorted all =>
      refine ⟨sorted, fun field member => ?_⟩
      exact ⟨wellFormedFields_iff.mp all field member, haveFloatless_iff.mp floatless field member,
        depthFields_le_iff.mp (Nat.le_of_succ_le_succ shallow) field member⟩
  · rintro ⟨sorted, all⟩
    exact ⟨.obj sorted (wellFormedFields_iff.mpr fun field member => (all field member).wellFormed),
      haveFloatless_iff.mpr fun field member => (all field member).floatless,
      Nat.succ_le_succ (depthFields_le_iff.mpr fun field member => (all field member).shallow)⟩

theorem single {name : String} {value : Json} (portable : Portable levels value) :
    Portable (levels + 1) (.single name value) := by
  refine obj_iff.mpr ⟨List.pairwise_singleton _ _, fun field member => ?_⟩
  rw [List.mem_singleton] at member
  subst member
  exact portable

end Portable

/-! Ends of numbers. -/

theorem stops_comma (rest : Bytes) : Stops (comma :: rest) :=
  .cons rest rfl (by decide) (by decide) (by decide)

theorem stops_closeBracket (rest : Bytes) : Stops (closeBracket :: rest) :=
  .cons rest rfl (by decide) (by decide) (by decide)

theorem stops_closeBrace (rest : Bytes) : Stops (closeBrace :: rest) :=
  .cons rest rfl (by decide) (by decide) (by decide)

end SchedulerLink.Json
