import SchedulerLink.Json.Skip
import SchedulerLink.Proofs.Json.RoundTrip

/-!
Passing over values that nobody asks for.

`ValueText` is the grammar of a JSON text. Whatever value it derives, to any depth, is passed over,
and what is behind it is met unchanged.
-/

namespace SchedulerLink.Json

open Ascii

/-! Strings. -/

inductive StringText : Bytes → Prop where
  | nil : StringText []
  | plain {octet : UInt8} {text : Bytes} (unquoted : octet ≠ quote) (unescaped : octet ≠ backslash)
    (visible : ¬ octet < 0x20) (later : StringText text) : StringText (octet :: text)
  | short {letter octet : UInt8} {text : Bytes} (escape : (letter, octet) ∈ shortEscapes)
    (later : StringText text) : StringText (backslash :: letter :: text)
  | code {digits text : Bytes} {code : Nat} (quad : Quad digits code) (later : StringText text) :
    StringText (backslash :: lowerU :: (digits ++ text))

namespace Text

theorem skipEscape_short {letter octet : UInt8} (escape : (letter, octet) ∈ shortEscapes)
    (rest : Bytes) : Yields (skipEscape (letter :: rest)) () rest := by
  simp only [shortEscapes, List.mem_cons, Prod.mk.injEq, List.not_mem_nil, or_false] at escape
  rcases escape with ⟨rfl, rfl⟩ | ⟨rfl, rfl⟩ | ⟨rfl, rfl⟩ | ⟨rfl, rfl⟩ | ⟨rfl, rfl⟩ | ⟨rfl, rfl⟩ |
    ⟨rfl, rfl⟩ | ⟨rfl, rfl⟩
  all_goals
    exact ⟨Bytes.length_lt_cons _ _, rfl⟩

theorem skipEscape_code {digits : Bytes} {code : Nat} (quad : Quad digits code) (rest : Bytes) :
    Yields (skipEscape (lowerU :: (digits ++ rest))) () rest :=
  (hexQuad_append quad rest).map (fun _ => ()) fun parsed =>
    Nat.lt_trans parsed.shorter (Bytes.length_lt_cons _ _)

theorem skip_escaped {escaped behind rest : Bytes} (escapes : Yields (skipEscape escaped) () behind)
    (later : Yields (skip behind) () rest) : Yields (skip (backslash :: escaped)) () rest := by
  obtain ⟨shorter, escapes⟩ := escapes
  obtain ⟨more, later⟩ := later
  have step := skip.eq_3 escaped
  simp only [escapes, later] at step
  exact ⟨_, step⟩

theorem skip_text {text : Bytes} (string : StringText text) (rest : Bytes) :
    Yields (skip (text ++ quote :: rest)) () rest := by
  induction string with
  | nil => exact ⟨_, skip.eq_2 rest⟩
  | plain unquoted unescaped visible _ ih =>
    obtain ⟨more, later⟩ := ih
    rw [List.cons_append, skip]
    · simp only [if_neg visible, later]
      exact ⟨_, rfl⟩
    · exact fun same => unquoted same
    · exact fun same => unescaped same
  | short escape _ ih => exact skip_escaped (skipEscape_short escape _) ih
  | @code _ text _ quad _ ih =>
    have escapes := skipEscape_code quad (text ++ quote :: rest)
    rw [List.cons_append, List.cons_append, List.append_assoc]
    exact skip_escaped escapes ih

end Text

/-! Numbers. -/

inductive DigitsText : Bytes → Prop where
  | digits {first : UInt8} {more : Bytes} (digit : isDigit first = true)
    (all : ∀ octet ∈ more, isDigit octet = true) : DigitsText (first :: more)

inductive WholeText : Bytes → Prop where
  | zero : WholeText [zero]
  | digits {first : UInt8} {more : Bytes} (digit : isDigit first = true) (positive : first ≠ zero)
    (all : ∀ octet ∈ more, isDigit octet = true) : WholeText (first :: more)

theorem WholeText.begins {text : Bytes} (whole : WholeText text) :
    ∃ octet more, text = octet :: more ∧ isDigit octet = true := by
  cases whole with
  | zero => exact ⟨_, [], rfl, rfl⟩
  | digits digit _ _ => exact ⟨_, _, rfl, digit⟩

inductive FractionText : Bytes → Prop where
  | none : FractionText []
  | digits {text : Bytes} (digits : DigitsText text) : FractionText (dot :: text)

inductive ExponentText : Bytes → Prop where
  | none : ExponentText []
  | digits {letter : UInt8} {sign text : Bytes} (marks : letter = lowerE ∨ letter = upperE)
    (signed : sign = [] ∨ sign = [plus] ∨ sign = [minus]) (digits : DigitsText text) :
    ExponentText (letter :: (sign ++ text))

inductive NumberText : Bytes → Prop where
  | parts {sign whole fraction exponent : Bytes} (signed : sign = [] ∨ sign = [minus])
    (first : WholeText whole) (second : FractionText fraction) (third : ExponentText exponent) :
    NumberText (sign ++ (whole ++ (fraction ++ exponent)))

namespace Numeral

theorem digits_all {text rest : Bytes} (all : ∀ octet ∈ text, isDigit octet = true)
    (ends : ∀ octet ∈ rest.head?, digit? octet = none) :
    digits (text ++ rest) = (text.filterMap digit?, rest) := by
  induction text with
  | nil =>
    cases rest with
    | nil => rfl
    | cons octet rest => simp only [List.nil_append, digits, ends octet rfl, List.filterMap_nil]
  | cons octet more ih =>
    obtain ⟨digit, others⟩ := List.forall_mem_cons.mp all
    obtain ⟨value, means⟩ := Option.isSome_iff_exists.mp digit
    simp only [List.cons_append, digits, means, ih others, List.filterMap_cons]

theorem someDigits_text (ended : Fault) {text rest : Bytes} (row : DigitsText text)
    (ends : ∀ octet ∈ rest.head?, digit? octet = none) :
    ∃ found, someDigits ended (text ++ rest) = .ok (found, rest) := by
  cases row with
  | @digits first more digit all =>
    obtain ⟨value, means⟩ := Option.isSome_iff_exists.mp digit
    have reads := digits_all (List.forall_mem_cons.mpr ⟨digit, all⟩) ends
    rw [List.filterMap_cons, means] at reads
    exact ⟨value :: more.filterMap digit?, by simp only [someDigits, reads]⟩

theorem eq_zero_of_digit? {octet : UInt8} (none : digit? octet = some 0) : octet = zero := by
  unfold digit? at none
  split at none
  · rename_i range
    have low := UInt8.le_iff_toNat_le.mp range.1
    have least : zero.toNat = 48 := rfl
    apply UInt8.toNat_inj.mp
    have value := Option.some.inj none
    omega
  · cases none

theorem wholeDigits_text (ended : Fault) {text rest : Bytes} (whole : WholeText text)
    (ends : ∀ octet ∈ rest.head?, digit? octet = none) :
    ∃ found, wholeDigits ended (text ++ rest) = .ok (found, rest) := by
  cases whole with
  | zero =>
    have reads : digits ([zero] ++ rest) = ([zero].filterMap digit?, rest) :=
      digits_all (List.forall_mem_singleton.mpr rfl) ends
    exact ⟨[0], by simp only [wholeDigits, someDigits, reads]; rfl⟩
  | @digits first more digit positive all =>
    obtain ⟨value, means⟩ := Option.isSome_iff_exists.mp digit
    have reads := digits_all (List.forall_mem_cons.mpr ⟨digit, all⟩) ends
    rw [List.filterMap_cons, means] at reads
    refine ⟨value :: more.filterMap digit?, ?_⟩
    simp only [wholeDigits, someDigits, reads]
    split
    · rename_i same
      simp only [Except.ok.injEq, Prod.mk.injEq, List.cons.injEq] at same
      rw [same.1.1] at means
      exact absurd (eq_zero_of_digit? means) positive
    · rfl

theorem fractionDigits_text (ended : Fault) {text rest : Bytes} (fraction : FractionText text)
    (ends : ∀ octet ∈ rest.head?, digit? octet = none ∧ octet ≠ dot) :
    ∃ found, fractionDigits ended (text ++ rest) = .ok (found, rest) := by
  cases fraction with
  | none =>
    refine ⟨none, ?_⟩
    rw [List.nil_append]
    unfold fractionDigits
    split
    · exact absurd rfl (ends _ rfl).2
    · rfl
  | @digits text row =>
    obtain ⟨found, reads⟩ := someDigits_text ended row fun octet member => (ends octet member).1
    have step : fractionDigits ended (dot :: (text ++ rest)) =
        (someDigits ended (text ++ rest)).map fun found => (some found.1, found.2) := rfl
    rw [reads] at step
    exact ⟨some found, step⟩

theorem exponentSign_text {sign text rest : Bytes}
    (signed : sign = [] ∨ sign = [plus] ∨ sign = [minus]) (row : DigitsText text) :
    (exponentSign ((sign ++ text) ++ rest)).2 = text ++ rest := by
  rcases signed with rfl | rfl | rfl
  · cases row with
    | digits digit _ =>
      rw [List.nil_append, List.cons_append]
      unfold exponentSign
      split
      · rename_i same
        rw [(List.cons.inj same).1] at digit
        cases digit
      · rename_i same
        rw [(List.cons.inj same).1] at digit
        cases digit
      · rfl
  · rfl
  · rfl

theorem exponentDigits_text (ended : Fault) {text rest : Bytes} (exponent : ExponentText text)
    (stops : Stops rest) : ∃ found, exponentDigits ended (text ++ rest) = .ok (found, rest) := by
  cases exponent with
  | none => exact ⟨none, exponentDigits_stop ended stops⟩
  | @digits letter sign text marks signed digits =>
    obtain ⟨found, reads⟩ := someDigits_text ended digits fun octet member => (stops octet member).1
    rw [List.cons_append, exponentDigits, if_pos marks]
    simp only [exponentSign_text signed digits, reads]
    exact ⟨_, rfl⟩

theorem ends_exponent {exponent rest : Bytes} (third : ExponentText exponent) (stops : Stops rest) :
    ∀ octet ∈ (exponent ++ rest).head?, digit? octet = none ∧ octet ≠ dot := by
  intro octet member
  cases third with
  | none => exact ⟨(stops octet member).1, (stops octet member).2.1⟩
  | digits marks _ _ =>
    cases member
    rcases marks with rfl | rfl <;> exact ⟨rfl, by decide⟩

theorem ends_fraction {fraction exponent rest : Bytes} (second : FractionText fraction)
    (third : ExponentText exponent) (stops : Stops rest) :
    ∀ octet ∈ (fraction ++ (exponent ++ rest)).head?, digit? octet = none := by
  intro octet member
  cases second with
  | none => exact (ends_exponent third stops octet member).1
  | digits _ =>
    cases member
    rfl

theorem read_text (ended : Fault) {text rest : Bytes} (number : NumberText text)
    (stops : Stops rest) : ∃ numeral, Yields (read ended (text ++ rest)) numeral rest := by
  cases number with
  | @parts sign whole fraction exponent signed first second third =>
    obtain ⟨digits, one⟩ := wholeDigits_text ended first (ends_fraction second third stops)
    obtain ⟨behind, two⟩ := fractionDigits_text ended second (ends_exponent third stops)
    obtain ⟨power, three⟩ := exponentDigits_text ended third stops
    have grouped : (sign ++ (whole ++ (fraction ++ exponent))) ++ rest =
        sign ++ (whole ++ (fraction ++ (exponent ++ rest))) := by
      simp only [List.append_assoc]
    rw [grouped]
    rcases signed with rfl | rfl
    · obtain ⟨octet, more, rfl, digit⟩ := first.begins
      rw [List.nil_append, read_unsigned]
      · exact ⟨_, readUnsigned_parts one two three false⟩
      · intro behind same
        rw [(List.cons.inj same).1] at digit
        cases digit
    · rw [List.cons_append, read_minus]
      exact ⟨_, (readUnsigned_parts one two three true).within _⟩

end Numeral

theorem NumberText.begins {text : Bytes} (number : NumberText text) :
    ∃ octet more, text = octet :: more ∧ startsNumber octet = true := by
  cases number with
  | parts signed first _ _ =>
    rcases signed with rfl | rfl
    · obtain ⟨octet, more, rfl, digit⟩ := first.begins
      exact ⟨octet, _, rfl, by rw [startsNumber, digit, Bool.or_true]⟩
    · exact ⟨minus, _, rfl, rfl⟩

/-! Values. -/

/-- The text of a value, without blanks around it. -/
inductive ValueText : Bytes → Prop where
  | word {word : String} (known : word ∈ ["null", "true", "false"]) :
    ValueText (Bytes.ofString word)
  | number {text : Bytes} (number : NumberText text) : ValueText text
  | string {text : Bytes} (string : StringText text) : ValueText (quote :: (text ++ [quote]))
  | array {items : List Bytes} {text : Bytes}
    (enclosed : Enclosed openBracket closeBracket items text)
    (values : ∀ item ∈ items, ValueText item) : ValueText text
  | object {fields : List FieldText} {text : Bytes}
    (enclosed : Enclosed openBrace closeBrace (fields.map FieldText.text) text)
    (names : ∀ field ∈ fields, StringText field.name)
    (before : ∀ field ∈ fields, Blank field.before) (after : ∀ field ∈ fields, Blank field.after)
    (values : ∀ field ∈ fields, ValueText field.value) : ValueText text

theorem ValueText.begins {text : Bytes} (value : ValueText text) : Begins closeBracket text := by
  cases value with
  | word known =>
    rcases List.mem_cons.mp known with rfl | known
    · exact ⟨lowerN, nullTail, rfl, rfl, by decide⟩
    rcases List.mem_pair.mp known with rfl | rfl
    · exact ⟨lowerT, trueTail, rfl, rfl, by decide⟩
    · exact ⟨lowerF, falseTail, rfl, rfl, by decide⟩
  | number number =>
    obtain ⟨octet, more, rfl, starts⟩ := number.begins
    exact ⟨octet, more, rfl, isBlank_of_startsNumber starts, ne_of_startsNumber starts rfl⟩
  | string _ => exact ⟨quote, _, rfl, rfl, by decide⟩
  | array enclosed _ => cases enclosed <;> exact ⟨openBracket, _, rfl, rfl, by decide⟩
  | object enclosed _ _ _ _ =>
    generalize List.map _ _ = items at enclosed
    cases enclosed <;> exact ⟨openBrace, _, rfl, rfl, by decide⟩

def Leaves {bound : Bytes → Prop} (passed : Except Fault {rest : Bytes // bound rest})
    (rest : Bytes) : Prop :=
  ∃ within, passed = .ok ⟨rest, within⟩

theorem Leaves.map {bound other : Bytes → Prop} {passed : Except Fault {rest : Bytes // bound rest}}
    {rest : Bytes} (leaves : Leaves passed rest)
    (view : {rest : Bytes // bound rest} → {rest : Bytes // other rest})
    (same : ∀ found, (view found).val = found.val) : Leaves (passed.map view) rest := by
  obtain ⟨within, rfl⟩ := leaves
  have viewed : (view ⟨rest, within⟩).val = rest := same _
  have bounded := (view ⟨rest, within⟩).property
  rw [viewed] at bounded
  exact ⟨bounded, congrArg Except.ok (Subtype.ext viewed)⟩

section Steps

variable {frames outer : List Frame} {input inner more behind rest : Bytes} {letter octet : UInt8}

theorem skipWithin_scalar (begins : skipBlank input = letter :: inner)
    (noArray : letter ≠ openBracket) (noObject : letter ≠ openBrace)
    (passes : Yields (skipScalar letter inner) () behind)
    (leaves : Leaves (skipBehind frames behind) rest) : Leaves (skipWithin frames input) rest := by
  obtain ⟨shorter, passes⟩ := passes
  rw [skipWithin]
  split
  · rename_i blank
    rw [begins] at blank
    cases blank
  · rename_i blank
    rw [begins] at blank
    cases blank
    simp only [if_neg noArray, if_neg noObject, passes]
    exact leaves.map _ fun _ => rfl

theorem skipWithin_array (begins : skipBlank input = openBracket :: inner)
    (inside : skipBlank inner = octet :: more)
    (leaves : if octet = closeBracket then Leaves (skipBehind frames more) rest
      else Leaves (skipWithin (.array :: frames) inner) rest) :
    Leaves (skipWithin frames input) rest := by
  rw [skipWithin]
  split
  · rename_i blank
    rw [begins] at blank
    cases blank
  · rename_i blank
    rw [begins] at blank
    cases blank
    simp only [↓reduceIte]
    split
    · rename_i next
      rw [inside] at next
      cases next
    · rename_i next
      rw [inside] at next
      cases next
      split
      · rename_i closed
        rw [if_pos closed] at leaves
        exact leaves.map _ fun _ => rfl
      · rename_i closed
        rw [if_neg closed] at leaves
        exact leaves.map _ fun _ => rfl

theorem skipWithin_object (begins : skipBlank input = openBrace :: inner)
    (inside : skipBlank inner = octet :: more)
    (leaves : if octet = closeBrace then Leaves (skipBehind frames more) rest
      else ∃ value, Leaves (skipName inner) value ∧
        Leaves (skipWithin (.object :: frames) value) rest) :
    Leaves (skipWithin frames input) rest := by
  have other : openBrace ≠ openBracket := by decide
  rw [skipWithin]
  split
  · rename_i blank
    rw [begins] at blank
    cases blank
  · rename_i blank
    rw [begins] at blank
    cases blank
    simp only [if_neg other, ↓reduceIte]
    split
    · rename_i next
      rw [inside] at next
      cases next
    · rename_i next
      rw [inside] at next
      cases next
      split
      · rename_i closed
        rw [if_pos closed] at leaves
        exact leaves.map _ fun _ => rfl
      · rename_i closed
        rw [if_neg closed] at leaves
        obtain ⟨value, ⟨shorter, named⟩, leaves⟩ := leaves
        simp only [named]
        exact leaves.map _ fun _ => rfl

theorem skipBehind_close (frame : Frame) (closed : skipBlank input = frame.close :: behind)
    (leaves : Leaves (skipBehind outer behind) rest) :
    Leaves (skipBehind (frame :: outer) input) rest := by
  have other : frame.close ≠ comma := by cases frame <;> decide
  rw [skipBehind]
  split
  · rename_i blank
    rw [closed] at blank
    cases blank
  · rename_i blank
    rw [closed] at blank
    cases blank
    simp only [if_neg other, ↓reduceIte]
    exact leaves.map _ fun _ => rfl

theorem skipBehind_item (separated : skipBlank input = comma :: behind)
    (leaves : Leaves (skipWithin (.array :: outer) behind) rest) :
    Leaves (skipBehind (.array :: outer) input) rest := by
  rw [skipBehind]
  split
  · rename_i blank
    rw [separated] at blank
    cases blank
  · rename_i blank
    rw [separated] at blank
    cases blank
    simp only [↓reduceIte]
    exact leaves.map _ fun _ => rfl

theorem skipBehind_field {value : Bytes} (separated : skipBlank input = comma :: behind)
    (named : Leaves (skipName behind) value)
    (leaves : Leaves (skipWithin (.object :: outer) value) rest) :
    Leaves (skipBehind (.object :: outer) input) rest := by
  obtain ⟨shorter, named⟩ := named
  rw [skipBehind]
  split
  · rename_i blank
    rw [separated] at blank
    cases blank
  · rename_i blank
    rw [separated] at blank
    cases blank
    simp only [↓reduceIte, named]
    exact leaves.map _ fun _ => rfl

theorem skipName_field {field : FieldText} {before : Bytes} (string : StringText field.name)
    (blank : Blank field.before) (early : Blank before) (rest : Bytes) :
    Leaves (skipName (before ++ (field.text ++ rest))) (field.after ++ (field.value ++ rest)) := by
  have quoted : skipBlank (before ++ (field.text ++ rest)) = quote :: (field.name ++
      quote :: (field.before ++ colon :: (field.after ++ (field.value ++ rest)))) := by
    simp only [FieldText.text, List.cons_append, List.append_assoc]
    exact skipBlank_visible early rfl _
  obtain ⟨shorter, named⟩ := Text.skip_text string
    (field.before ++ colon :: (field.after ++ (field.value ++ rest)))
  obtain ⟨passed, drops⟩ := dropColon_of_skipBlank
    (skipBlank_visible blank rfl (field.after ++ (field.value ++ rest)))
  unfold skipName
  split
  · rename_i next
    rw [quoted] at next
    cases next
  · rename_i next
    rw [quoted] at next
    cases next
    simp only [named, drops]
    exact ⟨_, rfl⟩
  · rename_i other
    exact absurd quoted (other _)

end Steps

def Skips (text : Bytes) : Prop :=
  ∀ frames blank behind rest, Blank blank → Stops behind → Leaves (skipBehind frames behind) rest →
    Leaves (skipWithin frames (blank ++ (text ++ behind))) rest

section Rows

variable {outer : List Frame} {text rest left : Bytes}

theorem skipWithin_row {items : List Bytes} (row : Row items text)
    (skips : ∀ item ∈ items, Skips item) (leaves : Leaves (skipBehind outer rest) left) :
    Leaves (skipWithin (.array :: outer) (text ++ closeBracket :: rest)) left := by
  induction row with
  | last early late =>
    rw [List.append_assoc, List.append_assoc]
    apply skips _ List.mem_cons_self _ _ _ _ early (.append late (stops_closeBracket rest))
    exact skipBehind_close .array (skipBlank_visible late rfl rest) leaves
  | more early late _ ih =>
    rw [List.append_assoc, List.append_assoc, List.append_assoc, List.cons_append]
    apply skips _ List.mem_cons_self _ _ _ _ early (.append late (stops_comma _))
    exact skipBehind_item (skipBlank_visible late rfl _)
      (ih fun item member => skips item (List.mem_cons_of_mem _ member))

theorem skipWithin_fields {fields : List FieldText} (row : Row (fields.map FieldText.text) text)
    (names : ∀ field ∈ fields, StringText field.name)
    (before : ∀ field ∈ fields, Blank field.before) (after : ∀ field ∈ fields, Blank field.after)
    (skips : ∀ field ∈ fields, Skips field.value)
    (leaves : Leaves (skipBehind outer rest) left) :
    ∃ value, Leaves (skipName (text ++ closeBrace :: rest)) value ∧
      Leaves (skipWithin (.object :: outer) value) left := by
  -- Behind the value of a field there is the bracket, or a comma and the other fields.
  induction fields generalizing text with
  | nil => cases row
  | cons field more ih =>
    obtain ⟨name, others⟩ := List.forall_mem_cons.mp names
    obtain ⟨blank, blanks⟩ := List.forall_mem_cons.mp before
    obtain ⟨space, spaces⟩ := List.forall_mem_cons.mp after
    obtain ⟨value, values⟩ := List.forall_mem_cons.mp skips
    obtain ⟨early, late, behind, rfl, first, second, further⟩ := row.split
    have named := skipName_field name blank first (late ++ (behind ++ closeBrace :: rest))
    have grouped : (early ++ (field.text ++ (late ++ behind))) ++ closeBrace :: rest =
        early ++ (field.text ++ (late ++ (behind ++ closeBrace :: rest))) := by
      simp only [List.append_assoc]
    rw [grouped]
    refine ⟨_, named, ?_⟩
    rcases further with ⟨none, rfl⟩ | ⟨text, later, rfl⟩
    · apply value _ _ _ _ space (.append second (stops_closeBrace rest))
      exact skipBehind_close .object (skipBlank_visible second rfl rest) leaves
    · obtain ⟨next, names, leaves⟩ := ih later others blanks spaces values
      apply value _ _ _ _ space (.append second (stops_comma _))
      exact skipBehind_field (skipBlank_visible second rfl _) names leaves

end Rows

theorem Skips.of_scalar {letter : UInt8} {inner : Bytes} (visible : isBlank letter = false)
    (noArray : letter ≠ openBracket) (noObject : letter ≠ openBrace)
    (passes : ∀ behind, Stops behind → Yields (skipScalar letter (inner ++ behind)) () behind) :
    Skips (letter :: inner) := by
  intro frames blank behind rest early stops leaves
  exact skipWithin_scalar (skipBlank_visible early visible _) noArray noObject (passes behind stops)
    leaves

theorem skipScalar_number {octet : UInt8} {behind rest : Bytes} {numeral : Numeral}
    (starts : startsNumber octet = true)
    (reads : Yields (Numeral.read .badNumber (octet :: behind)) numeral rest) :
    Yields (skipScalar octet behind) () rest := by
  unfold skipScalar
  split
  · cases starts
  · cases starts
  · cases starts
  · cases starts
  · have numeric : octet = minus ∨ isDigit octet = true := by
      simpa [startsNumber] using starts
    rw [if_pos numeric]
    exact reads.map (fun _ => ()) fun parsed => parsed.shorter

/-- Every value is passed over, however deep it is nested. -/
theorem ValueText.skips {text : Bytes} (value : ValueText text) : Skips text := by
  -- What is inside a bracket is passed over with one frame more.
  induction value with
  | word known =>
    rcases List.mem_cons.mp known with rfl | known
    · exact .of_scalar rfl (by decide) (by decide) fun behind _ => readWord_append () nullTail _ _
    rcases List.mem_pair.mp known with rfl | rfl
    · exact .of_scalar rfl (by decide) (by decide) fun behind _ => readWord_append () trueTail _ _
    · exact .of_scalar rfl (by decide) (by decide) fun behind _ => readWord_append () falseTail _ _
  | number number =>
    obtain ⟨octet, inner, rfl, starts⟩ := number.begins
    apply Skips.of_scalar (isBlank_of_startsNumber starts) (ne_of_startsNumber starts rfl)
      (ne_of_startsNumber starts rfl)
    intro behind stops
    obtain ⟨numeral, reads⟩ := Numeral.read_text .badNumber number stops
    exact skipScalar_number starts reads
  | @string text string =>
    apply Skips.of_scalar rfl (by decide) (by decide)
    intro behind _
    rw [List.append_assoc]
    exact (Text.skip_text string behind).within _
  | @array items text enclosed values ih =>
    intro frames blank behind rest early stops leaves
    cases enclosed with
    | @empty spaces all =>
      have inside : skipBlank ((spaces ++ [closeBracket]) ++ behind) = closeBracket :: behind := by
        rw [List.append_assoc]
        exact skipBlank_visible all rfl behind
      apply skipWithin_array (skipBlank_visible early rfl _) inside
      rwa [if_pos rfl]
    | @row items inner row =>
      have grouped : (inner ++ [closeBracket]) ++ behind = inner ++ closeBracket :: behind :=
        List.append_assoc _ _ _
      obtain ⟨octet, more, inside, unclosed⟩ :=
        row.begins (fun item member => (values item member).begins) (closeBracket :: behind)
      rw [List.cons_append, grouped]
      apply skipWithin_array (skipBlank_visible early rfl _) inside
      rw [if_neg unclosed]
      exact skipWithin_row row ih leaves
  | @object fields text enclosed names before after values ih =>
    intro frames blank behind rest early stops leaves
    generalize items : fields.map FieldText.text = texts at enclosed
    cases enclosed with
    | @empty spaces all =>
      have inside : skipBlank ((spaces ++ [closeBrace]) ++ behind) = closeBrace :: behind := by
        rw [List.append_assoc]
        exact skipBlank_visible all rfl behind
      apply skipWithin_object (skipBlank_visible early rfl _) inside
      rwa [if_pos rfl]
    | @row _ inner row =>
      rw [← items] at row
      have grouped : (inner ++ [closeBrace]) ++ behind = inner ++ closeBrace :: behind :=
        List.append_assoc _ _ _
      have quoted : ∀ item ∈ fields.map FieldText.text, Begins closeBrace item :=
        List.forall_mem_map.mpr fun field _ => ⟨quote, _, rfl, rfl, by decide⟩
      obtain ⟨octet, more, inside, unclosed⟩ := row.begins quoted (closeBrace :: behind)
      rw [List.cons_append, grouped]
      apply skipWithin_object (skipBlank_visible early rfl _) inside
      rw [if_neg unclosed]
      exact skipWithin_fields row names before after ih leaves

theorem skipValue_text {text : Bytes} (value : ValueText text) : Reads skipValue text () := by
  intro blank rest early stops
  have still : Leaves (skipBehind [] rest) rest := ⟨Nat.le_refl _, by rw [skipBehind]⟩
  obtain ⟨shorter, passes⟩ := value.skips [] blank rest rest early stops still
  rw [skipValue, passes]
  exact ⟨_, rfl⟩

/-! What is written for a value is a text of one. -/

theorem Spells.stringText {written meant : Bytes} (spells : Spells written meant) :
    StringText written := by
  induction spells with
  | nil => exact .nil
  | plain unquoted unescaped visible _ ih => exact .plain unquoted unescaped visible ih
  | short escape _ ih => exact .short escape ih
  | code quad _ _ ih => exact .code quad ih
  | pair first _ second _ _ ih => exact .code first (.code second ih)

theorem wholeText_toString (number : Nat) : WholeText (Bytes.ofString (toString number)) := by
  rw [Numeral.ofString_toString]
  have octets : ∀ letter ∈ Nat.toDigits 10 number, isDigit letter.toUInt8 = true := by
    intro letter member
    rw [isDigit, Numeral.digit?_toUInt8 (Numeral.isDigit_of_mem member), Option.isSome_some]
  rcases Nat.eq_zero_or_pos number with rfl | positive
  · exact .zero
  cases digits : Nat.toDigits 10 number with
  | nil => exact absurd digits (Numeral.toDigits_ne_nil number)
  | cons letter more =>
    rw [digits] at octets
    obtain ⟨first, others⟩ := List.forall_mem_cons.mp octets
    refine .digits first ?_ (List.forall_mem_map.mpr others)
    intro zero
    have member : letter ∈ Nat.toDigits 10 number := digits ▸ List.mem_cons_self
    have value := Numeral.digit?_toUInt8 (Numeral.isDigit_of_mem member)
    rw [zero] at value
    have none : Numeral.digitValue letter = 0 := (Option.some.inj value).symm
    have begins : Numeral.decimals number = 0 :: more.map Numeral.digitValue := by
      rw [Numeral.decimals, digits, List.map_cons, none]
    exact absurd (Numeral.eq_zero_of_head begins) positive.ne'

theorem numberText_encodeInt (integer : Int) : NumberText (encodeInt integer) := by
  have natural : ∀ (sign : Bytes) (number : Nat), sign = [] ∨ sign = [minus] →
      NumberText (sign ++ Bytes.ofString (toString number)) := by
    intro sign number signed
    have parts := NumberText.parts signed (wholeText_toString number) .none .none
    rwa [List.append_nil, List.append_nil] at parts
  rcases Int.eq_nat_or_neg integer with ⟨number, rfl | rfl⟩
  · exact natural [] number (.inl rfl)
  · rcases Nat.eq_zero_or_pos number with rfl | positive
    · exact natural [] 0 (.inl rfl)
    · rw [encodeInt_negative positive]
      exact natural [minus] number (.inr rfl)

theorem WrittenAs.valueText {value : Json} {text : Bytes} (written : value.WrittenAs text)
    (floatless : value.isFloatless = true) : ValueText text := by
  induction written with
  | null => exact @ValueText.word "null" (by decide)
  | bool flag =>
    cases flag with
    | true => exact @ValueText.word "true" (by decide)
    | false => exact @ValueText.word "false" (by decide)
  | int value => exact .number (numberText_encodeInt value)
  | float value => cases floatless
  | str quotes =>
    cases quotes with
    | spelled spells => exact .string spells.stringText
  | arr enclosed each ih =>
    rw [isFloatless, areFloatless_iff] at floatless
    refine .array enclosed (List.forall_mem_map.mpr fun entry member => ih entry member ?_)
    exact floatless _ (List.mem_map_of_mem member)
  | @obj entries text object each ih =>
    rw [isFloatless, haveFloatless_iff] at floatless
    have texts : (entries.map (·.2)).map (·.2.text) = (entries.map (·.2.2)).map FieldText.text := by
      simp only [List.map_map]
      rfl
    have enclosed := object.enclosed
    rw [texts] at enclosed
    refine .object enclosed ?_ ?_ ?_ ?_
    all_goals refine List.forall_mem_map.mpr fun entry member => ?_
    · exact (object.named _ (List.mem_map_of_mem member)).stringText
    · exact object.before _ (List.mem_map_of_mem member)
    · exact object.after _ (List.mem_map_of_mem member)
    · exact ih entry member (floatless _ (List.mem_map_of_mem member))

end SchedulerLink.Json
