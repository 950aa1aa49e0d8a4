import SchedulerLink.Proofs.Json.Reading

/-!
The ways to lay out arrays and objects.

Between the brackets, commas and colons of a text there may be blanks, and each name may be spelled
in its own way. However an array or an object is laid out, its parts are read one after the other.
-/

namespace SchedulerLink.Json

open Ascii

/-! Blanks. -/

def Blank (text : Bytes) : Prop := ∀ octet ∈ text, isBlank octet = true

theorem Blank.nil : Blank [] := List.forall_mem_nil _

theorem skipBlank_append {blank : Bytes} (all : Blank blank) (rest : Bytes) :
    skipBlank (blank ++ rest) = skipBlank rest :=
  List.dropWhile_append_of_pos all

theorem skipBlank_visible {blank : Bytes} {octet : UInt8} (all : Blank blank)
    (visible : isBlank octet = false) (rest : Bytes) :
    skipBlank (blank ++ octet :: rest) = octet :: rest := by
  rw [skipBlank_append all, skipBlank_cons visible]

theorem stops_of_isBlank : ∀ octet : UInt8, isBlank octet = true →
    digit? octet = none ∧ octet ≠ dot ∧ octet ≠ lowerE ∧ octet ≠ upperE := by
  intro octet blank
  simp only [isBlank, Bool.or_eq_true, decide_eq_true_eq] at blank
  rcases blank with ((rfl | rfl) | rfl) | rfl <;> decide

theorem Stops.append {blank rest : Bytes} (all : Blank blank) (stops : Stops rest) :
    Stops (blank ++ rest) := by
  cases blank with
  | nil => exact stops
  | cons octet more =>
    intro found member
    cases member
    exact stops_of_isBlank octet (all octet List.mem_cons_self)

/-! Scalars. -/

inductive Quotes (meant : String) : Bytes → Prop where
  | spelled {written : Bytes} (spells : Spells written (Bytes.ofString meant)) :
    Quotes meant (quote :: (written ++ [quote]))

theorem quotes_encodeText (text : String) : Quotes text (encodeText text) :=
  .spelled (.flatMap_escapeOctet _)

theorem Quotes.begins {meant : String} {value blank : Bytes} (quotes : Quotes meant value)
    (early : Blank blank) (rest : Bytes) :
    ∃ behind, skipBlank (blank ++ (value ++ rest)) = quote :: behind ∧
      Yields (Text.read behind) meant rest := by
  cases quotes with
  | spelled spells =>
    refine ⟨_, ?_, Text.read_spells spells rest⟩
    rw [List.cons_append, List.append_assoc]
    exact skipBlank_visible early rfl _

theorem encodeInt_begins (value : Int) {blank : Bytes} (early : Blank blank) (rest : Bytes) :
    ∃ octet behind, encodeInt value ++ rest = octet :: behind ∧ startsNumber octet = true ∧
      skipBlank (blank ++ (encodeInt value ++ rest)) = octet :: behind := by
  obtain ⟨octet, behind, text, starts⟩ := encodeInt_eq_cons value
  refine ⟨octet, behind ++ rest, ?_, starts, ?_⟩
  · rw [text, List.cons_append]
  · rw [text]
    exact skipBlank_visible early (isBlank_of_startsNumber starts) _

/-! Rows of items. -/

inductive Row : List Bytes → Bytes → Prop where
  | last {before item after : Bytes} (early : Blank before) (late : Blank after) :
    Row [item] (before ++ (item ++ after))
  | more {before item after text : Bytes} {items : List Bytes} (early : Blank before)
    (late : Blank after) (later : Row items text) :
    Row (item :: items) (before ++ (item ++ (after ++ comma :: text)))

theorem Row.split {item text : Bytes} {items : List Bytes} (row : Row (item :: items) text) :
    ∃ before after behind, text = before ++ (item ++ (after ++ behind)) ∧ Blank before ∧
      Blank after ∧ (items = [] ∧ behind = [] ∨ ∃ later, Row items later ∧ behind = comma :: later)
      := by
  cases row with
  | @last before _ after early late =>
    exact ⟨before, after, [], by rw [List.append_nil], early, late, .inl ⟨rfl, rfl⟩⟩
  | more early late later => exact ⟨_, _, _, rfl, early, late, .inr ⟨_, later, rfl⟩⟩

def Begins (closing : UInt8) (text : Bytes) : Prop :=
  ∃ octet more, text = octet :: more ∧ isBlank octet = false ∧ octet ≠ closing

theorem Row.begins {closing : UInt8} {items : List Bytes} {text : Bytes} (row : Row items text)
    (all : ∀ item ∈ items, Begins closing item) (rest : Bytes) :
    ∃ octet more, skipBlank (text ++ rest) = octet :: more ∧ octet ≠ closing := by
  cases items with
  | nil => cases row
  | cons item items =>
    obtain ⟨early, late, behind, rfl, first, -, -⟩ := row.split
    obtain ⟨octet, more, rfl, visible, different⟩ := all _ List.mem_cons_self
    rw [List.append_assoc]
    exact ⟨octet, _, skipBlank_visible first visible _, different⟩

inductive Enclosed (opening closing : UInt8) : List Bytes → Bytes → Prop where
  | empty {blank : Bytes} (all : Blank blank) :
    Enclosed opening closing [] (opening :: (blank ++ [closing]))
  | row {items : List Bytes} {text : Bytes} (row : Row items text) :
    Enclosed opening closing items (opening :: (text ++ [closing]))

structure FieldText where
  name : Bytes
  before : Bytes := []
  after : Bytes := []
  value : Bytes

def FieldText.text (field : FieldText) : Bytes :=
  quote :: (field.name ++ quote :: (field.before ++ colon :: (field.after ++ field.value)))

structure ObjectText (entries : List (String × FieldText)) (text : Bytes) : Prop where
  enclosed : Enclosed openBrace closeBrace (entries.map (·.2.text)) text
  named : ∀ entry ∈ entries, Spells entry.2.name (Bytes.ofString entry.1)
  before : ∀ entry ∈ entries, Blank entry.2.before
  after : ∀ entry ∈ entries, Blank entry.2.after

/-! Reading arrays and objects. -/

/-- A reader takes a text for a meaning, behind blanks and wherever a number may end. -/
def Reads {α : Type} (reader : (input : Bytes) → Reading α input) (text : Bytes) (meaning : α) :
    Prop :=
  ∀ blank rest, Blank blank → Stops rest → Yields (reader (blank ++ (text ++ rest))) meaning rest

theorem Reads.view {α β : Type} {reader : (input : Bytes) → Reading α input}
    {viewer : (input : Bytes) → Reading β input} {text : Bytes} {meaning : α} {next : β}
    (reads : Reads reader text meaning) (view : α → β)
    (views : ∀ input, viewer input = (reader input).map fun parsed =>
      ⟨view parsed.value, parsed.rest, parsed.shorter⟩) (same : view meaning = next) :
    Reads viewer text next := by
  intro blank rest early stops
  rw [views, ← same]
  exact (reads blank rest early stops).map view fun parsed => parsed.shorter

/-- The items of a row are read one after the other. -/
theorem readItems_row {α : Type} {readItem : (input : Bytes) → Reading α input}
    {entries : List (α × Bytes)} {text : Bytes} (row : Row (entries.map (·.2)) text)
    (visible : ∀ entry ∈ entries, Begins closeBracket entry.2)
    (reads : ∀ entry ∈ entries, Reads readItem entry.2 entry.1) (rest : Bytes) :
    ∃ octet behind, skipBlank (text ++ closeBracket :: rest) = octet :: behind ∧
      octet ≠ closeBracket ∧
      Yields (readItems readItem (octet :: behind)) (entries.map (·.1)) rest := by
  induction entries generalizing text with
  | nil => cases row
  | cons entry more ih =>
    obtain ⟨item, written⟩ := entry
    obtain ⟨⟨octet, tail, begins, seen, unclosed⟩, others⟩ := List.forall_mem_cons.mp visible
    obtain ⟨first, later⟩ := List.forall_mem_cons.mp reads
    obtain ⟨early, late, behind, rfl, before, after, further⟩ := row.split
    have starts : ∀ rest, written ++ rest = octet :: (tail ++ rest) := by
      intro rest
      rw [show written = octet :: tail from begins, List.cons_append]
    refine ⟨octet, tail ++ (late ++ (behind ++ closeBracket :: rest)), ?_, unclosed, ?_⟩
    · simp only [List.append_assoc, starts, List.cons_append]
      exact skipBlank_visible before seen _
    rw [← starts]
    -- A row ends with its first item, or goes on after a comma with a shorter row.
    rcases further with ⟨none, rfl⟩ | ⟨text, onward, rfl⟩
    · rw [List.map_eq_nil_iff] at none
      subst none
      exact readItems_last (first [] _ .nil (.append after (stops_closeBracket rest)))
        (skipBlank_visible after rfl rest)
    · obtain ⟨letter, behind, next, open', done⟩ := ih onward others later
      exact readItems_more (first [] _ .nil (.append after (stops_comma _)))
        (skipBlank_visible after rfl _) next open' done

theorem readArray_text {α : Type} {readItem : (input : Bytes) → Reading α input}
    {entries : List (α × Bytes)} {text blank : Bytes}
    (enclosed : Enclosed openBracket closeBracket (entries.map (·.2)) text)
    (visible : ∀ entry ∈ entries, Begins closeBracket entry.2)
    (reads : ∀ entry ∈ entries, Reads readItem entry.2 entry.1) (early : Blank blank)
    (rest : Bytes) :
    ∃ behind, skipBlank (blank ++ (text ++ rest)) = openBracket :: behind ∧
      Yields (readArray readItem behind) (entries.map (·.1)) rest := by
  generalize items : entries.map (·.2) = texts at enclosed
  cases enclosed with
  | @empty spaces all =>
    rw [List.map_eq_nil_iff] at items
    subst items
    refine ⟨spaces ++ closeBracket :: rest, ?_, readArray_empty _ (skipBlank_visible all rfl rest)⟩
    rw [List.cons_append, List.append_assoc]
    exact skipBlank_visible early rfl _
  | @row _ text row =>
    rw [← items] at row
    obtain ⟨octet, more, begins, unclosed, done⟩ := readItems_row row visible reads rest
    refine ⟨text ++ closeBracket :: rest, ?_, readArray_items begins unclosed done⟩
    rw [List.cons_append, List.append_assoc]
    exact skipBlank_visible early rfl _

section Objects

variable {τ : Type} {readField : τ → String → (input : Bytes) → Reading τ input}
  {held next last : τ} {entries : List (String × FieldText)}

/-- What the fields of an object come to if each is read by itself. -/
inductive Fills (readField : τ → String → (input : Bytes) → Reading τ input) :
    τ → List (String × FieldText) → τ → Prop where
  | nil {held : τ} : Fills readField held [] held
  | cons {held next last : τ} {entry : String × FieldText} {entries : List (String × FieldText)}
    (reads : Reads (readField held entry.1) entry.2.value next)
    (later : Fills readField next entries last) : Fills readField held (entry :: entries) last

theorem FieldText.reads {field : FieldText} {name : String}
    (spells : Spells field.name (Bytes.ofString name)) (before : Blank field.before)
    (rest : Bytes) :
    ∃ behind afterName, field.text ++ rest = quote :: behind ∧
      Yields (Text.read behind) name afterName ∧
      skipBlank afterName = colon :: (field.after ++ (field.value ++ rest)) := by
  refine ⟨_, _, ?_, Text.read_spells spells _, skipBlank_visible before rfl _⟩
  simp only [text, List.cons_append, List.append_assoc]

theorem readFields_row {text : Bytes} (row : Row (entries.map (·.2.text)) text)
    (named : ∀ entry ∈ entries, Spells entry.2.name (Bytes.ofString entry.1))
    (before : ∀ entry ∈ entries, Blank entry.2.before)
    (after : ∀ entry ∈ entries, Blank entry.2.after) (fills : Fills readField held entries last)
    (rest : Bytes) :
    ∃ behind, skipBlank (text ++ closeBrace :: rest) = quote :: behind ∧
      Yields (readFields readField held behind) last rest := by
  induction entries generalizing held text with
  | nil => cases row
  | cons entry more ih =>
    obtain ⟨spells, spellings⟩ := List.forall_mem_cons.mp named
    obtain ⟨blank, blanks⟩ := List.forall_mem_cons.mp before
    obtain ⟨space, spaces⟩ := List.forall_mem_cons.mp after
    cases fills with
    | cons reads later =>
      obtain ⟨early, late, behind, rfl, first, second, further⟩ := row.split
      obtain ⟨input, afterName, quoted, name, parted⟩ :=
        FieldText.reads spells blank (late ++ (behind ++ closeBrace :: rest))
      have begins : skipBlank ((early ++ (entry.2.text ++ (late ++ behind))) ++
          closeBrace :: rest) = quote :: input := by
        simp only [List.append_assoc]
        rw [skipBlank_append first, quoted]
        rfl
      refine ⟨input, begins, ?_⟩
      rcases further with ⟨none, rfl⟩ | ⟨text, others, rfl⟩
      · rw [List.map_eq_nil_iff] at none
        subst none
        cases later
        exact readFields_last name parted (reads _ _ space (.append second (stops_closeBrace rest)))
          (skipBlank_visible second rfl rest)
      · obtain ⟨behind, quoted, done⟩ := ih others spellings blanks spaces later
        exact readFields_more name parted (reads _ _ space (.append second (stops_comma _)))
          (skipBlank_visible second rfl _) quoted done

/-- An object comes to what its fields come to. -/
theorem readObject_text {text blank : Bytes} (object : ObjectText entries text)
    (fills : Fills readField held entries last) (early : Blank blank) (rest : Bytes) :
    ∃ behind, skipBlank (blank ++ (text ++ rest)) = openBrace :: behind ∧
      Yields (readObject readField held behind) last rest := by
  obtain ⟨enclosed, named, before, after⟩ := object
  generalize items : entries.map (·.2.text) = texts at enclosed
  cases enclosed with
  | @empty spaces all =>
    rw [List.map_eq_nil_iff] at items
    subst items
    cases fills
    refine ⟨spaces ++ closeBrace :: rest, ?_, readObject_empty _ _ (skipBlank_visible all rfl rest)⟩
    rw [List.cons_append, List.append_assoc]
    exact skipBlank_visible early rfl _
  | @row _ text row =>
    rw [← items] at row
    obtain ⟨behind, quoted, reads⟩ := readFields_row row named before after fills rest
    refine ⟨text ++ closeBrace :: rest, ?_, readObject_fields quoted reads⟩
    rw [List.cons_append, List.append_assoc]
    exact skipBlank_visible early rfl _

end Objects

theorem readMember_fills {depth : Nat} (entries : List (Json × String × FieldText))
    (held : List (String × Json))
    (reads : ∀ entry ∈ entries, Reads (readValue depth) entry.2.2.value entry.1) :
    Fills (readMember depth) held (entries.map (·.2))
      (insertFields held (entries.map fun entry => (entry.2.1, entry.1))) := by
  induction entries generalizing held with
  | nil => exact .nil
  | cons entry more ih =>
    obtain ⟨first, later⟩ := List.forall_mem_cons.mp reads
    exact .cons (first.view (insertField entry.2.1 · held) (fun _ => rfl) rfl) (ih _ later)

end SchedulerLink.Json
