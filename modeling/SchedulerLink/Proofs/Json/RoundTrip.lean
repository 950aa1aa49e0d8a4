import SchedulerLink.Proofs.Json.Layout
import SchedulerLink.Proofs.Json.Wording

/-!
JSON values that are written down read back.

A value may be written in many ways, and is read from each of them if it is portable. One of them is
its text without blanks, another the text in which every item and field has a line of its own.
-/

namespace SchedulerLink.Json

open Ascii

/-- The ways to write a value. -/
inductive WrittenAs : Json → Bytes → Prop where
  | null : WrittenAs .null (Bytes.ofString "null")
  | bool (flag : Bool) : WrittenAs (.bool flag) (Bytes.ofString (toString flag))
  | int (value : Int) : WrittenAs (.int value) (Bytes.ofString (toString value))
  | float (value : Binary64) : WrittenAs (.float value) (Bytes.ofString (value.render floatLayout))
  | str {text : String} {written : Bytes} (quotes : Quotes text written) :
    WrittenAs (.str text) written
  | arr {entries : List (Json × Bytes)} {text : Bytes}
    (enclosed : Enclosed openBracket closeBracket (entries.map (·.2)) text)
    (each : ∀ entry ∈ entries, WrittenAs entry.1 entry.2) :
    WrittenAs (.arr (entries.map (·.1))) text
  | obj {entries : List (Json × String × FieldText)} {text : Bytes}
    (object : ObjectText (entries.map (·.2)) text)
    (each : ∀ entry ∈ entries, WrittenAs entry.1 entry.2.2.value) :
    WrittenAs (.obj (entries.map fun entry => (entry.2.1, entry.1))) text

/-! Reading. -/

section Reading

variable {value : Json} {text : Bytes} {levels : Nat}

theorem WrittenAs.begins (written : value.WrittenAs text) (floatless : value.isFloatless = true) :
    Begins closeBracket text := by
  cases written with
  | null => exact ⟨lowerN, nullTail, rfl, rfl, by decide⟩
  | bool flag =>
    cases flag with
    | true => exact ⟨lowerT, trueTail, rfl, rfl, by decide⟩
    | false => exact ⟨lowerF, falseTail, rfl, rfl, by decide⟩
  | int value =>
    obtain ⟨octet, behind, text, starts⟩ := encodeInt_eq_cons value
    exact ⟨octet, behind, text, isBlank_of_startsNumber starts, ne_of_startsNumber starts rfl⟩
  | float value => cases floatless
  | str quotes =>
    cases quotes with
    | spelled _ => exact ⟨quote, _, rfl, rfl, by decide⟩
  | arr enclosed _ =>
    generalize List.map _ _ = items at enclosed
    cases enclosed <;> exact ⟨openBracket, _, rfl, rfl, by decide⟩
  | obj object _ =>
    have enclosed := object.enclosed
    generalize List.map _ _ = items at enclosed
    cases enclosed <;> exact ⟨openBrace, _, rfl, rfl, by decide⟩

theorem reads_int {value : Int} (least : -0x8000000000000000 ≤ value)
    (most : value < 0x10000000000000000) :
    Reads (readValue levels) (encodeInt value) (.int value) := by
  intro blank rest early stops
  obtain ⟨numeral, reads, means⟩ := Numeral.read_encodeInt .endInValue least most stops
  obtain ⟨octet, behind, text, starts, begins⟩ := encodeInt_begins value early rest
  rw [text] at reads
  exact readValue_scalar begins (ne_of_startsNumber starts rfl) (ne_of_startsNumber starts rfl)
    (readScalar_number starts reads means)

theorem reads_str {text : String} {written : Bytes} (quotes : Quotes text written) :
    Reads (readValue levels) written (.str text) := by
  intro blank rest early _
  obtain ⟨behind, quoted, reads⟩ := quotes.begins early rest
  exact readValue_scalar quoted (by decide) (by decide)
    (reads.map Json.str fun parsed => Nat.lt_trans parsed.shorter (Bytes.length_lt_cons _ _))

/-- A portable value is read however it is written. -/
theorem WrittenAs.reads (written : value.WrittenAs text) (portable : Portable levels value) :
    Reads (readValue levels) text value := by
  -- The values of one level are read if those of the level below are.
  induction written generalizing levels with
  | null =>
    intro blank rest early _
    exact readValue_scalar (skipBlank_visible early rfl _) (by decide) (by decide)
      (readWord_append Json.null nullTail lowerN rest)
  | bool flag =>
    intro blank rest early _
    cases flag with
    | true =>
      exact readValue_scalar (skipBlank_visible early rfl _) (by decide) (by decide)
        (readWord_append (Json.bool true) trueTail lowerT rest)
    | false =>
      exact readValue_scalar (skipBlank_visible early rfl _) (by decide) (by decide)
        (readWord_append (Json.bool false) falseTail lowerF rest)
  | int value =>
    cases portable.wellFormed with
    | int least most => exact reads_int least most
  | float value => cases portable.floatless
  | str quotes => exact reads_str quotes
  | @arr entries text enclosed each ih =>
    intro blank rest early _
    cases levels with
    | zero => cases portable.shallow
    | succ levels =>
      have parts : ∀ entry ∈ entries, Portable levels entry.1 := fun entry member =>
        Portable.arr_iff.mp portable _ (List.mem_map_of_mem member)
      obtain ⟨behind, begins, reads⟩ := readArray_text enclosed
        (fun entry member => (each entry member).begins (parts entry member).floatless)
        (fun entry member => ih entry member (parts entry member)) early rest
      exact readValue_array begins reads
  | @obj entries text object each ih =>
    intro blank rest early _
    cases levels with
    | zero => cases portable.shallow
    | succ levels =>
      obtain ⟨sorted, parts⟩ := Portable.obj_iff.mp portable
      have fills := readMember_fills entries [] fun entry member =>
        ih entry member (parts _ (List.mem_map_of_mem member))
      rw [insertFields_append [] _ sorted] at fills
      obtain ⟨behind, begins, reads⟩ := readObject_text object fills early rest
      exact readValue_object begins reads

theorem WrittenAs.parse {late : Bytes} (written : value.WrittenAs text)
    (portable : Portable depthLimit value) (blank : Blank late) :
    Json.parse (text ++ late) = .ok value := by
  have stops := Stops.append blank .nil
  have left := skipBlank_append blank []
  rw [List.append_nil] at stops left
  have reads : Yields (readValue depthLimit (text ++ late)) value late :=
    written.reads portable [] late .nil stops
  obtain ⟨shorter, reads⟩ := reads
  rw [Json.parse, reads, complete, left]
  rfl

end Reading

/-! Writing. -/

/-- What holds of a value if it holds of its parts holds of every value. -/
theorem forall_of_parts {holds : Json → Prop} (null : holds .null)
    (bool : ∀ flag, holds (.bool flag))
    (int : ∀ value, holds (.int value)) (float : ∀ value, holds (.float value))
    (str : ∀ text, holds (.str text))
    (arr : ∀ items, (∀ item ∈ items, holds item) → holds (.arr items))
    (obj : ∀ fields : List (String × Json),
      (∀ field ∈ fields, holds field.2) → holds (.obj fields)) (value : Json) : holds value := by
  match value with
  | .null => exact null
  | .bool flag => exact bool flag
  | .int value => exact int value
  | .float value => exact float value
  | .str text => exact str text
  | .arr items =>
    exact arr items fun item member => forall_of_parts null bool int float str arr obj item
  | .obj fields =>
    exact obj fields fun field member => forall_of_parts null bool int float str arr obj field.2
termination_by sizeOf value
decreasing_by
  · have inside := List.sizeOf_lt_of_mem member
    rw [Json.arr.sizeOf_spec]
    omega
  · obtain ⟨name, value⟩ := field
    have inside := List.sizeOf_lt_of_mem member
    simp only [Prod.mk.sizeOf_spec, Json.obj.sizeOf_spec] at inside ⊢
    omega

theorem WrittenAs.arr_map {items : List Json} {text : Bytes} (write : Json → Bytes)
    (enclosed : Enclosed openBracket closeBracket (items.map write) text)
    (each : ∀ item ∈ items, item.WrittenAs (write item)) : WrittenAs (.arr items) text := by
  have written := @WrittenAs.arr (items.map fun item => (item, write item)) text
  simp only [List.map_map, Function.comp_def, List.map_id'] at written
  exact written enclosed (List.forall_mem_map.mpr each)

theorem WrittenAs.obj_map {fields : List (String × Json)} {text : Bytes}
    (write : String × Json → FieldText)
    (object : ObjectText (fields.map fun field => (field.1, write field)) text)
    (each : ∀ field ∈ fields, field.2.WrittenAs (write field).value) :
    WrittenAs (.obj fields) text := by
  have written := @WrittenAs.obj (fields.map fun field => (field.2, field.1, write field)) text
  simp only [List.map_map, Function.comp_def, Prod.mk.eta, List.map_id'] at written
  exact written object (List.forall_mem_map.mpr each)

/-! Without blanks. -/

theorem encodeText_append (text : String) (rest : Bytes) :
    encodeText text ++ rest =
      quote :: ((Bytes.ofString text).flatMap escapeOctet ++ quote :: rest) := by
  rw [encodeText, List.cons_append, List.cons_append, List.append_assoc]
  rfl

def FieldText.ofField (field : String × Json) : FieldText where
  name := (Bytes.ofString field.1).flatMap escapeOctet
  value := field.2.encode

theorem FieldText.text_ofField (field : String × Json) :
    (ofField field).text = encodeText field.1 ++ colon :: field.2.encode := by
  rw [encodeText_append]
  rfl

theorem Row.single (item : Bytes) : Row [item] item := by
  have row := @Row.last [] item [] .nil .nil
  rwa [List.append_nil] at row

theorem row_encodeItems (item : Json) (more : List Json) :
    Row ((item :: more).map encode) (encodeItems (item :: more)) := by
  induction more generalizing item with
  | nil => exact .single _
  | cons next more ih => exact @Row.more [] _ [] _ _ .nil .nil (ih next)

theorem row_encodeFields (field : String × Json) (more : List (String × Json)) :
    Row ((field :: more).map fun field => (FieldText.ofField field).text)
      (encodeFields (field :: more)) := by
  induction more generalizing field with
  | nil =>
    rw [encodeFields, ← FieldText.text_ofField field]
    exact .single _
  | cons next more ih =>
    rw [List.map_cons, encodeFields, FieldText.text_ofField]
    exact @Row.more [] _ [] _ _ .nil .nil (ih next)

theorem objectText_encode (fields : List (String × Json)) :
    ObjectText (fields.map fun field => (field.1, FieldText.ofField field))
      (Json.obj fields).encode where
  enclosed := by
    rw [List.map_map]
    cases fields with
    | nil => exact .empty .nil
    | cons field more => exact .row (row_encodeFields field more)
  named := List.forall_mem_map.mpr fun _ _ => .flatMap_escapeOctet _
  before := List.forall_mem_map.mpr fun _ _ => .nil
  after := List.forall_mem_map.mpr fun _ _ => .nil

theorem writtenAs_encode (value : Json) : value.WrittenAs value.encode := by
  induction value using forall_of_parts with
  | null => exact .null
  | bool flag => cases flag <;> exact .bool _
  | int value => exact .int value
  | float value => exact .float value
  | str text => exact .str (quotes_encodeText text)
  | arr items each =>
    refine .arr_map encode ?_ each
    cases items with
    | nil => exact .empty .nil
    | cons item more => exact .row (row_encodeItems item more)
  | obj fields each => exact .obj_map FieldText.ofField (objectText_encode fields) each

theorem parse_encode {value : Json} (portable : Portable depthLimit value) :
    parse value.encode = .ok value := by
  have parsed := (writtenAs_encode value).parse portable .nil
  rwa [List.append_nil] at parsed

/-! With a line for every item and field. -/

end SchedulerLink.Json
