import SchedulerLink.Json.Text

/-!
JSON text to values.

Reading goes from left to right and stops at the first fault. Arrays and objects may be nested
`depthLimit` levels deep. `skipValue` passes over a value that nobody asked for: it checks the
outline of the text only, to any depth.
-/

namespace SchedulerLink.Json

open Ascii

def isBlank (octet : UInt8) : Bool :=
  octet = space || octet = newline || octet = tab || octet = carriageReturn

def skipBlank (input : Bytes) : Bytes := input.dropWhile isBlank

theorem length_skipBlank_le (input : Bytes) : (skipBlank input).length ≤ input.length :=
  (List.dropWhile_sublist _).length_le

theorem length_lt_of_skipBlank {input rest : Bytes} {octet : UInt8}
    (blank : skipBlank input = octet :: rest) : rest.length < input.length := by
  have bound := length_skipBlank_le input
  rw [blank] at bound
  exact bound

def depthLimit : Nat := 127

def dropWord : Bytes → Bytes → Except Fault Bytes
  | [], input => .ok input
  | _ :: _, [] => .error .endInValue
  | letter :: word, octet :: rest =>
    if letter = octet then dropWord word rest else .error .wordExpected

theorem length_dropWord_le {word input rest : Bytes} (read : dropWord word input = .ok rest) :
    rest.length ≤ input.length := by
  fun_induction dropWord word input with
  | case1 => cases read; exact Nat.le_refl _
  | case2 => cases read
  | case3 _ _ _ ih => have := ih read; simp only [List.length_cons]; omega
  | case4 => cases read

def readWord {α : Type} (value : α) (remaining : Bytes) (letter : UInt8) (rest : Bytes) :
    Reading α (letter :: rest) :=
  match read : dropWord remaining rest with
  | .error fault => .error fault
  | .ok behind =>
    .ok ⟨value, behind, by have := length_dropWord_le read; simp only [List.length_cons]; omega⟩

def nullTail : Bytes := Bytes.ofString "ull"
def trueTail : Bytes := Bytes.ofString "rue"
def falseTail : Bytes := Bytes.ofString "alse"

def readNull (letter : UInt8) (rest : Bytes) : Reading Unit (letter :: rest) :=
  readWord () nullTail letter rest

def readScalar (letter : UInt8) (rest : Bytes) : Reading Json (letter :: rest) :=
  match letter with
  | lowerN => readWord .null nullTail lowerN rest
  | lowerT => readWord (.bool true) trueTail lowerT rest
  | lowerF => readWord (.bool false) falseTail lowerF rest
  | quote => (Text.read rest).map fun parsed => ⟨.str parsed.value, parsed.rest, by
      have := parsed.shorter; simp only [List.length_cons]; omega⟩
  | letter =>
    if letter = minus ∨ isDigit letter then
      match Numeral.read .endInValue (letter :: rest) with
      | .error fault => .error fault
      | .ok ⟨numeral, behind, shorter⟩ => numeral.value.map fun value => ⟨value, behind, shorter⟩
    else .error .valueExpected

def readItems {α : Type} (readItem : (input : Bytes) → Reading α input) (input : Bytes) :
    Reading (List α) input :=
  match readItem input with
  | .error fault => .error fault
  | .ok ⟨item, afterItem, shorter⟩ =>
    match blank : skipBlank afterItem with
    | [] => .error .endInArray
    | closeBracket :: rest => .ok ⟨[item], rest, by
        have := length_skipBlank_le afterItem; simp only [blank, List.length_cons] at this; omega⟩
    | comma :: rest =>
      match next : skipBlank rest with
      | [] => .error .endInValue
      | closeBracket :: _ => .error .trailingComma
      | octet :: more =>
        have bound : (octet :: more).length < input.length := by
          have one := length_skipBlank_le afterItem
          have two := length_skipBlank_le rest
          rw [blank] at one; rw [next] at two
          simp only [List.length_cons] at *; omega
        (readItems readItem (octet :: more)).map fun parsed =>
          ⟨item :: parsed.value, parsed.rest, Nat.lt_trans parsed.shorter bound⟩
    | _ => .error .commaOrBracketExpected
termination_by input.length

def readArray {α : Type} (readItem : (input : Bytes) → Reading α input) (input : Bytes) :
    Reading (List α) input :=
  match blank : skipBlank input with
  | [] => .error .endInArray
  | closeBracket :: rest => .ok ⟨[], rest, by
      have := length_skipBlank_le input; simp only [blank, List.length_cons] at this; omega⟩
  | octet :: rest =>
    (readItems readItem (octet :: rest)).map fun parsed => parsed.within (by
      have := length_skipBlank_le input; simp only [blank] at this; exact this)

def dropColon (input : Bytes) : Except Fault { rest : Bytes // rest.length < input.length } :=
  match blank : skipBlank input with
  | [] => .error .endInObject
  | colon :: rest => .ok ⟨rest, by
      have := length_skipBlank_le input; simp only [blank, List.length_cons] at this; omega⟩
  | _ => .error .colonExpected

/-- Reads the fields of an object from behind the opening quote of a name, up to and with the
closing brace. `readField` takes what the fields so far came to and reads a value. -/
def readFields {σ : Type} (readField : σ → String → (input : Bytes) → Reading σ input) (state : σ)
    (input : Bytes) : Reading σ input :=
  match Text.read input with
  | .error fault => .error fault
  | .ok ⟨name, afterName, named⟩ =>
    match dropColon afterName with
    | .error fault => .error fault
    | .ok ⟨afterColon, colonPassed⟩ =>
      match readField state name afterColon with
      | .error fault => .error fault
      | .ok ⟨state, afterValue, valued⟩ =>
        match blank : skipBlank afterValue with
        | [] => .error .endInObject
        | closeBrace :: rest => .ok ⟨state, rest, by
            have := length_skipBlank_le afterValue
            simp only [blank, List.length_cons] at this; omega⟩
        | comma :: rest =>
          match next : skipBlank rest with
          | [] => .error .endInValue
          | quote :: more =>
            have bound : more.length < input.length := by
              have one := length_skipBlank_le afterValue
              have two := length_skipBlank_le rest
              rw [blank] at one; rw [next] at two
              simp only [List.length_cons] at *; omega
            (readFields readField state more).map fun parsed =>
              parsed.within (Nat.le_of_lt bound)
          | closeBrace :: _ => .error .trailingComma
          | _ => .error .nameExpected
        | _ => .error .commaOrBraceExpected
termination_by input.length

def readObject {σ : Type} (readField : σ → String → (input : Bytes) → Reading σ input) (state : σ)
    (input : Bytes) : Reading σ input :=
  match blank : skipBlank input with
  | [] => .error .endInObject
  | closeBrace :: rest => .ok ⟨state, rest, by
      have := length_skipBlank_le input; simp only [blank, List.length_cons] at this; omega⟩
  | quote :: rest =>
    (readFields readField state rest).map fun parsed => parsed.within (by
      have := length_skipBlank_le input; simp only [blank, List.length_cons] at this; omega)
  | _ => .error .nameExpected

/-- Reads a value in which arrays and objects are nested at most `depth` levels. -/
def readValue (depth : Nat) (input : Bytes) : Reading Json input :=
  match blank : skipBlank input with
  | [] => .error .endInValue
  | letter :: rest =>
    have inside : (letter :: rest).length ≤ input.length := by
      have := length_skipBlank_le input; rw [blank] at this; exact this
    have behind : rest.length ≤ input.length := by
      simp only [List.length_cons] at inside; omega
    if letter = openBracket then
      match depth with
      | 0 => .error .tooDeep
      | depth + 1 =>
        (readArray (readValue depth) rest).map fun parsed =>
          ⟨.arr parsed.value, parsed.rest, Nat.lt_of_lt_of_le parsed.shorter behind⟩
    else if letter = openBrace then
      match depth with
      | 0 => .error .tooDeep
      | depth + 1 =>
        let readField (held : List (String × Json)) (name : String) (input : Bytes) :=
          (readValue depth input).map fun parsed =>
            (⟨insertField name parsed.value held, parsed.rest, parsed.shorter⟩ : Parsed _ input)
        (readObject readField [] rest).map fun parsed =>
          ⟨.obj parsed.value, parsed.rest, Nat.lt_of_lt_of_le parsed.shorter behind⟩
    else (readScalar letter rest).map fun parsed => parsed.within inside
termination_by structural depth

/-- What a reader found, if nothing but blanks follows. -/
def complete {α : Type} {input : Bytes} (reading : Reading α input) : Except Fault α :=
  match reading with
  | .error fault => .error fault
  | .ok parsed => if (skipBlank parsed.rest).isEmpty then .ok parsed.value else .error .trailingText

def parse (input : Bytes) : Except Fault Json := complete (readValue depthLimit input)

end SchedulerLink.Json
