import SchedulerLink.Toml.Number
import SchedulerLink.Toml.Text

/-!
TOML documents.

A document is a sequence of lines that give a name a value in the table that was opened last, or
open another table. `Draft` is a document that is being put together: it remembers which tables were
only implied by longer names and which ones dotted names made, because those may still be added to
in their own way and all others may not.
-/

namespace SchedulerLink.Toml

/-- A document, or a part of one, that is being put together. -/
inductive Draft where
  | leaf (value : Toml)
  | table (implied dotted : Bool) (fields : List (String × Draft))
  | tables (items : List Draft)
  deriving Inhabited

namespace Draft

def empty : Draft := .table false false []

def setField (name : String) (field : Draft) :
    List (String × Draft) → List (String × Draft)
  | [] => [(name, field)]
  | (other, held) :: rest =>
    if name = other then (name, field) :: rest else (other, held) :: setField name field rest

/-- Changes the table that a path leads to. Tables that are missing are made; of tables under one
name the last one is meant. A dotted path may not lead into a table that was opened. -/
def alter {α : Type} (dotted : Bool) (change : Draft → Option (Draft × α)) :
    List String → Draft → Option (Draft × α)
  | [], draft => change draft
  | name :: path, .table implied isDotted fields => do
    let (field, found) ←
      match (fields.lookup name).getD (.table true dotted []) with
      | .leaf _ => none
      | .tables items => do
        let (last, found) ← alter dotted change path (← items.getLast?)
        pure (.tables (items.dropLast ++ [last]), found)
      | .table true isDotted fields => alter dotted change path (.table true isDotted fields)
      | .table false isDotted fields =>
        if dotted then none else alter dotted change path (.table false isDotted fields)
    pure (.table implied isDotted (setField name field fields), found)
  | _ :: _, _ => none

def assign (path : List String) (value : Toml) (draft : Draft) : Option Draft := do
  let name ← path.getLast?
  let above := path.dropLast
  let change : Draft → Option (Draft × Unit)
    | .table implied dotted fields =>
      if dotted = above.isEmpty ∨ (fields.lookup name).isSome then none
      else some (.table implied dotted (fields ++ [(name, .leaf value)]), ())
    | _ => none
  let (draft, _) ← alter true change above draft
  pure draft

mutual

def finish : Draft → Toml
  | .leaf value => value
  | .table _ _ fields => .table (finishFields fields)
  | .tables items => .array (finishItems items)

def finishFields : List (String × Draft) → List (String × Toml)
  | [] => []
  | (name, field) :: rest => (name, field.finish) :: finishFields rest

def finishItems : List Draft → List Toml
  | [] => []
  | item :: rest => item.finish :: finishItems rest

end

end Draft

/-! Values. -/

def skipBetween (remark : Bool) : List Char → List Char
  | '\n' :: rest => skipBetween false rest
  | '\r' :: '\n' :: rest => skipBetween false rest
  | character :: rest =>
    if remark then
      if isShown character then skipBetween true rest else character :: rest
    else if isBlank character then skipBetween false rest
    else if character = '#' then skipBetween true rest
    else character :: rest
  | [] => []

def readItems (readValue : List Char → Option (Toml × List Char)) (most : Nat) (text : List Char) :
    Option (List Toml × List Char) :=
  match most, skipBetween false text with
  | _, ']' :: rest => some ([], rest)
  | 0, _ => none
  | most + 1, text => do
    let (item, rest) ← readValue text
    match skipBetween false rest with
    | ',' :: rest => do
      let (items, rest) ← readItems readValue most rest
      pure (item :: items, rest)
    | ']' :: rest => pure ([item], rest)
    | _ => none

def readAssignment (readValue : List Char → Option (Toml × List Char)) (text : List Char) :
    Option ((List String × Toml) × List Char) := do
  let (name, rest) ← readName namePartLimit text
  match rest with
  | '=' :: rest => do
    let (value, rest) ← readValue (skipBlank rest)
    pure ((name, value), rest)
  | _ => none

def readFields (readValue : List Char → Option (Toml × List Char)) (most : Nat) (draft : Draft)
    (text : List Char) : Option (Draft × List Char) :=
  match most with
  | 0 => none
  | most + 1 => do
    let ((name, value), rest) ← readAssignment readValue text
    let draft ← draft.assign name value
    match skipBlank rest with
    | ',' :: rest => readFields readValue most draft rest
    | '}' :: rest => pure (draft, rest)
    | _ => none

def readTable (readValue : List Char → Option (Toml × List Char)) (text : List Char) :
    Option (Toml × List Char) :=
  match skipBlank text with
  | '}' :: rest => some (.table [], rest)
  | text => (readFields readValue text.length .empty text).map fun (draft, rest) =>
      (draft.finish, rest)

def depthLimit : Nat := 79

def readValue (depth : Nat) (text : List Char) : Option (Toml × List Char) :=
  match text with
  | '"' :: _ | '\'' :: _ =>
    (readText text).map fun (text, rest) => (.string (String.ofList text), rest)
  | '[' :: rest =>
    match depth with
    | 0 => none
    | depth + 1 => (readItems (readValue depth) rest.length rest).map fun (items, rest) =>
        (.array items, rest)
  | '{' :: rest =>
    match depth with
    | 0 => none
    | depth + 1 => readTable (readValue depth) rest
  | 't' :: 'r' :: 'u' :: 'e' :: rest => some (.boolean true, rest)
  | 'f' :: 'a' :: 'l' :: 's' :: 'e' :: rest => some (.boolean false, rest)
  | text => (readMoment text).orElse fun _ => readNumber text
termination_by structural depth

/-! Lines. -/

structure Progress where
  closed : Draft := .empty
  path : List String := []
  among : Bool := false
  current : Draft := .empty

namespace Progress

def close (progress : Progress) : Option Draft :=
  match progress.path.getLast? with
  | none => some progress.current
  | some name => do
    let change : Draft → Option (Draft × Unit)
      | .table implied dotted fields =>
        match progress.among, fields.lookup name with
        | true, none =>
          some (.table implied dotted (fields ++ [(name, .tables [progress.current])]), ())
        | true, some (.tables items) =>
          some (.table implied dotted
            (Draft.setField name (.tables (items ++ [progress.current])) fields), ())
        | false, none =>
          some (.table implied dotted (fields ++ [(name, progress.current)]), ())
        | _, some _ => none
      | _ => none
    let (draft, _) ← progress.closed.alter false change progress.path.dropLast
    pure draft

def openTable (progress : Progress) (path : List String) : Option Progress := do
  let closed ← progress.close
  let name ← path.getLast?
  let change : Draft → Option (Draft × Draft)
    | .table implied dotted fields =>
      match fields.lookup name with
      | none => some (.table implied dotted fields, .empty)
      | some (.table true false inner) =>
        some (.table implied dotted (fields.filter (·.1 ≠ name)), .table false false inner)
      | some _ => none
    | _ => none
  let (closed, current) ← closed.alter false change path.dropLast
  pure ⟨closed, path, false, current⟩

def openAmong (progress : Progress) (path : List String) : Option Progress := do
  let closed ← progress.close
  let name ← path.getLast?
  let change : Draft → Option (Draft × Unit)
    | .table implied dotted fields =>
      match fields.lookup name with
      | none | some (.tables _) => some (.table implied dotted fields, ())
      | some _ => none
    | _ => none
  let (closed, _) ← closed.alter false change path.dropLast
  pure ⟨closed, path, true, .empty⟩

end Progress

def readLine (progress : Progress) (text : List Char) : Option (Progress × List Char) :=
  match text with
  | '[' :: '[' :: rest => do
    let (path, rest) ← readName namePartLimit rest
    match rest with
    | ']' :: ']' :: rest => do pure (← progress.openAmong path, ← afterLine? rest)
    | _ => none
  | '[' :: rest => do
    let (path, rest) ← readName namePartLimit rest
    match rest with
    | ']' :: rest => do pure (← progress.openTable path, ← afterLine? rest)
    | _ => none
  | '#' :: _ | '\n' :: _ | '\r' :: _ => do pure (progress, ← afterLine? text)
  | text => do
    let ((name, value), rest) ← readAssignment (readValue depthLimit) text
    let current ← progress.current.assign name value
    pure ({ progress with current }, ← afterLine? rest)

def readLines (most : Nat) (progress : Progress) (text : List Char) : Option Progress :=
  match most, skipBlank text with
  | _, [] => some progress
  | 0, _ => none
  | most + 1, text => do
    let (progress, rest) ← readLine progress text
    readLines most progress rest

def skipMark : List Char → List Char
  | '\ufeff' :: rest => rest
  | text => text

def parse (document : String) : Option Toml := do
  let text := skipMark document.toList
  let progress ← readLines (text.length + 1) {} text
  pure (← progress.close).finish

end SchedulerLink.Toml
