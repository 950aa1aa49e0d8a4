/-!
Labels of host names in ASCII.

The characters beyond ASCII are inserted one after the other in increasing order. What is written is
how many insertions of a smaller character or at an earlier place are passed over, as a number of
variable length to the base thirty-six whose digits are limited by a running estimate.
-/

namespace SchedulerLink.Punycode

def digit (value : Nat) : Char :=
  if value < 26 then Char.ofNat (97 + value) else Char.ofNat (22 + value)

def digit? (character : Char) : Option Nat :=
  if 'a' ≤ character ∧ character ≤ 'z' then some (character.toNat - 97)
  else if 'A' ≤ character ∧ character ≤ 'Z' then some (character.toNat - 65)
  else if character.isDigit then some (character.toNat - 22)
  else none

def threshold (place estimate : Nat) : Nat :=
  if place ≤ estimate then 1 else if estimate + 26 ≤ place then 26 else place - estimate

theorem threshold_bounds (place estimate : Nat) :
    1 ≤ threshold place estimate ∧ threshold place estimate ≤ 26 := by
  unfold threshold
  repeat' split
  all_goals omega

def scale (difference steps : Nat) : Nat × Nat :=
  if 455 < difference then scale (difference / 35) (steps + 36) else (difference, steps)
termination_by difference
decreasing_by exact Nat.div_lt_self (by omega) (by omega)

def adapt (difference count : Nat) (first : Bool) : Nat :=
  let halved := if first then difference / 700 else difference / 2
  let (scaled, steps) := scale (halved + halved / count) 0
  steps + 36 * scaled / (scaled + 38)

def encodeNumber (estimate place value : Nat) : List Char :=
  let limit := threshold place estimate
  if value < limit then [digit value]
  else
    digit (limit + (value - limit) % (36 - limit)) ::
      encodeNumber estimate (place + 36) ((value - limit) / (36 - limit))
termination_by value
decreasing_by
  have := threshold_bounds place estimate
  calc (value - threshold place estimate) / (36 - threshold place estimate)
      ≤ value - threshold place estimate := Nat.div_le_self _ _
    _ < value := by omega

structure Progress where
  written : List Char
  difference : Nat
  estimate : Nat
  inserted : Nat

def Progress.pass (plain code : Nat) (progress : Progress) (character : Char) : Progress :=
  if character.toNat < code then { progress with difference := progress.difference + 1 }
  else if character.toNat = code then
    ⟨progress.written ++ encodeNumber progress.estimate 36 progress.difference, 0,
      adapt progress.difference (progress.inserted + 1) (progress.inserted = plain),
      progress.inserted + 1⟩
  else progress

def insertAll (label : List Char) (plain : Nat) : List Nat → Nat → Progress → Progress
  | [], _, progress => progress
  | code :: codes, next, progress =>
    let difference := progress.difference + (code - next) * (progress.inserted + 1)
    let passed := label.foldl (Progress.pass plain code) { progress with difference }
    insertAll label plain codes (code + 1) { passed with difference := passed.difference + 1 }

def insertSorted (value : Nat) : List Nat → List Nat
  | [] => [value]
  | other :: rest =>
    if value < other then value :: other :: rest
    else if value = other then other :: rest
    else other :: insertSorted value rest

def encode (label : List Char) : List Char :=
  let ascii := label.filter fun character => character.toNat < 128
  let codes := (label.filter fun character => 128 ≤ character.toNat).foldl
    (fun held character => insertSorted character.toNat held) []
  ascii ++ (if ascii.isEmpty then [] else ['-']) ++
    (insertAll label ascii.length codes 128 ⟨[], 0, 72, ascii.length⟩).written

def decodeNumber (estimate place weight value : Nat) : List Char → Option (Nat × List Char)
  | [] => none
  | character :: rest =>
    match digit? character with
    | none => none
    | some read =>
      let limit := threshold place estimate
      let value := value + read * weight
      if read < limit then some (value, rest)
      else decodeNumber estimate (place + 36) (weight * (36 - limit)) value rest

/-- Reads at most `steps` insertions into `label`. -/
def decodeInsertions (steps : Nat) (label : List Char) (code place estimate : Nat) (first : Bool)
    (text : List Char) : Option (List Char) :=
  match steps, text with
  | _, [] => some label
  | 0, _ :: _ => none
  | steps + 1, character :: rest =>
    match decodeNumber estimate 36 1 0 (character :: rest) with
    | none => none
    | some (value, rest) =>
      let count := label.length + 1
      let next := code + (place + value) / count
      let inserted := (place + value) % count
      if 0x10ffff < next then none
      else
        decodeInsertions steps (label.take inserted ++ Char.ofNat next :: label.drop inserted) next
          (inserted + 1) (adapt value count first) false rest

def decode (text : List Char) : Option (List Char) :=
  let behind := (text.reverse.takeWhile (· ≠ '-')).reverse
  let plain := (text.take (text.length - behind.length)).dropLast
  if plain.all fun character => character.toNat < 128 then
    decodeInsertions behind.length plain 128 0 72 true behind
  else none

end SchedulerLink.Punycode
