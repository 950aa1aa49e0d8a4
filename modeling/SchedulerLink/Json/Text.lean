import SchedulerLink.Json.Number

/-!
Strings in JSON text, read from behind their opening quote.

`Text.content` undoes the escapes and stops behind the closing quote; only then is the result
required to be UTF-8. Code points above `FFFF` are written as two escapes, a leading and a trailing
surrogate. `Text.skip` passes over a string without looking at what it says.
-/

namespace SchedulerLink.Json.Text

open Ascii

def hexQuad (input : Bytes) : Reading Nat input :=
  match input with
  | one :: two :: three :: four :: rest =>
    match hexDigit? one, hexDigit? two, hexDigit? three, hexDigit? four with
    | some a, some b, some c, some d =>
      .ok ⟨4096 * a + 256 * b + 16 * c + d, rest, by simp only [List.length_cons]; omega⟩
    | _, _, _, _ => .error .badEscape
  | _ => .error .endInString

def encode (code : Nat) : Bytes := Bytes.ofString (String.singleton (Char.ofNat code))

/-- What must stand between a leading surrogate and the digits of its partner. -/
def partner (input : Bytes) : Except Fault { rest : Bytes // rest.length ≤ input.length } :=
  match input with
  | [] => .error .endInString
  | [backslash] => .error .endInString
  | backslash :: lowerU :: rest => .ok ⟨rest, by simp only [List.length_cons]; omega⟩
  | _ => .error .surrogateCutShort

/-- The code point written by the digits behind `\u`, and by those of a second escape when the first
is a leading surrogate. -/
def codePoint (input : Bytes) : Reading Bytes input :=
  match hexQuad input with
  | .error fault => .error fault
  | .ok ⟨first, afterFirst, shorter⟩ =>
    if 0xdc00 ≤ first ∧ first ≤ 0xdfff then .error .unpairedSurrogate
    else if first < 0xd800 ∨ 0xdbff < first then .ok ⟨encode first, afterFirst, shorter⟩
    else
      match partner afterFirst with
      | .error fault => .error fault
      | .ok ⟨middle, inside⟩ =>
        match hexQuad middle with
        | .error fault => .error fault
        | .ok ⟨second, rest, within⟩ =>
          if second < 0xdc00 ∨ 0xdfff < second then .error .unpairedSurrogate
          else
            .ok ⟨encode (0x10000 + 1024 * (first - 0xd800) + (second - 0xdc00)), rest, by omega⟩

def escape (input : Bytes) : Reading Bytes input :=
  let plain (octet : UInt8) (letter : UInt8) (rest : Bytes) : Reading Bytes (letter :: rest) :=
    .ok ⟨[octet], rest, Bytes.length_lt_cons letter rest⟩
  match input with
  | [] => .error .endInString
  | quote :: rest => plain quote quote rest
  | backslash :: rest => plain backslash backslash rest
  | slash :: rest => plain slash slash rest
  | lowerB :: rest => plain backspace lowerB rest
  | lowerF :: rest => plain formFeed lowerF rest
  | lowerN :: rest => plain newline lowerN rest
  | lowerR :: rest => plain carriageReturn lowerR rest
  | lowerT :: rest => plain tab lowerT rest
  | lowerU :: rest =>
    (codePoint rest).map fun parsed => parsed.within (Bytes.length_le_cons lowerU rest)
  | _ => .error .badEscape

def content (input : Bytes) : Reading Bytes input :=
  match input with
  | [] => .error .endInString
  | quote :: rest => .ok ⟨[], rest, by simp⟩
  | backslash :: rest =>
    match escape rest with
    | .error fault => .error fault
    | .ok ⟨octets, afterEscape, shorter⟩ =>
      (content afterEscape).map fun parsed =>
        ⟨octets ++ parsed.value, parsed.rest, by
          have := parsed.shorter; simp only [List.length_cons]; omega⟩
  | octet :: rest =>
    if octet < 0x20 then .error .controlCharacter
    else
      (content rest).map fun parsed =>
        ⟨octet :: parsed.value, parsed.rest, by
          have := parsed.shorter; simp only [List.length_cons]; omega⟩
termination_by input.length

def read (input : Bytes) : Reading String input :=
  match content input with
  | .error fault => .error fault
  | .ok ⟨octets, rest, shorter⟩ =>
    match Bytes.toString? octets with
    | some text => .ok ⟨text, rest, shorter⟩
    | none => .error .badCharacter

/-- The length of an escape, checked no further than its letter and hexadecimal digits. -/
def skipEscape (input : Bytes) : Reading Unit input :=
  match input with
  | [] => .error .endInString
  | lowerU :: rest => (hexQuad rest).map fun parsed => ⟨(), parsed.rest, by
      have := parsed.shorter; simp only [List.length_cons]; omega⟩
  | letter :: rest =>
    if letter ∈ [quote, backslash, slash, lowerB, lowerF, lowerN, lowerR, lowerT] then
      .ok ⟨(), rest, by simp⟩
    else .error .badEscape

def skip (input : Bytes) : Reading Unit input :=
  match input with
  | [] => .error .endInString
  | quote :: rest => .ok ⟨(), rest, by simp⟩
  | backslash :: rest =>
    match skipEscape rest with
    | .error fault => .error fault
    | .ok ⟨_, afterEscape, shorter⟩ =>
      (skip afterEscape).map fun parsed => parsed.within (by simp only [List.length_cons]; omega)
  | octet :: rest =>
    if octet < 0x20 then .error .controlCharacter
    else (skip rest).map fun parsed => parsed.within (by simp)
termination_by input.length

end SchedulerLink.Json.Text
