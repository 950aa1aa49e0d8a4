import SchedulerLink.Bytes
import SchedulerLink.Decimal.Shortest
import SchedulerLink.Json.Basic

/-!
JSON values to text.

`Json.encode` writes no blanks and escapes only what must not stand in a string: quotes,
backslashes and the characters below `20`. `Json.encodeIndented` puts every item and field on a line
of its own.
-/

namespace SchedulerLink.Json

open Ascii

/-- Floats are written positionally from `1e-5` up to sixteen places before the point, always with a
point. -/
def floatLayout : Decimal.Layout where
  widest := 16
  deepest := 4

def escapeOctet (octet : UInt8) : Bytes :=
  match octet with
  | quote => [backslash, quote]
  | backslash => [backslash, backslash]
  | backspace => [backslash, lowerB]
  | tab => [backslash, lowerT]
  | newline => [backslash, lowerN]
  | formFeed => [backslash, lowerF]
  | carriageReturn => [backslash, lowerR]
  | octet =>
    if octet < 0x20 then
      [backslash, lowerU, zero, zero, hexDigit (octet.toNat / 16), hexDigit (octet.toNat % 16)]
    else [octet]

def encodeText (text : String) : Bytes :=
  quote :: (Bytes.ofString text).flatMap escapeOctet ++ [quote]

def encodeInt (value : Int) : Bytes := Bytes.ofString (toString value)

def encodeFloat (value : Binary64) : Bytes := Bytes.ofString (value.render floatLayout)

mutual

def encode : Json → Bytes
  | .null => Bytes.ofString "null"
  | .bool true => Bytes.ofString "true"
  | .bool false => Bytes.ofString "false"
  | .int value => encodeInt value
  | .float value => encodeFloat value
  | .str text => encodeText text
  | .arr items => openBracket :: encodeItems items ++ [closeBracket]
  | .obj fields => openBrace :: encodeFields fields ++ [closeBrace]

def encodeItems : List Json → Bytes
  | [] => []
  | [item] => encode item
  | item :: more :: rest => encode item ++ comma :: encodeItems (more :: rest)

def encodeFields : List (String × Json) → Bytes
  | [] => []
  | [(name, value)] => encodeText name ++ colon :: encode value
  | (name, value) :: more :: rest =>
    encodeText name ++ colon :: encode value ++ comma :: encodeFields (more :: rest)

end

def compact (value : Json) : String := Bytes.toStringLossy value.encode

def lineBreak (level : Nat) : Bytes := newline :: List.replicate (2 * level) space

mutual

/-- The text of a value on a line of the given level, with two blanks for each level. -/
def encodeAtLevel (level : Nat) : Json → Bytes
  | .arr (item :: rest) =>
    openBracket :: encodeItemLines (level + 1) (item :: rest) ++ lineBreak level ++ [closeBracket]
  | .obj (field :: rest) =>
    openBrace :: encodeFieldLines (level + 1) (field :: rest) ++ lineBreak level ++ [closeBrace]
  | value => encode value

def encodeItemLines (level : Nat) : List Json → Bytes
  | [] => []
  | [item] => lineBreak level ++ encodeAtLevel level item
  | item :: more :: rest =>
    lineBreak level ++ encodeAtLevel level item ++ comma :: encodeItemLines level (more :: rest)

def encodeFieldLines (level : Nat) : List (String × Json) → Bytes
  | [] => []
  | [(name, value)] =>
    lineBreak level ++ encodeText name ++ colon :: space :: encodeAtLevel level value
  | (name, value) :: more :: rest =>
    lineBreak level ++ encodeText name ++ colon :: space :: encodeAtLevel level value ++
      comma :: encodeFieldLines level (more :: rest)

end

def encodeIndented (value : Json) : String := Bytes.toStringLossy (encodeAtLevel 0 value)

end SchedulerLink.Json
