/-!
Octet sequences as they travel on a connection or lie in a file, and the ASCII letters that the
textual formats of this library are made of.

A `String` is its UTF-8 octets together with their validity, so `Bytes.ofString` loses nothing and
`Bytes.toString?` succeeds exactly on valid UTF-8.
-/

namespace SchedulerLink

abbrev Bytes := List UInt8

/-! ASCII octets that formats single out, usable as patterns. -/

namespace Ascii

@[match_pattern] abbrev backspace : UInt8 := 0x08
@[match_pattern] abbrev tab : UInt8 := 0x09
@[match_pattern] abbrev newline : UInt8 := 0x0a
@[match_pattern] abbrev formFeed : UInt8 := 0x0c
@[match_pattern] abbrev carriageReturn : UInt8 := 0x0d
@[match_pattern] abbrev space : UInt8 := 0x20
@[match_pattern] abbrev quote : UInt8 := 0x22
@[match_pattern] abbrev plus : UInt8 := 0x2b
@[match_pattern] abbrev comma : UInt8 := 0x2c
@[match_pattern] abbrev minus : UInt8 := 0x2d
@[match_pattern] abbrev dot : UInt8 := 0x2e
@[match_pattern] abbrev slash : UInt8 := 0x2f
@[match_pattern] abbrev zero : UInt8 := 0x30
@[match_pattern] abbrev colon : UInt8 := 0x3a
@[match_pattern] abbrev upperE : UInt8 := 0x45
@[match_pattern] abbrev openBracket : UInt8 := 0x5b
@[match_pattern] abbrev backslash : UInt8 := 0x5c
@[match_pattern] abbrev closeBracket : UInt8 := 0x5d
@[match_pattern] abbrev lowerB : UInt8 := 0x62
@[match_pattern] abbrev lowerE : UInt8 := 0x65
@[match_pattern] abbrev lowerF : UInt8 := 0x66
@[match_pattern] abbrev lowerN : UInt8 := 0x6e
@[match_pattern] abbrev lowerR : UInt8 := 0x72
@[match_pattern] abbrev lowerT : UInt8 := 0x74
@[match_pattern] abbrev lowerU : UInt8 := 0x75
@[match_pattern] abbrev openBrace : UInt8 := 0x7b
@[match_pattern] abbrev closeBrace : UInt8 := 0x7d

def digit? (octet : UInt8) : Option Nat :=
  if zero ≤ octet ∧ octet ≤ 0x39 then some (octet.toNat - 48) else none

def hexDigit? (octet : UInt8) : Option Nat :=
  if zero ≤ octet ∧ octet ≤ 0x39 then some (octet.toNat - 48)
  else if 0x41 ≤ octet ∧ octet ≤ 0x46 then some (octet.toNat - 55)
  else if 0x61 ≤ octet ∧ octet ≤ 0x66 then some (octet.toNat - 87)
  else none

def isDigit (octet : UInt8) : Bool := (digit? octet).isSome

def hexDigit (value : Nat) : UInt8 :=
  if value < 10 then (48 + value).toUInt8 else (87 + value).toUInt8

end Ascii

namespace Bytes

def ofString (text : String) : Bytes := text.toByteArray.data.toList

def toString? (bytes : Bytes) : Option String := String.fromUTF8? ⟨bytes.toArray⟩

theorem toString?_ofString (text : String) : toString? (ofString text) = some text := by
  have valid : (⟨text.toByteArray.data.toList.toArray⟩ : ByteArray).IsValidUTF8 := by
    simpa using text.isValidUTF8
  simp [toString?, ofString, String.fromUTF8?, valid, String.fromUTF8]

theorem length_lt_cons (octet : UInt8) (rest : Bytes) : rest.length < (octet :: rest).length := by
  simp

theorem length_le_cons (octet : UInt8) (rest : Bytes) : rest.length ≤ (octet :: rest).length :=
  Nat.le_of_lt (length_lt_cons octet rest)

def ofHex? : List Char → Option Bytes
  | [] => some []
  | [_] => none
  | high :: low :: rest => do
    let upper ← Ascii.hexDigit? high.toUInt8
    let lower ← Ascii.hexDigit? low.toUInt8
    let tail ← ofHex? rest
    pure ((16 * upper + lower).toUInt8 :: tail)

/-- How many octets form the longest beginning of a character that `bytes` start with, and whether
that beginning is the whole character. The ranges of the second octet exclude overlong forms,
surrogates and code points above `10FFFF`. -/
private def leadingSequence : Bytes → Nat × Bool
  | [] => (0, false)
  | first :: rest =>
    let continues (low high : UInt8) (octets : Bytes) : Bool :=
      octets.head?.any fun octet => low ≤ octet && octet ≤ high
    let tails (low high : UInt8) (wanted : Nat) : Nat × Bool :=
      if !continues low high rest then (1, false)
      else if wanted = 1 then (2, true)
      else if !continues 0x80 0xbf (rest.drop 1) then (2, false)
      else if wanted = 2 then (3, true)
      else if !continues 0x80 0xbf (rest.drop 2) then (3, false)
      else (4, true)
    if first < 0x80 then (1, true)
    else if first < 0xc2 then (1, false)
    else if first < 0xe0 then tails 0x80 0xbf 1
    else if first = 0xe0 then tails 0xa0 0xbf 2
    else if first = 0xed then tails 0x80 0x9f 2
    else if first < 0xf0 then tails 0x80 0xbf 2
    else if first = 0xf0 then tails 0x90 0xbf 3
    else if first < 0xf4 then tails 0x80 0xbf 3
    else if first = 0xf4 then tails 0x80 0x8f 3
    else (1, false)

private def lossyParts : Nat → Bytes → List String
  | 0, _ => []
  | _, [] => []
  | steps + 1, bytes =>
    let (length, whole) := leadingSequence bytes
    let part := if whole then (toString? (bytes.take length)).getD "\ufffd" else "\ufffd"
    part :: lossyParts steps (bytes.drop length)

/-- The text of a sequence of octets in which every longest broken beginning of a character is shown
as one replacement character. -/
def toStringLossy (bytes : Bytes) : String :=
  match toString? bytes with
  | some text => text
  | none => String.join (lossyParts bytes.length bytes)

end Bytes

end SchedulerLink
