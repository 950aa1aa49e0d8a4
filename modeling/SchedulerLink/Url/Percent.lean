import SchedulerLink.Bytes

/-!
Percent encoding: octets that may not stand in a part of an address are written as `%` and two
hexadecimal digits.
-/

namespace SchedulerLink.Percent

def upperHexDigit (value : Nat) : Char :=
  Char.ofNat (if value < 10 then 48 + value else 55 + value)

def encodeOctet (octet : UInt8) : List Char :=
  ['%', upperHexDigit (octet.toNat / 16), upperHexDigit (octet.toNat % 16)]

def isControl (character : Char) : Bool := character.toNat < 0x20 || 0x7e < character.toNat

def inPath (character : Char) : Bool :=
  isControl character || [' ', '"', '<', '>', '\x60', '#', '?', '\x7b', '\x7d'].contains character

def inUserInfo (character : Char) : Bool :=
  inPath character || ['/', ':', ';', '=', '@', '[', '\\', ']', '^', '|'].contains character

def encodeChar (encoded : Char → Bool) (character : Char) : List Char :=
  if encoded character then (Bytes.ofString character.toString).flatMap encodeOctet
  else [character]

def encode (encoded : Char → Bool) (text : List Char) : List Char :=
  text.flatMap (encodeChar encoded)

def decode : Bytes → Bytes
  | 0x25 :: high :: low :: rest =>
    match Ascii.hexDigit? high, Ascii.hexDigit? low with
    | some upper, some lower => (16 * upper + lower).toUInt8 :: decode rest
    | _, _ => 0x25 :: decode (high :: low :: rest)
  | octet :: rest => octet :: decode rest
  | [] => []

end SchedulerLink.Percent
