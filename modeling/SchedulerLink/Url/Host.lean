import SchedulerLink.Text.Blank
import SchedulerLink.Url.Percent
import SchedulerLink.Url.Punycode

/-!
Hosts of addresses: names, IPv4 addresses in any of their spellings, and IPv6 addresses.

Names in ASCII and numbers are read as the standard of addresses has it. For names beyond ASCII
`Domain.fold` is an approximation.
-/

namespace SchedulerLink

inductive UrlFault where
  | emptyHost
  | badDomain
  | badPort
  | badIpv4
  | badIpv6
  | badHostCharacter
  | noScheme
  | noPathToJoin
  deriving DecidableEq, Repr

def UrlFault.message : UrlFault → String
  | .emptyHost => "empty host"
  | .badDomain => "invalid international domain name"
  | .badPort => "invalid port number"
  | .badIpv4 => "invalid IPv4 address"
  | .badIpv6 => "invalid IPv6 address"
  | .badHostCharacter => "invalid domain character"
  | .noScheme => "relative URL without a base"
  | .noPathToJoin => "relative URL with a cannot-be-a-base base"

inductive Host where
  | name (text : String)
  | ipv4 (address : Nat)
  | ipv6 (pieces : List Nat)
  deriving DecidableEq, Repr

namespace Ipv4

def numeral? (base : Nat) (text : List Char) : Option Nat :=
  text.foldl (fun value character => do
    let digit ← Ascii.hexDigit? character.toUInt8
    if character.toNat < 128 ∧ digit < base then some (base * (← value) + digit) else none) (some 0)

/-- A number in decimal, octal or hexadecimal. -/
def number? : List Char → Option Nat
  | [] => none
  | '0' :: 'x' :: digits => numeral? 16 digits
  | '0' :: 'X' :: digits => numeral? 16 digits
  | '0' :: digit :: digits => numeral? 8 (digit :: digits)
  | digits => numeral? 10 digits

def parts (name : List Char) : List (List Char) :=
  let parts := Text.splitAt (· = '.') name
  if 1 < parts.length ∧ parts.getLast? = some [] then parts.dropLast else parts

def isMeant (name : List Char) : Bool :=
  match (parts name).getLast? with
  | some last => (!last.isEmpty && last.all Char.isDigit) || (number? last).isSome
  | none => false

/-- The address of four numbers, or of fewer whose last one fills the places of those missing. -/
def ofNumbers (numbers : List Nat) : Option Nat :=
  match numbers.reverse with
  | [] => none
  | last :: leading =>
    let leading := leading.reverse
    if 4 < numbers.length then none
    else if Nat.pow 256 (4 - leading.length) ≤ last then none
    else if leading.any (255 < ·) then none
    else
      some (leading.zipIdx.foldl (fun sum (number, place) => sum + number * Nat.pow 256 (3 - place))
        last)

def parse (name : List Char) : Except UrlFault Host :=
  match (parts name).mapM number? with
  | none => .error .badIpv4
  | some numbers =>
    match ofNumbers numbers with
    | none => .error .badIpv4
    | some address => .ok (.ipv4 address)

def text (address : Nat) : String :=
  ".".intercalate ([3, 2, 1, 0].map fun place => toString (address / Nat.pow 256 place % 256))

end Ipv4

namespace Ipv6

def piece? (digits : List Char) : Option Nat :=
  if digits.isEmpty ∨ 4 < digits.length then none else Ipv4.numeral? 16 digits

def octet? (digits : List Char) : Option Nat :=
  if digits.isEmpty ∨ 3 < digits.length ∨ (1 < digits.length ∧ digits.head? = some '0') then none
  else (Ipv4.numeral? 10 digits).filter (· < 256)

def dotted? (text : List Char) : Option (List Nat) :=
  match (Text.splitAt (· = '.') text).mapM octet? with
  | some [first, second, third, fourth] => some [256 * first + second, 256 * third + fourth]
  | _ => none

def pieces? : List (List Char) → Option (List Nat)
  | [] => some []
  | [last] => if last.contains '.' then dotted? last else (piece? last).map ([·])
  | part :: rest => do pure ((← piece? part) :: (← pieces? rest))

def side? (text : List Char) : Option (List Nat) :=
  if text.isEmpty then some [] else pieces? (Text.splitAt (· = ':') text)

def splitGap : List Char → Option (List Char × List Char)
  | ':' :: ':' :: rest => some ([], rest)
  | character :: rest => (splitGap rest).map fun (front, back) => (character :: front, back)
  | [] => none

/-- The eight pieces that a text spells; a double colon stands for the zeros that are missing. -/
def parse? (text : List Char) : Option (List Nat) :=
  match splitGap text with
  | none => (side? text).filter (·.length = 8)
  | some (front, back) => do
    if front.contains '.' then none
    else
      let left ← side? front
      let right ← side? back
      if 8 ≤ left.length + right.length then none
      else pure (left ++ List.replicate (8 - left.length - right.length) 0 ++ right)

def zeroRuns : List Nat → List Nat
  | [] => []
  | piece :: rest =>
    let runs := zeroRuns rest
    (if piece = 0 then runs.headD 0 + 1 else 0) :: runs

def longestRun (pieces : List Nat) : Option (Nat × Nat) :=
  (zeroRuns pieces).zipIdx.foldl (fun best (length, place) =>
    match best with
    | some (_, known) => if known < length then some (place, length) else best
    | none => if 1 < length then some (place, length) else none) none

def joined (pieces : List Nat) : String :=
  ":".intercalate (pieces.map fun piece => String.ofList (Nat.toDigits 16 piece))

def text (pieces : List Nat) : String :=
  match longestRun pieces with
  | none => joined pieces
  | some (place, length) =>
    joined (pieces.take place) ++ "::" ++ joined (pieces.drop (place + length))

end Ipv6

namespace Domain

def isForbidden (character : Char) : Bool :=
  character.toNat ≤ 0x20 || character.toNat = 0x7f ||
    ['%', '#', '/', ':', '<', '>', '?', '@', '[', '\\', ']', '^', '|'].contains character

/-- What a character of a name is read as: lower case, the plain form of a wide letter, a dot, or
nothing at all. Beyond ASCII this approximates the mapping of international names, which is made by
a library and reads a table of all of Unicode: the cases are those of Latin, Greek and Cyrillic
letters. Other compatibility forms, the composition of marks and the letters that no name may have
are left as they are. -/
def fold (character : Char) : List Char :=
  let code := character.toNat
  let shifted (distance : Nat) : List Char := [Char.ofNat (code + distance)]
  if code = 0xad ∨ code = 0x200b ∨ code = 0x2060 ∨ code = 0xfeff ∨
      (0xfe00 ≤ code ∧ code ≤ 0xfe0f) then
    []
  else if code = 0x3002 ∨ code = 0xff0e ∨ code = 0xff61 then ['.']
  else if 0xff01 ≤ code ∧ code ≤ 0xff5e then [(Char.ofNat (code - 0xfee0)).toLower]
  else if 0xc0 ≤ code ∧ code ≤ 0xde ∧ code ≠ 0xd7 then shifted 32
  else if 0x391 ≤ code ∧ code ≤ 0x3a9 ∧ code ≠ 0x3a2 then shifted 32
  else if 0x410 ≤ code ∧ code ≤ 0x42f then shifted 32
  else if 0x400 ≤ code ∧ code ≤ 0x40f then shifted 80
  else if code = 0x178 then [Char.ofNat 0xff]
  else if 0x100 ≤ code ∧ code ≤ 0x137 ∧ code ≠ 0x130 ∧ code ≠ 0x131 ∧ code % 2 = 0 then shifted 1
  else if 0x14a ≤ code ∧ code ≤ 0x177 ∧ code % 2 = 0 then shifted 1
  else if ((0x139 ≤ code ∧ code ≤ 0x148) ∨ (0x179 ≤ code ∧ code ≤ 0x17e)) ∧ code % 2 = 1 then
    shifted 1
  else [character.toLower]

/-- Whether a label in ASCII stands for a label that is written as it would be read. -/
def isEncoded (label : List Char) : Bool :=
  match Punycode.decode label with
  | none => false
  | some decoded =>
    decoded.any (fun character => 128 ≤ character.toNat) && decoded.flatMap fold = decoded

def encodeLabel (label : List Char) : Except UrlFault (List Char) :=
  if label.any fun character => 128 ≤ character.toNat then
    .ok (['x', 'n', '-', '-'] ++ Punycode.encode label)
  else
    match label with
    | 'x' :: 'n' :: '-' :: '-' :: rest => if isEncoded rest then .ok label else .error .badDomain
    | label => .ok label

def normalize (name : List Char) : Except UrlFault (List Char) := do
  let folded := name.flatMap fold
  let labels ← (Text.splitAt (· = '.') folded).mapM encodeLabel
  let encoded := ['.'].intercalate labels
  if encoded.any isForbidden then throw .badDomain
  pure encoded

end Domain

namespace Host

def parseBracketed (text : List Char) : Except UrlFault Host :=
  match text.getLast?, Ipv6.parse? text.dropLast with
  | some ']', some pieces => .ok (.ipv6 pieces)
  | _, _ => .error .badIpv6

def parse (text : List Char) : Except UrlFault Host :=
  match text with
  | '[' :: rest => parseBracketed rest
  | text =>
    match Bytes.toString? (Percent.decode (Bytes.ofString (String.ofList text))) with
    | none => .error .badDomain
    | some decoded => do
      let name ← Domain.normalize decoded.toList
      if name.isEmpty then throw .emptyHost
      if Ipv4.isMeant name then Ipv4.parse name else pure (.name (String.ofList name))

def isForbidden (character : Char) : Bool :=
  ['\x00', '\t', '\n', '\r', ' ', '#', '/', ':', '<', '>', '?', '@', '[', '\\', ']', '^',
    '|'].contains character

/-- A host of an address of a scheme that nothing is known about. -/
def parseUnknown (text : List Char) : Except UrlFault Host :=
  match text with
  | '[' :: rest => parseBracketed rest
  | text =>
    if text.any isForbidden then .error .badHostCharacter
    else .ok (.name (String.ofList (Percent.encode Percent.isControl text)))

def text : Host → String
  | .name text => text
  | .ipv4 address => Ipv4.text address
  | .ipv6 pieces => "[" ++ Ipv6.text pieces ++ "]"

def isEmpty : Host → Bool
  | .name text => text.isEmpty
  | _ => false

end Host

end SchedulerLink
