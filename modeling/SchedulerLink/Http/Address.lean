import SchedulerLink.Channel.TransferFault
import SchedulerLink.Url.Address

/-!
Addresses that requests are sent to.

An address names a host, a port and a target. Blanks and controls may not stand in it, a host has no
punctuation other than dots, hyphens and underscores, and dot segments of the target's path are
resolved. `HttpAddress.resolve` reads a location relative to the address that it was sent from.
-/

namespace SchedulerLink

/-- An address that requests can be sent to. -/
structure HttpAddress where
  secure : Bool := false
  userInfo : Option (List Char × List Char) := none
  host : String
  port : Option Nat := none
  target : List Char := ['/']
  deriving DecidableEq, Repr

namespace HttpAddress

def usualPort (secure : Bool) : Nat := if secure then 443 else 80

def portNumber (address : HttpAddress) : Nat := address.port.getD (usualPort address.secure)

def samePeer (one other : HttpAddress) : Bool :=
  one.secure = other.secure && one.host.toLower = other.host.toLower &&
    one.portNumber = other.portNumber

/-! Hosts and ports. -/

def hostExclusions : List Char :=
  " \r\n\t/:#?!@\x7b\x7d[]\\$'\"^\x60*<>=;,+&()%".toList

/-- The host that a text spells. The numbers of an address are written out. -/
def readHost (text : List Char) : Except TransferFault String :=
  match text with
  | '[' :: rest =>
    match rest.getLast?, Ipv6.parse? rest.dropLast with
    | some ']', some pieces => .ok (Host.ipv6 pieces).text
    | _, _ => .error .badUrl
  | [] => .error .badUrl
  | text =>
    match ((Text.splitAt (· = '.') text).mapM Ipv4.number?).bind Ipv4.ofNumbers with
    | some number => .ok (Ipv4.text number)
    | none =>
      match Bytes.toString? (Percent.decode (Bytes.ofString (String.ofList text))) with
      | none => .error .badUrl
      | some host =>
        if host.toList.any fun character => hostExclusions.contains character then .error .badUrl
        else .ok host

def readPort (text : List Char) : Except TransferFault (Option Nat) :=
  if text.isEmpty then .ok none
  else if text.all Char.isDigit then
    let port := text.foldl (fun value digit => 10 * value + (digit.toNat - 48)) 0
    if port < 0x10000 then .ok (some port) else .error .badUrl
  else .error .badUrl

def splitPort (authority : List Char) : List Char × Option (List Char) :=
  let host :=
    match authority with
    | '[' :: _ =>
      let inside := authority.takeWhile (· ≠ ']')
      inside ++ ((authority.drop inside.length).takeWhile (· ≠ ':'))
    | _ => authority.takeWhile (· ≠ ':')
  match authority.drop host.length with
  | _ :: port => (host, some port)
  | [] => (host, none)

def readUserInfo (info : List Char) : List Char × List Char :=
  let name := info.takeWhile (· ≠ ':')
  (name, (info.drop name.length).drop 1)

/-! Targets. -/

/-- A path's segments without dot segments; a dot segment at the end leaves an empty one. -/
def resolveDots (held : List (List Char)) : List (List Char) → List (List Char)
  | [] => held
  | [last] =>
    if last = ['.'] then held ++ [[]]
    else if last = ['.', '.'] then held.dropLast ++ [[]]
    else held ++ [last]
  | segment :: rest =>
    if segment = ['.'] then resolveDots held rest
    else if segment = ['.', '.'] then resolveDots held.dropLast rest
    else resolveDots (held ++ [segment]) rest

def readTarget (text : List Char) : List Char :=
  let text := text.takeWhile (· ≠ '#')
  let path := text.takeWhile (· ≠ '?')
  let segments := (Text.splitAt (· = '/') path).drop 1
  (resolveDots [] segments).flatMap ('/' :: ·) ++
    (if segments.isEmpty then ['/'] else []) ++ text.drop path.length

/-! Whole addresses. -/

def readAuthority (secure : Bool) (text : List Char) : Except TransferFault HttpAddress := do
  let authority := text.takeWhile fun character => character ∉ ['/', '?', '#']
  let info := authority.takeWhile (· ≠ '@')
  let named := info.length < authority.length
  let (hostText, portText) :=
    splitPort (if named then authority.drop (info.length + 1) else authority)
  let port ← readPort (portText.getD [])
  let host ← readHost hostText
  pure { secure, userInfo := if named then some (readUserInfo info) else none, host, port
         target := readTarget (text.drop authority.length) }

def isExcluded (character : Char) : Bool := character.toNat ≤ 0x20 || character.toNat = 0x7f

/-- Reads an address with a scheme. Between one and three slashes follow the scheme. -/
def readSchemed (scheme : String) (rest : List Char) : Except TransferFault HttpAddress :=
  let behind := rest.dropWhile (· = '/')
  let slashes := rest.length - behind.length
  if slashes = 0 ∨ 3 < slashes then .error .badUrl
  else if scheme = "http" then readAuthority false behind
  else if scheme = "https" then readAuthority true behind
  else .error .unsupportedProtocol

def parse (text : String) : Except TransferFault HttpAddress :=
  if text.toList.any isExcluded then .error .badUrl
  else
    match Url.splitScheme text.toList with
    | some (scheme, rest) => readSchemed scheme rest
    | none => .error .badUrl

def account? (address : HttpAddress) : Except TransferFault (Option Bytes) :=
  match address.userInfo with
  | none => .ok none
  | some (name, word) =>
    let decoded (text : List Char) := Percent.decode (Bytes.ofString (String.ofList text))
    if (decoded name ++ decoded word).any (· < 0x20) then .error .badUrl
    else .ok (some (decoded name ++ Ascii.colon :: decoded word))

/-- A location in ASCII: octets beyond it are encoded, and so is a blank. -/
def encodeLocation (inQuery : Bool) : Bytes → List Char
  | [] => []
  | octet :: rest =>
    let inQuery := inQuery || octet = 0x3f
    let written :=
      if octet = Ascii.space then (if inQuery then ['+'] else ['%', '2', '0'])
      else if octet < 0x80 then [Char.ofNat octet.toNat]
      else (Percent.encodeOctet octet).map Char.toLower
    written ++ encodeLocation inQuery rest

def directory (address : HttpAddress) : List Char :=
  let path := address.target.takeWhile (· ≠ '?')
  (path.reverse.dropWhile (· ≠ '/')).reverse

/-- The address that a location leads to from an address. -/
def resolve (address : HttpAddress) (location : Bytes) : Except TransferFault HttpAddress :=
  let text := encodeLocation false location
  if text.any isExcluded then .error .badUrl
  else
    match Url.splitScheme text with
    | some (scheme, rest) => readSchemed scheme rest
    | none =>
      match text with
      | '/' :: '/' :: rest => readAuthority address.secure rest
      | '/' :: _ => .ok { address with target := readTarget text }
      | '?' :: _ =>
        .ok { address with target := readTarget (address.target.takeWhile (· ≠ '?') ++ text) }
      | _ => .ok { address with target := readTarget (address.directory ++ text) }

end HttpAddress

end SchedulerLink
