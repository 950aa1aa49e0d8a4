import SchedulerLink.Url.Host

/-!
Addresses of services.

`Url.parse` reads an address as a browser does: blanks around it and line breaks in it are dropped,
the scheme and host are put in lower case, dot segments are resolved, and characters that may not
stand in an address are percent-encoded. The query and the fragment of an address are not kept,
since nothing here is addressed by them. `Url.sibling` names a neighbour of an address.
-/

namespace SchedulerLink

inductive UrlPath where
  | plain (text : String)
  | segments (segments : List String)
  deriving DecidableEq, Repr

structure Url where
  scheme : String
  username : String := ""
  password : String := ""
  host : Option Host := none
  port : Option Nat := none
  path : UrlPath
  deriving DecidableEq, Repr

namespace Url

def usualPort (scheme : String) : Option Nat :=
  if scheme = "http" ∨ scheme = "ws" then some 80
  else if scheme = "https" ∨ scheme = "wss" then some 443
  else if scheme = "ftp" then some 21
  else none

def isSpecial (scheme : String) : Bool := scheme = "file" || (usualPort scheme).isSome

def isSlash (special : Bool) (character : Char) : Bool :=
  character = '/' || (special && character = '\\')

def endsPath (character : Char) : Bool := character = '?' || character = '#'

/-! Segments. -/

def isSingleDot (segment : List Char) : Bool :=
  String.ofList (segment.map Char.toLower) ∈ [".", "%2e"]

def isDoubleDot (segment : List Char) : Bool :=
  String.ofList (segment.map Char.toLower) ∈ ["..", ".%2e", "%2e.", "%2e%2e"]

def isDrive (segment : List Char) : Bool :=
  match segment with
  | [letter, mark] => letter.isAlpha && (mark = ':' || mark = '|')
  | _ => false

def shorten (scheme : String) (segments : List String) : List String :=
  match segments with
  | [only] => if scheme = "file" && isDrive only.toList then segments else []
  | segments => segments.dropLast

def segmentText (scheme : String) (segments : List String) (segment : List Char) : String :=
  if scheme = "file" && segments.isEmpty && isDrive segment then
    String.ofList (segment.take 1 ++ [':'])
  else String.ofList (Percent.encode Percent.inPath segment)

/-- Adds segments to a path. A dot segment at the end leaves an empty segment. -/
def addSegments (scheme : String) (segments : List String) : List (List Char) → List String
  | [] => segments
  | segment :: rest =>
    if isDoubleDot segment then
      let shortened := shorten scheme segments
      addSegments scheme (if rest.isEmpty then shortened ++ [""] else shortened) rest
    else if isSingleDot segment then
      addSegments scheme (if rest.isEmpty then segments ++ [""] else segments) rest
    else addSegments scheme (segments ++ [segmentText scheme segments segment]) rest

def dropLeadingEmpty : List String → List String
  | "" :: second :: rest => dropLeadingEmpty (second :: rest)
  | segments => segments

def readPath (scheme : String) (text : List Char) : UrlPath :=
  let special := isSpecial scheme
  let path := text.takeWhile fun character => !endsPath character
  if path.isEmpty && !special then .segments []
  else
    let path := match path with
      | first :: rest => if isSlash special first then rest else path
      | [] => []
    let segments := addSegments scheme [] (Text.splitAt (isSlash special) path)
    .segments (if scheme = "file" then dropLeadingEmpty segments else segments)

/-! The part between the slashes and the path. -/

def splitUserInfo (special : Bool) (text : List Char) : Option (List Char) × List Char :=
  let authority := text.takeWhile fun character => !isSlash special character && !endsPath character
  let host := (authority.reverse.takeWhile (· ≠ '@')).reverse
  if host.length = authority.length then (none, text)
  else
    let before := authority.length - host.length
    (some (text.take (before - 1)), text.drop before)

def readUserInfo (info : List Char) : String × String :=
  let name := info.takeWhile (· ≠ ':')
  let word := (info.drop name.length).drop 1
  let encoded (text : List Char) := String.ofList (Percent.encode Percent.inUserInfo text)
  (encoded name, encoded word)

def splitHost (special : Bool) (bracketed : Bool) : List Char → List Char × List Char
  | [] => ([], [])
  | character :: rest =>
    if (character = ':' && !bracketed) || isSlash special character || endsPath character then
      ([], character :: rest)
    else
      let inside := if character = '[' then true else if character = ']' then false else bracketed
      let (host, behind) := splitHost special inside rest
      (character :: host, behind)

def portLimit : Nat := 0xffff

def readPort (text : List Char) : Except UrlFault (Option Nat × List Char) :=
  let digits := text.takeWhile Char.isDigit
  let rest := text.drop digits.length
  let value := digits.foldl (fun value digit => 10 * value + (digit.toNat - 48)) 0
  if portLimit < value then .error .badPort
  else if rest.head?.any fun next => !(isSlash true next || endsPath next) then .error .badPort
  else .ok (if digits.isEmpty then none else some value, rest)

def readAuthority (scheme : String) (text : List Char) : Except UrlFault Url := do
  let special := isSpecial scheme
  let (info, rest) := splitUserInfo special text
  let (username, password) := readUserInfo (info.getD [])
  if info = some [] ∧ rest.head?.any (fun next => isSlash special next || endsPath next) then
    throw .emptyHost
  let (hostText, behind) := splitHost special false rest
  if special ∧ hostText.isEmpty then throw .emptyHost
  let host ← if special then Host.parse hostText else Host.parseUnknown hostText
  let named := !username.isEmpty || !password.isEmpty
  if host.isEmpty ∧ (behind.head? = some ':' ∨ named) then throw .emptyHost
  let (port, behind) ← match behind with
    | ':' :: rest => readPort rest
    | behind => .ok (none, behind)
  pure { scheme, username, password, host := some host
         port := if port = usualPort scheme then none else port
         path := readPath scheme behind }

def readFile (text : List Char) : Except UrlFault Url := do
  let slash := isSlash true
  match text with
  | first :: second :: rest =>
    if slash first ∧ slash second then
      let hostText := rest.takeWhile fun character => !slash character && !endsPath character
      if hostText.isEmpty ∨ isDrive hostText then
        pure { scheme := "file", host := some (.name ""), path := readPath "file" rest }
      else
        let host ← Host.parse hostText
        let host := if host = .name "localhost" then .name "" else host
        pure { scheme := "file", host := some host
               path := readPath "file" (rest.drop hostText.length) }
    else pure { scheme := "file", host := some (.name ""), path := readPath "file" text }
  | text => pure { scheme := "file", host := some (.name ""), path := readPath "file" text }

/-! Whole addresses. -/

def cleaned (text : List Char) : List Char :=
  let isOuter (character : Char) : Bool := character.toNat ≤ 0x20
  let inner := ((text.dropWhile isOuter).reverse.dropWhile isOuter).reverse
  inner.filter fun character => character ∉ ['\t', '\n', '\r']

def inScheme (character : Char) : Bool := character.isAlphanum || ['+', '-', '.'].contains character

def splitScheme (text : List Char) : Option (String × List Char) :=
  let scheme := text.takeWhile inScheme
  match scheme, text.drop scheme.length with
  | first :: _, ':' :: rest =>
    if first.isAlpha then some (String.ofList (scheme.map Char.toLower), rest) else none
  | _, _ => none

def parse (text : String) : Except UrlFault Url :=
  match splitScheme (cleaned text.toList) with
  | none => .error .noScheme
  | some (scheme, rest) =>
    if scheme = "file" then readFile rest
    else if isSpecial scheme then readAuthority scheme (rest.dropWhile (isSlash true))
    else
      match rest with
      | '/' :: '/' :: rest => readAuthority scheme rest
      | '/' :: _ => .ok { scheme, path := readPath scheme rest }
      | rest =>
        let path := rest.takeWhile fun character => !endsPath character
        .ok { scheme, path := .plain (String.ofList (Percent.encode Percent.isControl path)) }

/-- The address of the given name beside the last segment of an address. -/
def sibling (url : Url) (name : String) : Except UrlFault Url :=
  match url.path with
  | .plain _ => .error .noPathToJoin
  | .segments segments => .ok { url with path := .segments (shorten url.scheme segments ++ [name]) }

def userInfoText (url : Url) : String :=
  if url.username.isEmpty && url.password.isEmpty then ""
  else if url.password.isEmpty then url.username ++ "@"
  else url.username ++ ":" ++ url.password ++ "@"

def pathText (url : Url) : String :=
  match url.path with
  | .plain text => text
  | .segments segments =>
    let joined := String.join (segments.map ("/" ++ ·))
    if url.host.isNone && segments.head? = some "" && 1 < segments.length then "/." ++ joined
    else joined

def text (url : Url) : String :=
  let authority := match url.host with
    | some host =>
      "//" ++ url.userInfoText ++ host.text ++
        ((url.port.map fun port => s!":{port}").getD "")
    | none => ""
  url.scheme ++ ":" ++ authority ++ url.pathText

end Url

end SchedulerLink
