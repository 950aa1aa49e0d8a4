import SchedulerLink.Channel.Headers
import SchedulerLink.Http.Chunked
import SchedulerLink.Text.Blank

/-!
Replies of a peer.

A reply is a status line, header fields and a body. The body is as long as a field says, comes in
chunks, or lasts until the connection ends. Replies with a status below 200 only announce another
one.
-/

namespace SchedulerLink

/-- How long a body is. -/
inductive BodyLength where
  | known (octets : Nat)
  | chunked
  | connection
  deriving DecidableEq, Repr

structure ReplyHead where
  status : Nat
  length : BodyLength := .connection
  location : Option Bytes := none
  deriving DecidableEq, Repr

namespace ReplyHead

def dropCarriageReturn (line : Bytes) : Bytes :=
  if line.getLast? = some Ascii.carriageReturn then line.dropLast else line

/-- The lines up to an empty one, which is not the first, and what follows it if it has come. `line`
is the line that has begun, last octet first, and `lines` are those before, last line first. -/
def splitFrom (line : Bytes) (lines : List Bytes) : Bytes → List Bytes × Option Bytes
  | [] => (lines.reverse, none)
  | octet :: rest =>
    if octet = Ascii.newline then
      let whole := dropCarriageReturn line.reverse
      if whole.isEmpty ∧ !lines.isEmpty then (lines.reverse, some rest)
      else splitFrom [] (whole :: lines) rest
    else splitFrom (octet :: line) lines rest

theorem splitFrom_shorter {line octets rest : Bytes} {lines head : List Bytes}
    (split : splitFrom line lines octets = (head, some rest)) : rest.length < octets.length := by
  induction octets generalizing line lines with
  | nil => simp [splitFrom] at split
  | cons octet octets ih =>
    simp only [splitFrom] at split
    split at split
    · split at split
      · cases split
        simp
      · exact Nat.lt_succ_of_lt (ih split)
    · exact Nat.lt_succ_of_lt (ih split)

def isBlank (octet : UInt8) : Bool := octet = Ascii.space || octet = Ascii.tab

def trim (octets : Bytes) : Bytes :=
  ((octets.dropWhile isBlank).reverse.dropWhile isBlank).reverse

def ofDigits (digits : Bytes) : Nat :=
  digits.foldl (fun value digit => 10 * value + (digit.toNat - 48)) 0

def protocolName : Bytes := Bytes.ofString "HTTP/"

/-- The status of a status line: a version, which is one of two, and three digits. -/
def status? (line : Bytes) : Option Nat :=
  if protocolName.isPrefixOf line then
    match line.drop protocolName.length with
    | 0x31 :: 0x2e :: version :: blank :: hundreds :: tens :: ones :: _ =>
      if (version = 0x30 ∨ version = 0x31) ∧ isBlank blank ∧
          [hundreds, tens, ones].all Ascii.isDigit
      then some (ofDigits [hundreds, tens, ones])
      else none
    | _ => none
  else none

def lengthLimit : Nat := 0x8000000000000000

def readLength (value : Bytes) : Except TransferFault (Option Nat) :=
  let digits := value.takeWhile Ascii.isDigit
  if digits.isEmpty then .error .badReply
  else .ok (some (ofDigits digits) |>.filter (· < lengthLimit))

def namesChunks (value : Bytes) : Bool :=
  (Text.splitAt (· = ',') value.toStringLossy.toList).any fun name =>
    (Text.trim name).map Char.toLower = "chunked".toList

def record (head : ReplyHead) (name : String) (value : Bytes) : Except TransferFault ReplyHead := do
  if Headers.sameName name "Content-Length" then
    let length ← readLength value
    match length, head.length with
    | _, .chunked => pure head
    | some octets, _ => pure { head with length := .known octets }
    | none, _ => pure head
  else if Headers.sameName name "Transfer-Encoding" then
    pure (if namesChunks value then { head with length := .chunked } else head)
  else if Headers.sameName name "Location" then
    if 300 ≤ head.status ∧ head.status < 400 ∧ !value.isEmpty ∧ head.location.isNone then
      pure { head with location := some value }
    else pure head
  else pure head

/-- Reads the lines behind a status line. A line that begins with a blank belongs to the line
before. -/
def readFields (head : ReplyHead) (first : Bool) : List Bytes → Except TransferFault ReplyHead
  | [] => .ok head
  | line :: rest => do
    let name := line.takeWhile (· ≠ Ascii.colon)
    if line.contains 0 then throw .badReply
    else if !first && line.head?.any isBlank then readFields head false rest
    else if name.length = line.length then throw .badReply
    else
      let value := trim (line.drop (name.length + 1))
      readFields (← head.record (Bytes.toStringLossy name) value) false rest

def isInterim (status : Nat) : Bool := 100 ≤ status && status < 200 && status ≠ 101

/-- Reads what precedes a body, and the octets behind it if all of it has come. -/
def read (octets : Bytes) : Except TransferFault (ReplyHead × Option Bytes) :=
  match _split : splitFrom [] [] octets with
  | ([], _) =>
    if (octets.take protocolName.length).isPrefixOf protocolName then .error .noReply
    else .error .unsupportedProtocol
  | (line :: fields, behind) =>
    match status? line with
    | none => .error .unsupportedProtocol
    | some status =>
      match readFields { status } true fields with
      | .error fault => .error fault
      | .ok head =>
        if isInterim status then
          match behind with
          | some rest => read rest
          | none => .error .noReply
        else .ok (head, behind)
termination_by octets.length
decreasing_by exact splitFrom_shorter (by assumption)

def isBodiless (head : ReplyHead) : Bool := head.status = 204 || head.status = 304

def body (head : ReplyHead) (behind : Bytes) : Except TransferFault Bytes :=
  if head.isBodiless then .ok []
  else
    match head.length with
    | .known octets => if octets ≤ behind.length then .ok (behind.take octets) else .error .cutShort
    | .chunked => Chunked.read behind
    | .connection => .ok behind

def isUnfinished (octets : Bytes) : Bool :=
  match read octets with
  | .error fault => fault = .noReply
  | .ok (_, none) => true
  | .ok (head, some behind) =>
    match head.body behind with
    | .error fault => fault = .cutShort
    | .ok _ => !head.isBodiless && head.length = .connection

end ReplyHead

end SchedulerLink
