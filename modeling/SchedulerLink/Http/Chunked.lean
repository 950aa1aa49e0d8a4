import SchedulerLink.Bytes
import SchedulerLink.Channel.TransferFault

/-!
Bodies that are sent in chunks.

Each chunk is preceded by its length in hexadecimal; the rest of that line is passed over. A chunk
of length zero and lines for further fields end the body.
-/

namespace SchedulerLink.Chunked

/-- What is expected next. -/
inductive State where
  | length (digits value : Nat)
  | lineEnd (value : Nat)
  | data (left : Nat)
  | dataEnd
  | trailer (empty : Bool)
  | finished
  deriving DecidableEq, Repr

def lengthLimit : Nat := 16

def afterLength (value : Nat) : State := if value = 0 then .trailer true else .data value

/-- Reads on from a state; `held` is the body so far, last octet first. -/
def readFrom (state : State) (held : Bytes) : Bytes → Except TransferFault Bytes
  | [] => if state = .finished then .ok held.reverse else .error .cutShort
  | octet :: rest =>
    match state with
    | .length digits value =>
      match Ascii.hexDigit? octet with
      | some digit =>
        if digits < lengthLimit then readFrom (.length (digits + 1) (16 * value + digit)) held rest
        else .error .receiveFault
      | none =>
        if digits = 0 then .error .receiveFault
        else if octet = Ascii.newline then readFrom (afterLength value) held rest
        else readFrom (.lineEnd value) held rest
    | .lineEnd value =>
      if octet = Ascii.newline then readFrom (afterLength value) held rest
      else readFrom (.lineEnd value) held rest
    | .data left =>
      readFrom (if left ≤ 1 then .dataEnd else .data (left - 1)) (octet :: held) rest
    | .dataEnd =>
      if octet = Ascii.newline then readFrom (.length 0 0) held rest
      else if octet = Ascii.carriageReturn then readFrom .dataEnd held rest
      else .error .receiveFault
    | .trailer empty =>
      if octet = Ascii.newline then readFrom (if empty then .finished else .trailer true) held rest
      else if octet = Ascii.carriageReturn then readFrom (.trailer empty) held rest
      else readFrom (.trailer false) held rest
    | .finished => .ok held.reverse

def read (octets : Bytes) : Except TransferFault Bytes := readFrom (.length 0 0) [] octets

end SchedulerLink.Chunked
