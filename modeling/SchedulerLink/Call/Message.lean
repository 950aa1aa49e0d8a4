import SchedulerLink.Call.Failure
import SchedulerLink.Call.Response
import SchedulerLink.Json.Reader

/-!
Messages between a client and a scheduler.

A message is the array `[1, method, kind, sequence, body]`. The arguments of a call are the fields
`"1"`, `"2"`, … of its body, and null arguments are left out. A reply carries the result in field
`"0"`, an exception a text and a number in fields `"1"` and `"2"`. A reply is taken only for the
method and the sequence number that were called.
-/

namespace SchedulerLink

structure Message where
  method : String
  kind : MessageKind
  sequence : Int32
  body : List (String × Json)
  deriving Repr

namespace Message

def version : Int := 1

def encode (message : Message) : Bytes :=
  Json.encode (.arr [.int version, .str message.method, .int message.kind.toInt,
    .int message.sequence.toInt, .obj message.body])

def sequence? (value : Json) : Option Int32 :=
  value.int64?.bind fun number =>
    if -0x80000000 ≤ number ∧ number < 0x80000000 then some (Int32.ofInt number) else none

def ofItems (first method kind sequence body : Json) : Except MessageFault Message := do
  unless first.int64? = some version do throw (.otherVersion first)
  let some method := method.str? | throw .methodNotText
  let some kind' := kind.int64?.bind MessageKind.ofInt? | throw (.unknownKind kind)
  let some sequence := sequence? sequence | throw .sequenceOutOfRange
  let .obj fields := body | throw .bodyNotRecord
  pure ⟨method, kind', sequence, fields⟩

def decode (bytes : Bytes) : Except MessageFault Message :=
  match Json.parse bytes with
  | .error fault => .error (.json fault)
  | .ok (.arr [first, method, kind, sequence, body]) => ofItems first method kind sequence body
  | .ok _ => .error .notFiveItems

def argumentName (place : Nat) : String := toString (place + 1)

/-- The fields of an argument list, whose first argument is at the given place; nulls are left out.
-/
def argumentFields (place : Nat) : List Json → List (String × Json)
  | [] => []
  | argument :: rest =>
    if argument.isNull then argumentFields (place + 1) rest
    else (argumentName place, argument) :: argumentFields (place + 1) rest

def inOrder (fields : List (String × Json)) : List (String × Json) :=
  fields.foldl (fun held (name, value) => Json.insertField name value held) []

def encodeCall (method : String) (sequence : Int32) (arguments : List Json) : Bytes :=
  encode ⟨method, .call, sequence, inOrder (argumentFields 0 arguments)⟩

def argumentLimit : Nat := 0x7fff

/-- Number of an argument field: decimal digits, perhaps behind a plus. -/
def argumentNumber? (name : String) : Option Nat :=
  let digits := match name.toList with
    | '+' :: rest => rest
    | whole => whole
  if digits.isEmpty || !digits.all Char.isDigit then none
  else
    let number := digits.foldl (fun value digit => 10 * value + (digit.toNat - 48)) 0
    if 0 < number ∧ number ≤ argumentLimit then some number else none

/-- Largest argument number among fields. -/
def argumentCount : List (String × Json) → Except MessageFault Nat
  | [] => .ok 0
  | (name, _) :: rest =>
    match argumentNumber? name with
    | none => .error (.argumentField name)
    | some number => (argumentCount rest).map (max number)

def argumentsOf (body : List (String × Json)) (count : Nat) : List Json :=
  (List.range count).map fun place => (body.lookup (argumentName place)).getD .null

def decodeCall (bytes : Bytes) : Except MessageFault (String × Int32 × List Json) := do
  let message ← decode bytes
  unless message.kind = .call ∨ message.kind = .oneway do throw (.notCall message.kind)
  let count ← argumentCount message.body
  pure (message.method, message.sequence, argumentsOf message.body count)

def detailItem (detail : String) : Json := .single "1" (.single "str" (.str detail))

def responseFields (response : Response) : List (String × Json) :=
  [("1", .single "i32" (.int response.code.toInt32.toInt))] ++
  (response.result.map fun result => ("3", Json.single "rec" result)).toList ++
  (response.serverInfo.map fun info => ("5", Json.single "rec" info)).toList ++
  if response.details.isEmpty then []
  else [("6", .single "lst" (.arr
    (.str "rec" :: .int response.details.length :: response.details.map detailItem)))]

def encodeReply (method : String) (sequence : Int32) (response : Response) : Bytes :=
  encode ⟨method, .reply, sequence, [("0", .single "rec" (.obj (responseFields response)))]⟩

def encodeException (method : String) (sequence kind : Int32) (detail : String) : Bytes :=
  encode ⟨method, .exception, sequence,
    [("1", .single "str" (.str detail)), ("2", .single "i32" (.int kind.toInt))]⟩

def inner? (fields : List (String × Json)) (outer inner : String) : Option Json :=
  (fields.lookup outer).bind (·.get? inner)

def detailOf (item : Json) : String :=
  (((item.get? "1").bind (·.get? "str")).bind Json.str?).getD ""

/-- The response that a record describes. Whole numbers are cut to 32 bits, and the first two items
of the list of details are its type and length. -/
def responseOf (fields : List (String × Json)) : Except MessageFault Response :=
  match (inner? fields "1" "i32").bind Json.int64? with
  | none => .error .noCode
  | some code =>
    let details := ((inner? fields "6" "lst").bind Json.arr?).getD []
    .ok ⟨.ofInt32 (Int32.ofInt code), (details.drop 2).map detailOf,
      inner? fields "3" "rec", inner? fields "5" "rec"⟩

def exceptionOf (body : List (String × Json)) : CallFailure :=
  let detail := ((inner? body "1" "str").bind Json.str?).getD ""
  let kind := ((inner? body "2" "i32").bind Json.int64?).getD 0
  .application (Int32.ofInt kind) detail

def resultOf (method : String) (body : List (String × Json)) : Except MessageFault Response :=
  match inner? body "0" "rec" with
  | some (.obj fields) => responseOf fields
  | _ => .error (.noResult method)

/-- The answer to a call of a method with a sequence number. -/
def decodeReply (bytes : Bytes) (method : String) (sequence : Int32) :
    Except CallFailure Response :=
  match decode bytes with
  | .error fault => .error (.protocol fault)
  | .ok message =>
    if message.method ≠ method then .error (.protocol (.otherMethod message.method method))
    else if message.sequence ≠ sequence then
      .error (.protocol (.otherSequence sequence message.sequence))
    else
      match message.kind with
      | .reply => (resultOf method message.body).mapError .protocol
      | .exception => .error (exceptionOf message.body)
      | kind => .error (.protocol (.notReply kind))

end Message

end SchedulerLink
