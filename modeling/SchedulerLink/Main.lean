import SchedulerLink.Command.Program
import Std.Async.DNS
import Std.Async.TCP
import Std.Async.Timer

/-!
The program on a machine: its files, its clock and its network.
-/

namespace SchedulerLink.Machine

open Std.Async

/-! Files. -/

def faultOf : IO.Error → FileFault
  | .noFileOrDirectory _ _ _ => .notFound
  | .alreadyExists _ _ _ => .exists
  | .inappropriateType _ code text =>
    if code = 20 then .notDirectory else if code = 21 then .isDirectory else .other text
  | error => .other (toString error)

def attempt {α : Type} (act : IO α) : IO (Except FileFault α) := do
  match ← act.toBaseIO with
  | .ok value => pure (.ok value)
  | .error error => pure (.error (faultOf error))

def files : FileStore IO where
  list path := attempt do
    let entries ← ((← IO.currentDir) / path).readDir
    pure (entries.toList.map (·.fileName))
  read path := do
    match ← attempt (IO.FS.readBinFile path) with
    | .error fault => pure (.error fault)
    | .ok octets =>
      match Bytes.toString? octets.data.toList with
      | some text => pure (.ok text)
      | none => pure (.error .notText)
  append path text := attempt do
    let place := (← IO.currentDir) / path
    if let some above := place.parent then IO.FS.createDirAll above
    let handle ← IO.FS.Handle.mk place .append
    handle.putStr text

/-! Time. -/

def longestPause : Nat := 0x80000000

def clock : Clock IO where
  now := do pure ⟨← IO.monoNanosNow⟩
  pause span := do
    let millis := (span.nanos + 999999) / 1000000
    for _ in [0:millis / longestPause] do
      IO.sleep longestPause.toUInt32
    IO.sleep (millis % longestPause).toUInt32

/-! Network. -/

def connectPatience : Std.Time.Millisecond.Offset := 10000

def replyPatience : Std.Time.Millisecond.Offset := 60000

def blockLength : UInt64 := 65536

def within {α : Type} (limit : Std.Time.Millisecond.Offset)
    (act : Async (Except TransferFault α)) : Async (Except TransferFault α) :=
  have : Inhabited (Except TransferFault α) := ⟨.error .timedOut⟩
  Async.race act (do
    sleep limit
    pure (.error .timedOut))

def caught {α : Type} (fault : TransferFault) (act : Async α) : Async (Except TransferFault α) :=
  tryCatch (do pure (.ok (← act))) fun _ => pure (.error fault)

def resolve (address : HttpAddress) : Async (List Std.Net.SocketAddress) := do
  let port := address.portNumber.toUInt16
  let host := String.ofList (address.host.toList.filter fun character =>
    character ≠ '[' && character ≠ ']')
  let found ← DNS.getAddrInfo host ""
  pure (found.toList.map fun
    | .v4 number => .v4 ⟨number, port⟩
    | .v6 number => .v6 ⟨number, port⟩)

def connectFirst : List Std.Net.SocketAddress → Async (Except TransferFault TCP.Socket.Client)
  | [] => pure (.error .notConnected)
  | place :: rest => do
    let socket ← TCP.Socket.Client.mk
    match ← caught .notConnected (socket.connect place) with
    | .ok () => pure (.ok socket)
    | .error _ => connectFirst rest

/-- Connects to a host. Secure connections are not supported. -/
def connect (address : HttpAddress) : Async (Except TransferFault TCP.Socket.Client) := do
  if address.secure then pure (.error .unsupportedProtocol)
  else
    match ← caught .hostNotFound (resolve address) with
    | .error fault => pure (.error fault)
    | .ok places => connectFirst places

def receive (socket : TCP.Socket.Client) :
    (fuel : Nat) → (held : Bytes) → Async (Except TransferFault Bytes)
  | 0, _ => pure (.error .receiveFault)
  | fuel + 1, held => do
    match ← caught .receiveFault (socket.recv? blockLength) with
    | .error fault => pure (.error fault)
    | .ok none => pure (.ok held)
    | .ok (some block) =>
      let held := held ++ block.data.toList
      if ReplyHead.isUnfinished held then receive socket fuel held else pure (.ok held)

def fuel : Nat := 0x10000000000

def disconnect (socket : TCP.Socket.Client) : Async Unit := do
  let _ ← caught .sendFault socket.shutdown

def converse (socket : TCP.Socket.Client) (octets : Bytes) :
    Async (Except TransferFault Bytes) := do
  match ← caught .sendFault (socket.send ⟨octets.toArray⟩) with
  | .error fault => pure (.error fault)
  | .ok () => do
    let reply ← receive socket fuel []
    disconnect socket
    pure reply

def hostText (address : HttpAddress) : String :=
  match address.port with
  | some port => s!"{address.host}:{port}"
  | none => address.host

def network : Network IO where
  reach address := do
    match ← (within connectPatience (connect address)).block with
    | .error fault => pure (.error fault)
    | .ok socket => do
      (disconnect socket).block
      pure (.ok ())
  send address request := do
    match ← (within connectPatience (connect address)).block with
    | .error fault => pure (.error fault)
    | .ok socket =>
      (within replyPatience (converse socket (request.octets (hostText address)))).block

def channels : ChannelStore IO (IO.Ref HttpChannel) where
  new channel := IO.mkRef channel
  get channel := channel.get
  set channel state := channel.set state

/-- The machine as what the program works with. -/
def desk : Desk IO (IO.Ref HttpChannel) where
  toClock := clock
  files := files
  network := network
  channels := channels
  print text := IO.print text

end SchedulerLink.Machine

open SchedulerLink in
def main (words : List String) : IO UInt32 := do
  let home ← IO.getEnv "HOME"
  match Places.of home (← IO.getEnv "XDG_CONFIG_HOME") (← IO.getEnv "XDG_STATE_HOME") with
  | none => do
    IO.eprintln "aurora-client error: the variable HOME must be set"
    pure 1
  | some places => do
    let ending ← Program.run Machine.desk places Machine.fuel words
    if let some complaint := ending.complaint then IO.eprintln complaint
    pure ending.status.toUInt32
