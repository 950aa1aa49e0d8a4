import SchedulerLink.Call.Exchange
import SchedulerLink.File.Store
import SchedulerLink.Http.Transfer
import SchedulerLink.Link.Surroundings

/-!
Channels that carry messages in HTTP requests.

Opening a channel looks up the account for its host and sees whether somebody accepts connections
there. What is written is delivered when the channel is flushed, and the reply's body can be read
then. A flush that fails gives the message up and leaves what was received before.
-/

namespace SchedulerLink

/-- What an open channel delivers its messages with. -/
structure HttpHandle where
  address : HttpAddress
  headers : Headers
  account : Option Bytes
  deriving DecidableEq, Repr

/-- A channel to an address. -/
structure HttpChannel where
  uri : String
  setup : ChannelSetup
  handle : Option HttpHandle := none
  pending : Bytes := []
  received : Bytes := []
  deriving DecidableEq, Repr

namespace HttpChannel

def mediaType : String := "application/x-thrift"

def isCut (text : String) : Bool := text.contains '\x00'

/-- The fields of a channel's requests. One without a value is not sent. -/
def headers (setup : ChannelSetup) : Headers :=
  let fields := setup.headers.set "User-Agent" setup.userAgent |>.set "Content-Type" mediaType
    |>.set "Accept" mediaType
  let trimmed := fields.fields.map fun (name, value) => (Text.trimmed name, Text.trimmed value)
  ⟨trimmed.filter fun field => !field.2.isEmpty⟩

def hostOf (uri : String) : Except ChannelFailure String :=
  match Url.parse uri with
  | .error _ => .error (.badAddress uri)
  | .ok url =>
    match url.host with
    | some host =>
      if url.scheme = "http" ∨ url.scheme = "https" then .ok host.text else .error (.badAddress uri)
    | none => .error (.badAddress uri)

def addressOf (uri : String) : Except TransferFault HttpAddress := do
  if isCut uri then throw .cutText
  let address ← HttpAddress.parse uri
  let _ ← address.account?
  pure address

def handleOf (setup : ChannelSetup) (address : HttpAddress) (account : Option Account) :
    Except TransferFault HttpHandle :=
  let headers := headers setup
  let texts := headers.fields.map Prod.snd ++
    match account with
    | some account => [account.username, account.password]
    | none => []
  if texts.any isCut then .error .cutText
  else
    let joined := account.map fun account =>
      Bytes.ofString (account.username ++ ":" ++ account.password)
    .ok ⟨address, headers, joined⟩

variable {m : Type → Type} [Monad m]

/-- The account that credentials have for a host. A netrc file that cannot be read has none. -/
def accountFor (files : FileStore m) (credentials : Option Credentials) (host : String) :
    m (Option Account) := do
  match credentials with
  | none => pure none
  | some (.fixed account) => pure ((Credentials.fixed account).accountFor none host)
  | some (.netrc path) => do
    let contents := match ← files.read path with
      | .ok text => some text
      | .error _ => none
    pure ((Credentials.netrc path).accountFor contents host)

/-- Opens a channel. If that fails, the channel stays as it was. -/
def openUp (network : Network m) (files : FileStore m) (channel : HttpChannel) :
    m (Except ChannelFailure Unit × HttpChannel) :=
  match hostOf channel.uri with
  | .error failure => pure (.error failure, channel)
  | .ok host =>
    match addressOf channel.uri with
    | .error fault => pure (.error fault.failure, channel)
    | .ok address => do
      match ← network.reach address with
      | .error fault => pure (.error fault.failure, channel)
      | .ok () => do
        let account ← accountFor files channel.setup.credentials host
        match handleOf channel.setup address account with
        | .error fault => pure (.error fault.failure, channel)
        | .ok handle =>
          pure (.ok (), { channel with handle := some handle, pending := [], received := [] })

def isOpen (channel : HttpChannel) : Bool := channel.handle.isSome

def close (channel : HttpChannel) : HttpChannel :=
  { channel with handle := none, pending := [], received := [] }

def closedFailure (channel : HttpChannel) : ChannelFailure := .notOpen s!"{channel.uri} is not open"

def write (channel : HttpChannel) (octets : Bytes) : Except ChannelFailure Unit × HttpChannel :=
  if channel.isOpen then (.ok (), { channel with pending := channel.pending ++ octets })
  else (.error channel.closedFailure, channel)

def accept (uri : String) (status : Nat) (body : Bytes) : Except ChannelFailure Bytes :=
  if 200 ≤ status ∧ status < 300 then .ok body
  else if status = 401 then .error (.unauthorized status)
  else .error (.unknown s!"POST {uri} returned HTTP {status}")

def flush (network : Network m) (channel : HttpChannel) :
    m (Except ChannelFailure Unit × HttpChannel) :=
  match channel.handle with
  | none => pure (.error channel.closedFailure, channel)
  | some handle => do
    let delivery : Delivery := ⟨handle.headers, handle.account, some channel.pending⟩
    let channel := { channel with pending := [] }
    match ← delivery.send network handle.address with
    | .error fault => pure (.error fault.failure, channel)
    | .ok (status, body) =>
      match accept channel.uri status body with
      | .error failure => pure (.error failure, channel)
      | .ok received => pure (.ok (), { channel with received })

def read (channel : HttpChannel) (most : Nat) : Bytes × HttpChannel :=
  (channel.received.take most, { channel with received := channel.received.drop most })

end HttpChannel

/-- Where channels are kept. -/
structure ChannelStore (m : Type → Type) (Channel : Type) where
  new : HttpChannel → m Channel
  get : Channel → m HttpChannel
  set : Channel → HttpChannel → m Unit

namespace ChannelStore

variable {m : Type → Type} [Monad m] {Channel : Type}

def use {α : Type} (store : ChannelStore m Channel) (channel : Channel)
    (act : HttpChannel → m (α × HttpChannel)) : m α := do
  let (result, state) ← act (← store.get channel)
  store.set channel state
  pure result

def line (store : ChannelStore m Channel) (network : Network m) (channel : Channel) : Line m where
  write octets := store.use channel fun state => pure (state.write octets)
  flush := store.use channel (·.flush network)
  read most := store.use channel fun state =>
    let (octets, state) := state.read most
    pure (.ok octets, state)

def surroundings (store : ChannelStore m Channel) (network : Network m) (files : FileStore m)
    (fuel : Nat) (clock : Clock m) (login : String → Except LoginError Login) :
    Surroundings m Channel where
  toClock := clock
  isStopping := pure false
  hasRegistry := false
  lookup _ _ := pure (.ok [])
  create uri setup := store.new { uri, setup }
  openChannel channel := store.use channel (·.openUp network files)
  closeChannel channel := store.use channel fun state => pure ((), state.close)
  adopt _ := pure ()
  call channel sequence method arguments :=
    (store.line network channel).exchange fuel sequence method arguments
  login := login

end ChannelStore

end SchedulerLink
