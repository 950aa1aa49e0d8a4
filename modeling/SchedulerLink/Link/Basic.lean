import SchedulerLink.Link.Connect
import SchedulerLink.Link.Locator

/-!
Links to schedulers.

A link has at most one open channel. It is opened when it is first needed and kept until
`Link.invalidate`, which also forgets the scheduler that a registry named. The calls of a connection
are numbered from one. Repeating calls that failed is the business of a session.
-/

namespace SchedulerLink

/-- An open channel and the number of its last call. -/
structure Connection (Channel : Type) where
  channel : Channel
  sequence : Int32 := 0
  deriving Repr

/-- A link to the scheduler of a cluster. -/
structure Link (Channel : Type) where
  locator : Locator
  login : Login
  options : LinkOptions
  connection : Option (Connection Channel) := none
  epoch : Nat := 0
  deriving Repr

namespace Link

variable {m : Type → Type} [Monad m] {Channel : Type}

def ofCluster (surroundings : Surroundings m Channel) (cluster : Cluster) (options : LinkOptions) :
    Except LinkFailure (Link Channel) :=
  match Locator.ofCluster surroundings cluster options.registryWait with
  | .error failure => .error failure
  | .ok locator =>
    match surroundings.login cluster.mechanism with
    | .error error => .error (.configuration error.message)
    | .ok login => .ok { locator, login, options }

def connectDeadline (surroundings : Surroundings m Channel) (link : Link Channel) :
    Option Deadline → Run m (Option Deadline)
  | none => pure none
  | some deadline => do
    pure (some (← surroundings.capped deadline link.options.connectWait))

def connectTo (surroundings : Surroundings m Channel) (fuel : Nat) (limit : Option Deadline)
    (link : Link Channel) (base : String) :
    Run m (Except LinkFailure (Connection Channel) × Link Channel) :=
  match Connect.interfaceUri base with
  | .error failure => pure (.error failure, link)
  | .ok uri => do
    let window ← link.connectDeadline surroundings limit
    match ← Connect.openChannel surroundings fuel link.options link.login uri window with
    | .error failure => pure (.error failure, link)
    | .ok channel => do
      surroundings.adopt channel
      let connection : Connection Channel := { channel }
      pure (.ok connection, { link with connection := some connection, epoch := link.epoch + 1 })

def connect (surroundings : Surroundings m Channel) (fuel : Nat) (limit : Option Deadline)
    (link : Link Channel) : Run m (Except LinkFailure (Connection Channel) × Link Channel) :=
  match link.connection with
  | some connection => pure (.ok connection, link)
  | none => do
    let (located, locator) ← link.locator.rawUrl surroundings
    let link := { link with locator }
    match located with
    | .error failure => pure (.error failure, link)
    | .ok base => link.connectTo surroundings fuel limit base

def send (surroundings : Surroundings m Channel) (link : Link Channel)
    (connection : Connection Channel) (method : Method) (arguments : List Json) :
    Run m (Except CallFailure Response × Link Channel) := do
  let sequence := connection.sequence + 1
  let result ← surroundings.call connection.channel sequence method arguments
  pure (result, { link with connection := some { connection with sequence } })

/-- Sends a call, over a connection that is made if there is none. -/
def call (surroundings : Surroundings m Channel) (fuel : Nat) (link : Link Channel)
    (method : Method) (arguments : List Json) :
    Run m (Except LinkFailure (Except CallFailure Response) × Link Channel) := do
  match ← link.connect surroundings fuel none with
  | (.error failure, link) => pure (.error failure, link)
  | (.ok connection, link) => do
    let (result, link) ← link.send surroundings connection method arguments
    pure (.ok result, link)

def close (surroundings : Surroundings m Channel) (link : Link Channel) : Run m (Link Channel) :=
  match link.connection with
  | none => pure link
  | some connection => do
    surroundings.closeChannel connection.channel
    pure { link with connection := none }

def invalidate (surroundings : Surroundings m Channel) (link : Link Channel) :
    Run m (Link Channel) := do
  let link ← link.close surroundings
  pure { link with locator := link.locator.forget }

/-- The scheduler's own address. Never connects. -/
def rawUrl (surroundings : Surroundings m Channel) (link : Link Channel) :
    Run m (Except LinkFailure String × Link Channel) := do
  let (result, locator) ← link.locator.rawUrl surroundings
  pure (result, { link with locator })

def url (surroundings : Surroundings m Channel) (link : Link Channel) :
    Run m (Except LinkFailure String × Link Channel) := do
  let (result, locator) ← link.locator.url surroundings
  pure (result, { link with locator })

end Link

end SchedulerLink
