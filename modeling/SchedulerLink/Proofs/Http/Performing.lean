import SchedulerLink.Proofs.Http.Delivering

/-!
What can be done with a channel, and all that can come of it.
-/

namespace SchedulerLink

inductive HttpDeed where
  | openUp
  | close
  | write (octets : Bytes)
  | flush
  | read (most : Nat)
  deriving DecidableEq

def HttpDeed.run {m : Type → Type} [Monad m] (network : Network m) (files : FileStore m)
    (channel : HttpChannel) : HttpDeed → m (Except ChannelFailure Bytes × HttpChannel)
  | .openUp => do
    let (result, channel) ← channel.openUp network files
    pure (result.map fun () => [], channel)
  | .close => pure (.ok [], channel.close)
  | .write octets =>
    let (result, channel) := channel.write octets
    pure (result.map fun () => [], channel)
  | .flush => do
    let (result, channel) ← channel.flush network
    pure (result.map fun () => [], channel)
  | .read most =>
    let (octets, channel) := channel.read most
    pure (.ok octets, channel)

structure HttpEvent where
  deed : HttpDeed
  before : HttpChannel
  result : Except ChannelFailure Bytes
  exchanges : List HttpExchange
  after : HttpChannel
  deriving DecidableEq

variable {σ : Type}

def HttpChannel.perform (network : Network (StateM σ)) (files : FileStore (StateM σ))
    (channel : HttpChannel) (deed : HttpDeed) (state : σ) : HttpEvent :=
  let ((result, after), _, exchanges) := (deed.run network.watched files.beside channel).run (state, [])
  { deed, before := channel, result, exchanges, after }

/-- What a new channel can come to, and how. Between two deeds anything may become of the network
and the files, so each begins in a state of its own. -/
inductive HttpChannel.History (network : Network (StateM σ)) (files : FileStore (StateM σ))
    (uri : String) (setup : ChannelSetup) : List HttpEvent → HttpChannel → Prop where
  | created : History network files uri setup [] { uri, setup }
  | did {events : List HttpEvent} {channel : HttpChannel} (deed : HttpDeed) (state : σ)
    (history : History network files uri setup events channel) :
    History network files uri setup (events ++ [channel.perform network files deed state])
      (channel.perform network files deed state).after

def HttpChannel.Usable (channel : HttpChannel) : Prop :=
  ∀ handle ∈ channel.handle, ∃ account, handle.address.account? = .ok account

/-- What a deed can come to. -/
inductive HttpEvent.Possible : HttpEvent → Prop where
  | opened {channel : HttpChannel} {handle : HttpHandle} {account : Option Bytes}
    (named : handle.address.account? = .ok account) :
    Possible ⟨.openUp, channel, .ok [], [],
      { channel with handle := some handle, pending := [], received := [] }⟩
  | unopened {channel : HttpChannel} (failure : ChannelFailure) :
    Possible ⟨.openUp, channel, .error failure, [], channel⟩
  | closed {channel : HttpChannel} : Possible ⟨.close, channel, .ok [], [], channel.close⟩
  | wrote {channel : HttpChannel} (octets : Bytes) (isOpen : channel.isOpen = true) :
    Possible ⟨.write octets, channel, .ok [], [], { channel with pending := channel.pending ++ octets }⟩
  | unwritten {channel : HttpChannel} (octets : Bytes) (isClosed : channel.isOpen = false) :
    Possible ⟨.write octets, channel, .error channel.closedFailure, [], channel⟩
  | undelivered {channel : HttpChannel} {result : Except TransferFault (Nat × Bytes)}
    {exchanges : List HttpExchange} (failure : ChannelFailure) (isOpen : channel.isOpen = true)
    (followed : Delivery.Followed (some channel.pending) exchanges result) :
    Possible ⟨.flush, channel, .error failure, exchanges, { channel with pending := [] }⟩
  | delivered {channel : HttpChannel} {status : Nat} {body : Bytes} {exchanges : List HttpExchange}
    (isOpen : channel.isOpen = true) (good : 200 ≤ status ∧ status < 300)
    (followed : Delivery.Followed (some channel.pending) exchanges (.ok (status, body))) :
    Possible ⟨.flush, channel, .ok [], exchanges, { channel with pending := [], received := body }⟩
  | unflushed {channel : HttpChannel} (isClosed : channel.isOpen = false) :
    Possible ⟨.flush, channel, .error channel.closedFailure, [], channel⟩
  | read {channel : HttpChannel} (most : Nat) :
    Possible ⟨.read most, channel, .ok (channel.received.take most), [],
      { channel with received := channel.received.drop most }⟩

namespace HttpChannel

variable {network : Network (StateM σ)} {files : FileStore (StateM σ)} {channel : HttpChannel}

theorem accountFor_run (files : FileStore (StateM σ)) (credentials : Option Credentials)
    (host : String) (state : σ) (exchanges : List HttpExchange) : ∃ account next,
      (accountFor files.beside credentials host).run (state, exchanges) =
        (account, next, exchanges) := by
  rcases credentials with _ | _ | path
  · exact ⟨_, _, rfl⟩
  · exact ⟨_, _, rfl⟩
  · exact ⟨_, _, rfl⟩

theorem account?_of_addressOf {uri : String} {address : HttpAddress}
    (found : addressOf uri = .ok address) : ∃ account, address.account? = .ok account := by
  simp only [addressOf, bind, Except.bind, throw, throwThe, MonadExceptOf.throw, pure,
    Except.pure] at found
  split at found
  · cases found
  · cases parsed : HttpAddress.parse uri with
    | error fault =>
      rw [parsed] at found
      cases found
    | ok target =>
      simp only [parsed] at found
      cases named : target.account? with
      | error fault =>
        rw [named] at found
        cases found
      | ok account =>
        rw [named] at found
        cases found
        exact ⟨account, named⟩

theorem handleOf_address {setup : ChannelSetup} {address : HttpAddress} {account : Option Account}
    {handle : HttpHandle} (made : handleOf setup address account = .ok handle) :
    handle.address = address := by
  unfold handleOf at made
  rcases ite_eq_iff.mp made with ⟨-, made⟩ | ⟨-, made⟩
  · cases made
  · cases made
    rfl

theorem openUp_run (network : Network (StateM σ)) (files : FileStore (StateM σ))
    (channel : HttpChannel) (state : σ) (exchanges : List HttpExchange) : ∃ result after next,
      (channel.openUp network.watched files.beside).run (state, exchanges) =
        ((result, after), next, exchanges) ∧
      HttpEvent.Possible ⟨.openUp, channel, result.map fun () => [], [], after⟩ := by
  unfold openUp
  cases hostOf channel.uri with
  | error failure => exact ⟨.error failure, channel, _, rfl, .unopened failure⟩
  | ok host =>
    cases found : addressOf channel.uri with
    | error fault => exact ⟨.error fault.failure, channel, _, rfl, .unopened _⟩
    | ok address =>
      obtain ⟨named, usable⟩ := account?_of_addressOf found
      have reaches : (network.watched.reach address).run (state, exchanges) =
          (((network.reach address).run state).1, ((network.reach address).run state).2, exchanges) :=
        rfl
      simp only
      rw [StateM.run_bind_of reaches]
      cases ((network.reach address).run state).1 with
      | error fault => exact ⟨.error fault.failure, channel, _, rfl, .unopened _⟩
      | ok reached =>
        obtain ⟨account, next, finds⟩ :=
          accountFor_run files channel.setup.credentials host ((network.reach address).run state).2
            exchanges
        simp only
        rw [StateM.run_bind_of finds]
        cases made : handleOf channel.setup address account with
        | error fault => exact ⟨.error fault.failure, channel, _, rfl, .unopened _⟩
        | ok handle =>
          exact ⟨.ok (), _, next, rfl, .opened (handleOf_address made ▸ usable)⟩

theorem of_accept {uri : String} {status : Nat} {body received : Bytes}
    (accepted : accept uri status body = .ok received) :
    (200 ≤ status ∧ status < 300) ∧ received = body := by
  rw [accept] at accepted
  split at accepted
  next good =>
    cases accepted
    exact ⟨good, rfl⟩
  next => split at accepted <;> cases accepted

theorem flush_run (network : Network (StateM σ)) {channel : HttpChannel} (usable : channel.Usable)
    (state : σ) (exchanges : List HttpExchange) : ∃ result after next done,
      (channel.flush network.watched).run (state, exchanges) =
        ((result, after), next, exchanges ++ done) ∧
      HttpEvent.Possible ⟨.flush, channel, result.map fun () => [], done, after⟩ := by
  rcases channel with ⟨uri, setup, _ | handle, pending, received⟩
  · refine ⟨.error (.notOpen s!"{uri} is not open"), _, (state, exchanges).1, [], ?_, .unflushed rfl⟩
    rw [List.append_nil]
    rfl
  · obtain ⟨account, named⟩ := usable handle rfl
    obtain ⟨result, next, done, sends, followed⟩ := Delivery.send_run network named
      ⟨handle.headers, handle.account, some pending⟩ state exchanges
    simp only [flush]
    rw [StateM.run_bind_of sends]
    rcases result with fault | ⟨status, body⟩
    · exact ⟨.error fault.failure, _, next, done, rfl, .undelivered _ rfl followed⟩
    · cases accepted : accept uri status body with
      | error failure =>
        simp only [accepted]
        exact ⟨.error failure, _, next, done, rfl, .undelivered failure rfl followed⟩
      | ok answer =>
        obtain ⟨good, rfl⟩ := of_accept accepted
        simp only [accepted]
        exact ⟨.ok (), _, next, done, rfl, .delivered rfl good followed⟩

/-- A deed comes to nothing else. -/
theorem perform_possible (network : Network (StateM σ)) (files : FileStore (StateM σ))
    {channel : HttpChannel} (usable : channel.Usable) (deed : HttpDeed) (state : σ) :
    (channel.perform network files deed state).Possible := by
  cases deed with
  | openUp =>
    obtain ⟨result, after, next, opens, possible⟩ := openUp_run network files channel state []
    rw [perform, HttpDeed.run, StateM.run_bind_of opens]
    exact possible
  | close => exact .closed
  | write octets =>
    cases isOpen : channel.isOpen with
    | true =>
      have writes : channel.write octets =
          (.ok (), { channel with pending := channel.pending ++ octets }) := by
        rw [write, isOpen, if_pos rfl]
      rw [perform, HttpDeed.run, writes]
      exact .wrote octets isOpen
    | false =>
      have writes : channel.write octets = (.error channel.closedFailure, channel) := by
        rw [write, isOpen, if_neg Bool.false_ne_true]
      rw [perform, HttpDeed.run, writes]
      exact .unwritten octets isOpen
  | flush =>
    obtain ⟨result, after, next, done, flushes, possible⟩ := flush_run network usable state []
    rw [perform, HttpDeed.run, StateM.run_bind_of flushes]
    exact possible
  | read most => exact .read most

end HttpChannel

/-! What all that a deed can come to has in common. -/

namespace HttpEvent.Possible

variable {event : HttpEvent}

theorem uri_eq (possible : event.Possible) : event.after.uri = event.before.uri := by
  cases possible <;> rfl

theorem usable (possible : event.Possible) (usable : event.before.Usable) : event.after.Usable := by
  cases possible with
  | opened named =>
    intro handle same
    cases same
    exact ⟨_, named⟩
  | closed => exact nofun
  | _ => exact usable

theorem taken (possible : event.Possible) (isOpen : event.before.isOpen = true) {octets : Bytes}
    (deed : event.deed = .write octets) : event.result = .ok [] := by
  cases possible with
  | wrote => rfl
  | unwritten _ isClosed => exact absurd isOpen (ne_true_of_eq_false isClosed)
  | _ => cases deed

theorem refused (possible : event.Possible) (isClosed : event.before.isOpen = false)
    (deed : event.deed = .flush ∨ ∃ octets, event.deed = .write octets) :
    event.result = .error event.before.closedFailure ∧ event.exchanges = [] ∧
      event.after = event.before := by
  cases possible with
  | unwritten => exact ⟨rfl, rfl, rfl⟩
  | unflushed => exact ⟨rfl, rfl, rfl⟩
  | wrote _ isOpen => exact absurd isOpen (ne_true_of_eq_false isClosed)
  | undelivered _ isOpen => exact absurd isOpen (ne_true_of_eq_false isClosed)
  | delivered isOpen => exact absurd isOpen (ne_true_of_eq_false isClosed)
  | _ => rcases deed with deed | ⟨octets, deed⟩ <;> cases deed

theorem silent (possible : event.Possible) (deed : event.deed ≠ .flush) : event.exchanges = [] := by
  cases possible with
  | undelivered => exact absurd rfl deed
  | delivered => exact absurd rfl deed
  | _ => rfl

theorem followed (possible : event.Possible) (isOpen : event.before.isOpen = true)
    (deed : event.deed = .flush) :
    ∃ result, Delivery.Followed (some event.before.pending) event.exchanges result := by
  cases possible with
  | undelivered _ _ followed => exact ⟨_, followed⟩
  | delivered _ _ followed => exact ⟨_, followed⟩
  | unflushed isClosed => exact absurd isOpen (ne_true_of_eq_false isClosed)
  | _ => cases deed

theorem answered (possible : event.Possible) (deed : event.deed = .flush)
    (succeeds : event.result.isOk = true) : ∃ exchange ∈ event.exchanges.getLast?, ∃ status,
      exchange.answer? = some (status, event.after.received) ∧ 200 ≤ status ∧ status < 300 := by
  cases possible with
  | delivered _ good followed =>
    obtain ⟨exchange, last, answer⟩ := followed.answer
    exact ⟨exchange, last, _, answer, good⟩
  | undelivered => cases succeeds
  | unflushed => cases succeeds
  | _ => cases deed

theorem read_eq (possible : event.Possible) {most : Nat} (deed : event.deed = .read most) :
    event.result = .ok (event.before.received.take most) := by
  cases possible with
  | read =>
    cases deed
    rfl
  | _ => cases deed

end HttpEvent.Possible

end SchedulerLink
