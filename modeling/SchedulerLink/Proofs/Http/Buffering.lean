import Mathlib.Data.List.DropRight
import SchedulerLink.Proofs.Http.Performing
import SchedulerLink.Rehearsal.Stage

/-!
What a channel delivers, and what can be read from it.

A delivery carries what was written since the channel was opened or closed or a delivery was begun
last, so nothing is delivered by two of them. What is read are the octets of the last reply, one
after the other.
-/

namespace SchedulerLink

variable {σ : Type}

/-! Rows of deeds. -/

namespace HttpEvent

def clears (event : HttpEvent) : Bool :=
  match event.deed with
  | .openUp => event.result.isOk
  | .close => true
  | .flush => event.before.isOpen
  | _ => false

def written (event : HttpEvent) : Bytes :=
  match event.deed, event.result with
  | .write octets, .ok _ => octets
  | _, _ => []

def renews (event : HttpEvent) : Bool :=
  match event.deed with
  | .openUp => event.result.isOk
  | .close => true
  | .flush => event.result.isOk
  | _ => false

def reply (event : HttpEvent) : Bytes :=
  match event.deed with
  | .flush => ((event.exchanges.getLast?.bind HttpExchange.answer?).map Prod.snd).getD []
  | _ => []

def asked (event : HttpEvent) : Nat :=
  match event.deed with
  | .read most => most
  | _ => 0

def got (event : HttpEvent) : Bytes :=
  match event.deed, event.result with
  | .read _, .ok octets => octets
  | _, _ => []

def switches (event : HttpEvent) : Option Bool :=
  match event.deed, event.result with
  | .openUp, .ok _ => some true
  | .close, _ => some false
  | _, _ => none

namespace Possible

variable {event : HttpEvent}

theorem isOpen_eq (possible : event.Possible) :
    event.after.isOpen = event.switches.getD event.before.isOpen := by
  cases possible <;> rfl

theorem pending_eq (possible : event.Possible) : event.after.pending =
    if event.clears then [] else event.before.pending ++ event.written := by
  cases possible with
  | undelivered _ isOpen => rw [clears, if_pos isOpen]
  | delivered isOpen => rw [clears, if_pos isOpen]
  | unflushed isClosed => simp [clears, written, isClosed]
  | opened | closed | wrote => rfl
  | unopened | unwritten | read => exact (List.append_nil _).symm

theorem reply_eq (possible : event.Possible) (deed : event.deed = .flush)
    (succeeds : event.result.isOk = true) : event.reply = event.after.received := by
  obtain ⟨exchange, last, status, answer, -⟩ := possible.answered deed succeeds
  rw [reply, deed, last, Option.bind_some, answer]
  rfl

theorem received_eq (possible : event.Possible) : event.after.received =
    if event.renews then event.reply else event.before.received.drop event.asked := by
  cases possible with
  | delivered isOpen good followed => exact (reply_eq (.delivered isOpen good followed) rfl rfl).symm
  | _ => rfl

theorem got_eq (possible : event.Possible) : event.got = event.before.received.take event.asked := by
  cases possible <;> rfl

end Possible

end HttpEvent

namespace HttpEvents

def isOpen (events : List HttpEvent) : Bool := (events.filterMap (·.switches)).getLast?.getD false

/-- What was written since the channel was opened or closed or a delivery was begun last. -/
def unsent (events : List HttpEvent) : Bytes :=
  (events.rtakeWhile fun event => !event.clears).flatMap (·.written)

def sinceReply (events : List HttpEvent) : List HttpEvent :=
  events.rtakeWhile fun event => !event.renews

def lastReply (events : List HttpEvent) : Bytes :=
  ((events.filter (·.renews)).getLast?.map (·.reply)).getD []

def askedSince (events : List HttpEvent) : Nat :=
  (sinceReply events).foldl (fun total event => total + event.asked) 0

def gotSince (events : List HttpEvent) : Bytes := (sinceReply events).flatMap (·.got)

variable (events : List HttpEvent) (event : HttpEvent)

theorem isOpen_concat : isOpen (events ++ [event]) = event.switches.getD (isOpen events) := by
  rw [isOpen, List.filterMap_append, List.getLast?_append]
  cases switches : event.switches <;> simp [isOpen, switches]

theorem unsent_concat :
    unsent (events ++ [event]) = if event.clears then [] else unsent events ++ event.written := by
  rw [unsent, List.rtakeWhile_concat]
  cases event.clears <;> simp [unsent]

theorem sinceReply_concat :
    sinceReply (events ++ [event]) = if event.renews then [] else sinceReply events ++ [event] := by
  rw [sinceReply, List.rtakeWhile_concat]
  cases event.renews <;> simp [sinceReply]

theorem lastReply_concat :
    lastReply (events ++ [event]) = if event.renews then event.reply else lastReply events := by
  rw [lastReply, List.filter_append, List.getLast?_append]
  cases renews : event.renews <;> simp [lastReply, renews]

theorem askedSince_concat : askedSince (events ++ [event]) =
    if event.renews then 0 else askedSince events + event.asked := by
  rw [askedSince, sinceReply_concat]
  cases event.renews <;> simp [askedSince]

theorem gotSince_concat : gotSince (events ++ [event]) =
    if event.renews then [] else gotSince events ++ event.got := by
  rw [gotSince, sinceReply_concat]
  cases event.renews <;> simp [gotSince]

/-- What was written before a delivery was begun is not delivered any more. -/
theorem unsent_append_cons {first : HttpEvent} (clears : first.clears = true)
    (before between : List HttpEvent) : unsent (before ++ first :: between) = unsent between := by
  induction between using List.reverseRecOn with
  | nil => rw [unsent_concat, if_pos clears]; rfl
  | append_singleton between event ih =>
    rw [← List.cons_append, ← List.append_assoc, unsent_concat, unsent_concat, ih]

theorem lastReply_append_cons {first : HttpEvent}
    (empties : first.deed = .close ∨ first.deed = .openUp ∧ first.result.isOk = true)
    (before : List HttpEvent) {between : List HttpEvent}
    (unanswered : ∀ event ∈ between, event.deed = .flush → event.result.isOk = false) :
    lastReply (before ++ first :: between) = [] := by
  induction between using List.reverseRecOn with
  | nil =>
    rcases empties with closes | ⟨opens, succeeds⟩
    · simp [lastReply_concat, HttpEvent.renews, HttpEvent.reply, closes]
    · simp [lastReply_concat, HttpEvent.renews, HttpEvent.reply, opens, succeeds]
  | append_singleton between event ih =>
    have earlier := ih fun event member => unanswered event (List.mem_append_left _ member)
    have silent := unanswered event (by simp)
    rw [← List.cons_append, ← List.append_assoc, lastReply_concat, earlier]
    cases deed : event.deed <;> simp_all [HttpEvent.renews, HttpEvent.reply]

end HttpEvents

/-! Whole histories. -/

namespace HttpChannel

/-- A channel holds what was written and not delivered, and what was received and not read. -/
structure Accounts (uri : String) (events : List HttpEvent) (channel : HttpChannel) : Prop where
  usable : channel.Usable
  named : channel.uri = uri
  opened : channel.isOpen = HttpEvents.isOpen events
  pending : channel.pending = HttpEvents.unsent events
  received : channel.received = (HttpEvents.lastReply events).drop (HttpEvents.askedSince events)
  got : HttpEvents.gotSince events =
    (HttpEvents.lastReply events).take (HttpEvents.askedSince events)

theorem Accounts.created (uri : String) (setup : ChannelSetup) : Accounts uri [] { uri, setup } where
  usable := nofun
  named := rfl
  opened := rfl
  pending := rfl
  received := rfl
  got := rfl

open HttpEvents in
theorem Accounts.after {uri : String} {events : List HttpEvent} {event : HttpEvent}
    (accounts : Accounts uri events event.before) (possible : event.Possible) :
    Accounts uri (events ++ [event]) event.after := by
  constructor
  case usable => exact possible.usable accounts.usable
  case named => exact possible.uri_eq.trans accounts.named
  case opened => rw [isOpen_concat, ← accounts.opened, possible.isOpen_eq]
  case pending => rw [unsent_concat, ← accounts.pending, possible.pending_eq]
  case received =>
    rw [lastReply_concat, askedSince_concat, possible.received_eq, accounts.received]
    split
    · rfl
    · exact List.drop_drop ..
  case got =>
    rw [lastReply_concat, askedSince_concat, gotSince_concat, possible.got_eq, accounts.received,
      accounts.got]
    split
    · rfl
    · exact List.take_add.symm

namespace History

variable {network : Network (StateM σ)} {files : FileStore (StateM σ)} {uri : String}
  {setup : ChannelSetup} {events : List HttpEvent} {channel : HttpChannel}

theorem accounts (history : History network files uri setup events channel) :
    Accounts uri events channel := by
  induction history with
  | created => exact .created uri setup
  | did deed state _ ih => exact ih.after (perform_possible network files ih.usable deed state)

theorem of_append_cons {earlier later : List HttpEvent} {event : HttpEvent}
    (history : History network files uri setup (earlier ++ event :: later) channel) :
    History network files uri setup earlier event.before ∧ event.Possible := by
  -- The deed is the last one, or the history without the last one contains it.
  generalize whole : earlier ++ event :: later = events at history
  induction history generalizing later with
  | created => simp at whole
  | did deed state history ih =>
    rcases later.eq_nil_or_concat with rfl | ⟨later, last, rfl⟩
    · obtain ⟨rfl, same⟩ := List.append_inj' whole rfl
      cases same
      exact ⟨history, perform_possible network files history.accounts.usable deed state⟩
    · rw [List.concat_eq_append, ← List.cons_append, ← List.append_assoc] at whole
      exact ih (List.append_inj' whole rfl).1

end History

end HttpChannel

/-- What comes of a deed after earlier ones. -/
structure HttpEvent.Fits (uri : String) (earlier : List HttpEvent) (event : HttpEvent) : Prop where
  opened : event.before.isOpen = HttpEvents.isOpen earlier
  written (octets : Bytes) : HttpEvents.isOpen earlier = true → event.deed = .write octets →
    event.result = .ok []
  refused : HttpEvents.isOpen earlier = false →
    (event.deed = .flush ∨ ∃ octets, event.deed = .write octets) →
    event.result = .error (.notOpen s!"{uri} is not open") ∧ event.exchanges = [] ∧
      event.after = event.before
  silent : event.deed ≠ .flush → event.exchanges = []
  posted : HttpEvents.isOpen earlier = true → event.deed = .flush →
    (∃ exchange ∈ event.exchanges.head?, exchange.Carries (some (HttpEvents.unsent earlier))) ∧
      ∀ exchange ∈ event.exchanges,
        exchange.Carries (some (HttpEvents.unsent earlier)) ∨ exchange.Carries none
  answered : event.deed = .flush → event.result.isOk = true →
    ∃ exchange ∈ event.exchanges.getLast?, ∃ status, exchange.answer? = some (status, event.reply) ∧
      200 ≤ status ∧ status < 300
  read (most : Nat) : event.deed = .read most → event.result =
    .ok (((HttpEvents.lastReply earlier).drop (HttpEvents.askedSince earlier)).take most)

theorem HttpChannel.Accounts.fits {uri : String} {earlier : List HttpEvent} {event : HttpEvent}
    (accounts : Accounts uri earlier event.before) (possible : event.Possible) :
    event.Fits uri earlier where
  opened := accounts.opened
  written octets isOpen deed := possible.taken (accounts.opened.trans isOpen) deed
  refused isClosed deed := by
    rw [← accounts.named]
    exact possible.refused (accounts.opened.trans isClosed) deed
  silent := possible.silent
  posted isOpen deed := by
    obtain ⟨result, followed⟩ := possible.followed (accounts.opened.trans isOpen) deed
    rw [← accounts.pending]
    exact ⟨followed.begins, followed.carries⟩
  answered deed succeeds := by
    rw [possible.reply_eq deed succeeds]
    exact possible.answered deed succeeds
  read most deed := by
    rw [← accounts.received]
    exact possible.read_eq deed

/-! A channel on a stage. -/

def Stage.facing (scripts : List PeerScript) : Stage :=
  { peer := { hosts := ["peer"], port := 80, scripts } }

namespace HttpChannel

def plain : HttpChannel := { uri := "http://peer/", setup := ⟨none, "", .empty⟩ }

def plainOpen : HttpChannel :=
  { plain with handle := some ⟨{ host := "peer" }, headers plain.setup, none⟩ }

theorem plain_handle : handleOf plain.setup { host := "peer" } none =
    .ok ⟨{ host := "peer" }, headers plain.setup, none⟩ := by
  have fields : (headers plain.setup).fields.map Prod.snd = [mediaType, mediaType] := by
    decide +kernel
  simp [handleOf, fields, isCut, mediaType]

theorem plain_openUp : (plain.openUp Stage.network.watched Stage.fileStore.beside).run
    (Stage.facing [], []) = ((.ok (), plainOpen), Stage.facing [], []) := by
  have host : hostOf plain.uri = .ok "peer" := by decide +kernel
  have uncut : isCut plain.uri = false := by simp [isCut, plain]
  have parsed : HttpAddress.parse plain.uri = .ok { host := "peer" } := by decide +kernel
  have address : addressOf plain.uri = .ok { host := "peer" } := by
    rw [addressOf, uncut, parsed]
    rfl
  have reached : (Stage.facing []).peer.reach { host := "peer" } = .ok () := by decide +kernel
  have reaches : (Stage.network.watched.reach { host := "peer" }).run
      (Stage.facing [], ([] : List HttpExchange)) = (.ok (), Stage.facing [], []) := by
    rw [← reached]
    rfl
  have finds : (accountFor Stage.fileStore.beside plain.setup.credentials "peer").run
      (Stage.facing [], ([] : List HttpExchange)) = (none, Stage.facing [], []) := rfl
  simp only [openUp, host, address]
  rw [StateM.run_bind_of reaches]
  simp only
  rw [StateM.run_bind_of finds, plain_handle]
  rfl

theorem plain_history : History Stage.network Stage.fileStore plain.uri plain.setup
    [⟨.openUp, plain, .ok [], [], plainOpen⟩] plainOpen := by
  have opens : plain.perform Stage.network Stage.fileStore .openUp (Stage.facing []) =
      ⟨.openUp, plain, .ok [], [], plainOpen⟩ := by
    rw [perform, HttpDeed.run, StateM.run_bind_of plain_openUp]
    rfl
  have new : History Stage.network Stage.fileStore plain.uri plain.setup [] plain := .created
  have opened := new.did .openUp (Stage.facing [])
  rwa [opens] at opened

end HttpChannel

/-- Each delivery carries what was written since the channel was opened or closed or a delivery was
begun last, so two deliveries have nothing in common. What is read is the beginning of the last
reply, and there is nothing to be read once the channel was opened or closed. -/
theorem HttpChannel.History.deliveries_share_nothing {network : Network (StateM σ)}
    {files : FileStore (StateM σ)} {uri : String} {setup : ChannelSetup} {events : List HttpEvent}
    {channel : HttpChannel} (history : History network files uri setup events channel) :
    (∀ (earlier : List HttpEvent) (event : HttpEvent) (later : List HttpEvent),
      events = earlier ++ event :: later → event.Fits uri earlier) ∧
    (∀ (before between later : List HttpEvent) (first second : HttpEvent),
      events = before ++ first :: (between ++ second :: later) →
      first.deed = .flush → first.before.isOpen = true →
      second.deed = .flush → second.before.isOpen = true →
      ∀ exchange ∈ second.exchanges,
        exchange.Carries (some (HttpEvents.unsent between)) ∨ exchange.Carries none) ∧
    HttpEvents.gotSince events =
      (HttpEvents.lastReply events).take (HttpEvents.askedSince events) ∧
    ∀ (before between later : List HttpEvent) (first second : HttpEvent) (most : Nat),
      events = before ++ first :: (between ++ second :: later) →
      first.deed = .close ∨ first.deed = .openUp ∧ first.result.isOk = true →
      (∀ event ∈ between, event.deed = .flush → event.result.isOk = false) →
      second.deed = .read most → second.result = .ok [] := by
  have fits (earlier : List HttpEvent) (event : HttpEvent) (later : List HttpEvent) :
      events = earlier ++ event :: later → event.Fits uri earlier := by
    rintro rfl
    obtain ⟨history, possible⟩ := history.of_append_cons
    exact history.accounts.fits possible
  have second_fits (before between later : List HttpEvent) (first second : HttpEvent) :
      events = before ++ first :: (between ++ second :: later) →
      second.Fits uri (before ++ first :: between) := by
    rintro rfl
    exact fits _ second later (by simp)
  refine ⟨fits, ?_, history.accounts.got, ?_⟩
  · intro before between later first second whole flushed isOpen again stillOpen
    have clears : first.clears = true := by rw [HttpEvent.clears, flushed, isOpen]
    have fit := second_fits before between later first second whole
    rw [← HttpEvents.unsent_append_cons clears before between]
    exact (fit.posted (fit.opened.symm.trans stillOpen) again).2
  · intro before between later first second most whole empties unanswered reads
    rw [(second_fits before between later first second whole).read most reads,
      HttpEvents.lastReply_append_cons empties before unanswered, List.drop_nil, List.take_nil]

open HttpEvents in
theorem HttpChannel.History.failed_delivery_is_left_out : ∃ (before between : List HttpEvent)
    (first second third : HttpEvent) (channel : HttpChannel),
    History Stage.network Stage.fileStore plain.uri plain.setup
      (before ++ first :: (between ++ [second, third])) channel ∧
    unsent before = [1, 2] ∧ first.deed = .flush ∧ first.result.isOk = false ∧
    second.deed = .flush ∧ second.result.isOk = true ∧ unsent between = [3] ∧
    (∀ exchange ∈ second.exchanges,
      exchange.Carries (some (unsent between)) ∨ exchange.Carries none) ∧
    third.deed = .read 1 ∧
    gotSince (before ++ first :: (between ++ [second, third])) = [4] := by
  have history := plain_history.did (.write [1, 2]) (Stage.facing [])
    |>.did .flush (Stage.facing [.hangUp])
    |>.did (.write [3]) (Stage.facing [])
    |>.did .flush (Stage.facing [.reply 200 [] (.bytes [4, 5])])
    |>.did (.read 1) (Stage.facing [])
  obtain ⟨-, apart, got, -⟩ := history.deliveries_share_nothing
  refine ⟨[_, _], [_], _, _, _, _, history, ?_, rfl, ?_, rfl, ?_, ?_, ?_, rfl, ?_⟩
  · decide +kernel
  · decide +kernel
  · decide +kernel
  · decide +kernel
  · exact apart [_, _] [_] [_] _ _ rfl rfl rfl rfl (by decide +kernel)
  · exact got.trans (by decide +kernel)

end SchedulerLink
