import SchedulerLink.Proofs.Fitting
import SchedulerLink.Proofs.StageCorrespondence

/-!
Calls of a session to a peer that answers them.

As long as the peer asks to be called again, every attempt sends the call over a connection of its
own. So a call comes to the first response that does not ask for that, unless its time is over
before, or the clock is so late that no instant ends the time allowed for connecting.
-/

namespace SchedulerLink

variable {σ α β : Type}

def Locator.Leads (surroundings : Surroundings (StateM σ) Nat) : Locator → Prop
  | .direct base => ∃ uri, Connect.interfaceUri base = .ok uri
  | .registry locator => surroundings.hasRegistry = true ∧
      ∀ base ∈ locator.found, ∃ uri, Connect.interfaceUri base = .ok uri

namespace Locator.Leads

variable {peer : Correspondence σ} {post : Post} {held : Option Nat} {locator : Locator} {state : σ}

theorem forget (leads : locator.Leads peer.surroundings) :
    locator.forget.Leads peer.surroundings := by
  cases locator with
  | direct base => exact leads
  | registry locator => exact ⟨leads.1, by rintro base ⟨⟩⟩

theorem rawUrl_play (leads : locator.Leads peer.surroundings)
    (poised : peer.Poised post held state) : ∃ base uri after next,
      (locator.rawUrl peer.surroundings).play state = (.ok (.ok base, after), next) ∧
        Connect.interfaceUri base = .ok uri ∧ after.Leads peer.surroundings ∧
        peer.Poised post held next ∧ peer.Instant state next := by
  cases locator with
  | direct base =>
    obtain ⟨uri, address⟩ := leads
    exact ⟨base, uri, _, state, rfl, address, ⟨uri, address⟩, poised, .refl peer state⟩
  | registry locator =>
    obtain ⟨registered, known⟩ := leads
    rw [Locator.rawUrl, Run.play_bind, RegistryLocator.rawUrl]
    cases found : locator.found with
    | some base =>
      obtain ⟨uri, address⟩ := known base found
      exact ⟨base, uri, _, state, rfl, address, ⟨registered, known⟩, poised, .refl peer state⟩
    | none =>
      obtain ⟨leader, others, uri, next, asks, address, poised⟩ :=
        peer.lookup_leads locator.target locator.patience registered poised
      have instant : peer.Instant state next :=
        .of_eq asks fun punctual => punctual.lookup locator.target locator.patience state
      have leads : Leads peer.surroundings
          (.registry { locator with found := some leader.url }) := by
        refine ⟨registered, ?_⟩
        rintro base ⟨⟩
        exact ⟨uri, address⟩
      refine ⟨leader.url, uri, _, next, ?_, address, leads, poised, instant⟩
      simp only [Run.play_bind_ok asks, RegistryLocator.leader]
      rfl

end Locator.Leads

/-- The number of the next call of a link. -/
def Link.nextSequence (link : Link Nat) : Int32 := (link.connection.map (·.sequence)).getD 0 + 1

/-- A link over which a peer can be called, and the time allowed for connecting it. -/
structure Link.Ready (peer : Correspondence σ) (post : Post) (wait : Duration) (link : Link Nat)
    (state : σ) : Prop where
  leads : link.locator.Leads peer.surroundings
  waits : link.options.connectWait = wait
  poised : peer.Poised post link.held state

/-- The end of a run that connects so late that no instant ends the time allowed for it. Nothing
reaches the peer. -/
structure Correspondence.Overruns (peer : Correspondence σ) (wait : Duration) (state : σ)
    (ends : Except Halt α × σ) : Prop where
  halts : ends.1 = .error .overflow
  far : ¬Deadline.InReach (peer.clock ends.2) wait
  received : peer.received ends.2 = peer.received state
  instant : peer.Instant state ends.2

theorem Correspondence.Overruns.bind {peer : Correspondence σ} {wait : Duration} {state : σ}
    {program : Run (StateM σ) α} (overruns : peer.Overruns wait state (program.play state))
    (next : α → Run (StateM σ) β) : peer.Overruns wait state ((program >>= next).play state) := by
  rcases plays : program.play state with ⟨outcome, stop⟩
  rw [plays] at overruns
  obtain ⟨rfl, far, received, instant⟩ := overruns
  rw [Run.play_bind_error plays]
  exact ⟨rfl, far, received, instant⟩

structure Correspondence.Gives (peer : Correspondence σ) (method : Method) (response : Response) :
    Prop where
  portable : response.Portable
  short (sequence : Int32) :
    (Message.encodeReply method.name sequence response).length < peer.blocks

def Correspondence.rested (peer : Correspondence σ) (call : PendingCall) (policy : Policy)
    (made : Nat) (state : σ) : σ :=
  match policy.pause? made (call.deadline.remaining (peer.clock state)) with
  | some pause => ((peer.surroundings.pause pause).run state).2
  | none => state

structure PendingCall.Readable (call : PendingCall) : Prop where
  few : call.arguments.length ≤ Message.argumentLimit
  portable : ∀ argument ∈ call.arguments, Json.Portable 125 argument

def PendingCall.message (call : PendingCall) (sequence : Int32) : Bytes :=
  Message.encodeCall call.method.name sequence call.arguments

namespace Link

variable {peer : Correspondence σ} {post : Post} {wait : Duration} {link : Link Nat} {state : σ}

theorem connectDeadline_near (peer : Correspondence σ) (deadline : Deadline) {state : σ}
    (near : Deadline.InReach (peer.clock state) link.options.connectWait) : ∃ window,
      (link.connectDeadline peer.surroundings (some deadline)).play state =
        (.ok (some window), state) := by
  have capped : deadline.capped? (peer.clock state) link.options.connectWait =
      some ⟨min deadline.expiry (peer.clock state + link.options.connectWait)⟩ :=
    Deadline.capped?_eq_some.mpr ⟨near, rfl⟩
  refine ⟨⟨min deadline.expiry (peer.clock state + link.options.connectWait)⟩, ?_⟩
  simp only [connectDeadline, Surroundings.capped, Run.play_bind, Run.play_lift, peer.now_run,
    capped]
  rfl

theorem connectDeadline_far (peer : Correspondence σ) (deadline : Deadline) {state : σ}
    (far : ¬Deadline.InReach (peer.clock state) link.options.connectWait) :
    (link.connectDeadline peer.surroundings (some deadline)).play state =
      (.error .overflow, state) := by
  simp only [connectDeadline, Surroundings.capped, Run.play_bind, Run.play_lift, peer.now_run,
    Deadline.capped?_eq_none.mpr far]
  rfl

theorem connectTo_play (link : Link Nat) {base uri : String} (fuel : Nat) (deadline : Deadline)
    (address : Connect.interfaceUri base = .ok uri) (poised : peer.Poised post none state) :
    (∃ channel next,
      (link.connectTo peer.surroundings (fuel + 1) (some deadline) base).play state =
          (.ok (.ok { channel },
            { link with connection := some { channel }, epoch := link.epoch + 1 }), next) ∧
        peer.Poised post (some channel) next ∧ peer.Instant state next) ∨
      peer.Overruns link.options.connectWait state
        ((link.connectTo peer.surroundings (fuel + 1) (some deadline) base).play state) := by
  rw [connectTo, address]
  simp only
  by_cases near : Deadline.InReach (peer.clock state) link.options.connectWait
  swap
  · rw [Run.play_bind_error (connectDeadline_far peer deadline near)]
    exact .inr ⟨rfl, near, rfl, .refl peer state⟩
  obtain ⟨window, windowed⟩ := connectDeadline_near peer deadline near
  obtain ⟨channel, created, opened, creates, opens, poised⟩ :=
    peer.create_opens uri (.ofOptions link.options link.login) poised
  have creating : peer.Instant state created :=
    .of_eq creates fun punctual => punctual.create uri _ state
  have opening : peer.Instant created opened :=
    .of_eq opens fun punctual => punctual.openChannel channel created
  have adopting : peer.Instant opened ((peer.surroundings.adopt channel).run opened).2 :=
    fun punctual => punctual.adopt channel opened
  have reached : (Connect.openChannel peer.surroundings (fuel + 1) link.options link.login uri
      (some window)).play state = (.ok (.ok channel), opened) := by
    rw [Connect.openChannel, Run.play_bind, Run.play_lift, creates]
    simp only [Connect.openUntil, Run.play_bind, Run.play_lift, opens]
    rfl
  refine .inl ⟨channel, _, ?_, peer.adopt_poised poised,
    creating.trans (opening.trans adopting)⟩
  rw [Run.play_bind_ok windowed, Run.play_bind_ok reached]
  rfl

namespace Ready

/-- A link connects unless it is connected. -/
theorem connect_play (ready : link.Ready peer post wait state) (fuel : Nat)
    (deadline : Deadline) :
    (∃ connection after next,
      (link.connect peer.surroundings (fuel + 1) (some deadline)).play state =
          (.ok (.ok connection, after), next) ∧
        after.connection = some connection ∧ after.nextSequence = link.nextSequence ∧
        after.Ready peer post wait next ∧ peer.Instant state next) ∨
      peer.Overruns wait state
        ((link.connect peer.surroundings (fuel + 1) (some deadline)).play state) := by
  cases held : link.connection with
  | some connection =>
    refine .inl ⟨connection, link, state, ?_, held, rfl, ready, .refl peer state⟩
    rw [connect, held]
    rfl
  | none =>
    have poised := ready.poised
    rw [Link.held, held, Option.map_none] at poised
    obtain ⟨base, uri, locator, found, names, address, leads, poised, finding⟩ :=
      ready.leads.rawUrl_play poised
    have same : (link.connect peer.surroundings (fuel + 1) (some deadline)).play state =
        ({ link with locator }.connectTo peer.surroundings (fuel + 1) (some deadline) base).play
          found := by
      rw [connect, held]
      simp only [Run.play_bind_ok names]
    rw [same]
    rcases connectTo_play { link with locator } fuel deadline address poised with
      ⟨channel, next, reaches, reached, reaching⟩ | overruns
    · exact .inl ⟨{ channel }, { link with
        locator, connection := some { channel }, epoch := link.epoch + 1 }, next, reaches, rfl,
        by rw [nextSequence, nextSequence, held]; rfl, ⟨leads, ready.waits, reached⟩,
        finding.trans reaching⟩
    · obtain ⟨halts, far, received, instant⟩ := overruns
      refine .inr ⟨halts, ready.waits ▸ far, ?_, finding.trans instant⟩
      rw [received, peer.received_eq poised, peer.received_eq ready.poised]

theorem send_play {received : List Bytes} {response : Response} {coming : List Response}
    {connection : Connection Nat} {call : PendingCall}
    (ready : link.Ready peer ⟨received, response :: coming⟩ wait state)
    (held : link.connection = some connection) (readable : call.Readable)
    (gives : peer.Gives call.method response) : ∃ after next,
      (link.send peer.surroundings connection call.method call.arguments).play state =
          (.ok (.ok response, after), next) ∧
        after.Ready peer ⟨received ++ [call.message link.nextSequence], coming⟩ wait next ∧
        peer.Instant state next := by
  have poised := ready.poised
  rw [Link.held, held, Option.map_some] at poised
  have numbered : link.nextSequence = connection.sequence + 1 := by
    rw [nextSequence, held]
    rfl
  obtain ⟨next, calls, poised, instant⟩ := peer.call_play poised readable.few readable.portable
    gives.portable (gives.short link.nextSequence)
  refine ⟨{ link with connection := some connection.next }, next, ?_,
    ⟨ready.leads, ready.waits, poised⟩, instant⟩
  rw [numbered] at calls
  rw [send, Run.play_bind_ok calls]
  rfl

theorem invalidate_play (ready : link.Ready peer post wait state) : ∃ next,
    (link.invalidate peer.surroundings).play state = (.ok link.released, next) ∧
      link.released.Ready peer post wait next ∧ peer.Instant state next := by
  have poised := ready.poised
  cases held : link.connection with
  | none =>
    rw [Link.held, held] at poised
    refine ⟨state, ?_, ⟨ready.leads.forget, ready.waits, poised⟩, .refl peer state⟩
    rw [invalidate, close, held]
    simp only [Run.play_bind, Run.play_pure, released, held]
  | some connection =>
    rw [Link.held, held] at poised
    refine ⟨_, ?_, ⟨ready.leads.forget, ready.waits, peer.close_poised poised⟩,
      fun punctual => punctual.closeChannel connection.channel state⟩
    rw [invalidate, close, held]
    simp only [Run.play_bind, Run.play_pure, Run.play_lift, released]

end Ready

end Link

namespace Session

variable {peer : Correspondence σ} {post : Post} {wait : Duration} {session : Session Nat}
  {state : σ}

/-- The number of the next call of a session. -/
def nextSequence (session : Session Nat) : Int32 :=
  (session.link.map Link.nextSequence).getD 1

/-- The numbers of the messages of a call: the first goes over the connection that there is, each
other over a connection of its own. -/
def numbers (session : Session Nat) : Nat → List Int32
  | 0 => []
  | others + 1 => session.nextSequence :: List.replicate others 1

theorem length_numbers (session : Session Nat) (count : Nat) :
    (session.numbers count).length = count := by
  cases count with
  | zero => rfl
  | succ others => rw [numbers, List.length_cons, List.length_replicate]

theorem numbers_of_fresh (session : Session Nat) (fresh : session.nextSequence = 1) (count : Nat) :
    session.numbers count = List.replicate count 1 := by
  cases count with
  | zero => rfl
  | succ others => rw [numbers, fresh, List.replicate_succ]

def Ready (peer : Correspondence σ) (post : Post) (wait : Duration) (session : Session Nat)
    (state : σ) : Prop :=
  ∃ link, session.linkOf peer.surroundings = .ok link ∧ link.Ready peer post wait state

theorem Ready.received_eq (ready : session.Ready peer post wait state) :
    peer.received state = post.received := by
  obtain ⟨link, -, ready⟩ := ready
  exact peer.received_eq ready.poised

theorem Ready.isStopping_run (ready : session.Ready peer post wait state) :
    peer.surroundings.isStopping.run state = (false, state) := by
  obtain ⟨link, -, ready⟩ := ready
  exact peer.isStopping_run ready.poised

theorem nextSequence_of_linkOf {link : Link Nat}
    (made : session.linkOf peer.surroundings = .ok link) :
    link.nextSequence = session.nextSequence := by
  unfold linkOf at made
  split at made
  · rename_i known has
    cases made
    rw [nextSequence, has]
    rfl
  · rename_i has
    rw [nextSequence, has, Link.nextSequence, (Link.isNew_of_ofCluster made).idle]
    rfl

theorem Ready.attempt_play {received : List Bytes} {response : Response} {coming : List Response}
    {call : PendingCall} (ready : session.Ready peer ⟨received, response :: coming⟩ wait state)
    (fuel : Nat) (readable : call.Readable) (gives : peer.Gives call.method response) :
    (∃ link next,
      (session.attempt peer.surroundings (fuel + 1) call).play state =
          (.ok (if response.isTransient then .transient (", ".intercalate response.details)
            else .finished (.ok response), { session with link := some link }), next) ∧
        link.Ready peer ⟨received ++ [call.message session.nextSequence], coming⟩ wait next ∧
        (response.isTransient = true → link.nextSequence = 1) ∧ peer.Instant state next) ∨
      peer.Overruns wait state
        ((session.attempt peer.surroundings (fuel + 1) call).play state) := by
  obtain ⟨link, made, ready⟩ := ready
  rcases ready.connect_play fuel call.deadline with
    ⟨connection, connected, middle, connects, held, numbered, ready, connecting⟩ | overruns
  swap
  · rw [attempt, made]
    exact .inr (overruns.bind _)
  obtain ⟨sent, next, sends, ready, sending⟩ := ready.send_play held readable gives
  rw [numbered, nextSequence_of_linkOf made] at ready
  have attempts : (session.attempt peer.surroundings (fuel + 1) call).play state =
      (withResult peer.surroundings call { session with link := some sent } sent.login.advice
        (.ok response)).play next := by
    rw [attempt, made]
    simp only
    rw [Run.play_bind_ok connects]
    simp only
    rw [Run.play_bind_ok sends]
  cases asks : response.isTransient with
  | false =>
    refine .inl ⟨sent, next, ?_, ready, nofun, connecting.trans sending⟩
    rw [attempts, withResult, Outcome.ofResult, asks]
    rfl
  | true =>
    obtain ⟨stop, gives, ready, releasing⟩ := ready.invalidate_play
    refine .inl ⟨sent.released, stop, ?_, ready, fun _ => rfl,
      connecting.trans (sending.trans releasing)⟩
    rw [attempts, withResult, Outcome.ofResult, asks]
    simp only [if_true, invalidate, Run.play_bind_ok gives, Run.play_bind, Run.play_pure]

/-- One round of a call, unless its time is over. -/
theorem Ready.attempts_play {received : List Bytes} {response : Response} {coming : List Response}
    {call : PendingCall} (ready : session.Ready peer ⟨received, response :: coming⟩ wait state)
    (fuel made : Nat) (lastError : String) (readable : call.Readable)
    (gives : peer.Gives call.method response)
    (timely : (0 < made && call.deadline.isExpired (peer.clock state)) = false) :
    (∃ link next,
      (session.attempts peer.surroundings call (fuel + 2) made lastError).play state =
          (if response.isTransient then
            ({ session with link := some link }.attempts peer.surroundings call (fuel + 1)
              (made + 1) (", ".intercalate response.details)).play
                (peer.rested call session.policy (made + 1) next)
          else (.ok (.ok response, { session with link := some link }), next)) ∧
        link.Ready peer ⟨received ++ [call.message session.nextSequence], coming⟩ wait next ∧
        (response.isTransient = true → link.nextSequence = 1) ∧ peer.Instant state next) ∨
      peer.Overruns wait state
        ((session.attempts peer.surroundings call (fuel + 2) made lastError).play state) := by
  rw [Session.attempts, Run.play_bind, Run.play_lift, ready.isStopping_run]
  simp only [Bool.false_eq_true, if_false]
  rw [Run.play_bind, Run.play_lift, peer.now_run]
  simp only [timely, Bool.false_eq_true, if_false]
  rcases ready.attempt_play fuel readable gives with
    ⟨link, next, attempts, leaves, fresh, instant⟩ | overruns
  swap
  · exact .inr (overruns.bind _)
  refine .inl ⟨link, next, ?_, leaves, fresh, instant⟩
  rw [Run.play_bind_ok attempts]
  cases response.isTransient with
  | false => rfl
  | true =>
    simp only [if_true, Run.play_bind, Run.play_lift, peer.now_run, Correspondence.rested]
    cases session.policy.pause? (made + 1) (call.deadline.remaining (peer.clock next)) with
    | some pause => simp only [Run.play_bind, Run.play_lift]
    | none => rfl

theorem Ready.attempts_late {call : PendingCall} (ready : session.Ready peer post wait state)
    (fuel made : Nat) (lastError : String)
    (late : (0 < made && call.deadline.isExpired (peer.clock state)) = true) :
    (session.attempts peer.surroundings call (fuel + 1) made lastError).play state =
      (.ok (.error (.timedOut call.method session.cluster.name lastError), session), state) := by
  rw [Session.attempts, Run.play_bind, Run.play_lift, ready.isStopping_run]
  simp only [Bool.false_eq_true, if_false]
  rw [Run.play_bind, Run.play_lift, peer.now_run]
  simp only [late, if_true]
  rfl

end Session

def Policy.backoffs (policy : Policy) (made : Nat) : Nat → Duration
  | 0 => .zero
  | count + 1 => policy.backoff (made + 1) + policy.backoffs (made + 1) count

/-- What becomes of a call, `made` attempts at which have been made, when its peer gives the
responses `earlier`, which ask for another call, and then `last`. -/
structure Answered (peer : Correspondence σ) (call : PendingCall) (wait : Duration) (made : Nat)
    (session : Session Nat) (earlier : List Response) (last : Response) (state : σ)
    (answered : Nat) (outcome : Except Halt (Except SessionFailure Response × Session Nat))
    (stop : σ) : Prop where
  messages : peer.received stop =
    peer.received state ++ (session.numbers answered).map call.message
  outcome : answered = earlier.length + 1 ∧ (∃ after, outcome = .ok (.ok last, after)) ∨
    answered ≤ earlier.length ∧
      (0 < made + answered ∧ call.deadline.isExpired (peer.clock stop) = true ∧
          (∃ reason after, outcome =
            .ok (.error (.timedOut call.method session.cluster.name reason), after)) ∨
        ¬Deadline.InReach (peer.clock stop) wait ∧ outcome = .error .overflow)
  timely : peer.Punctual →
    peer.clock state + session.policy.backoffs made earlier.length < call.deadline.expiry →
      Deadline.InReach (peer.clock state + session.policy.backoffs made earlier.length) wait →
        answered = earlier.length + 1

theorem Link.Ready.rested {peer : Correspondence σ} {post : Post} {wait : Duration}
    {link : Link Nat} {state : σ} (ready : link.Ready peer post wait state) (call : PendingCall)
    (policy : Policy) (made : Nat) :
    link.Ready peer post wait (peer.rested call policy made state) := by
  unfold Correspondence.rested
  split
  · exact ⟨ready.leads, ready.waits, peer.pause_poised _ ready.poised⟩
  · exact ready

theorem Correspondence.rested_clock {peer : Correspondence σ} {call : PendingCall}
    {policy : Policy} {made : Nat} {state : σ} (punctual : peer.Punctual)
    (room : peer.clock state + policy.backoff made < call.deadline.expiry) :
    peer.clock (peer.rested call policy made state) = peer.clock state + policy.backoff made := by
  have room : (peer.clock state).nanos + (policy.backoff made).nanos <
      call.deadline.expiry.nanos := room
  have left : call.deadline.remaining (peer.clock state) ≠ .zero := by
    rw [Ne, Duration.eq_zero_iff_nanos, Deadline.remaining, Duration.nanos_sub]
    omega
  have whole : min (policy.backoff made) (call.deadline.remaining (peer.clock state)) =
      policy.backoff made := by
    apply Duration.nanos_injective
    rw [Duration.nanos_min, Deadline.remaining, Duration.nanos_sub]
    omega
  rw [rested, Policy.pause?_eq_some.mpr ⟨left, whole.symm⟩]
  exact punctual.pause _ state

namespace Answered

variable {peer : Correspondence σ} {call : PendingCall} {wait : Duration} {made : Nat}
  {session : Session Nat} {earlier : List Response} {last : Response} {state stop : σ}

theorem late (reason : String)
    (late : (0 < made && call.deadline.isExpired (peer.clock state)) = true) :
    Answered peer call wait made session earlier last state 0
      (.ok (.error (.timedOut call.method session.cluster.name reason), session)) state := by
  obtain ⟨begun, expired⟩ := (Bool.and_eq_true _ _).mp late
  refine ⟨(List.append_nil _).symm,
    .inr ⟨Nat.zero_le _, .inl ⟨of_decide_eq_true begun, expired, reason, session, rfl⟩⟩,
    fun _ room _ => ?_⟩
  have passed := of_decide_eq_true expired
  rw [Duration.eq_zero_iff_nanos, Deadline.remaining, Duration.nanos_sub] at passed
  have room : (peer.clock state).nanos + (session.policy.backoffs made earlier.length).nanos <
      call.deadline.expiry.nanos := room
  omega

theorem overrun {ends : Except Halt (Except SessionFailure Response × Session Nat) × σ}
    (overruns : peer.Overruns wait state ends) :
    Answered peer call wait made session earlier last state 0 ends.1 ends.2 := by
  refine ⟨overruns.received.trans (List.append_nil _).symm,
    .inr ⟨Nat.zero_le _, .inr ⟨overruns.far, overruns.halts⟩⟩, fun punctual _ near => ?_⟩
  have still := overruns.instant punctual
  refine absurd (near.mono ?_ (Nat.le_refl _)) overruns.far
  rw [still]
  exact Nat.le_add_right _ _

theorem once {after : Session Nat} (received : peer.received stop =
      peer.received state ++ [call.message session.nextSequence]) :
    Answered peer call wait made session [] last state 1 (.ok (.ok last, after)) stop :=
  ⟨received, .inl ⟨rfl, after, rfl⟩, fun _ _ _ => rfl⟩

/-- One more response that asks for another call. -/
theorem again {response : Response} {link : Link Nat} {next : σ} {answered : Nat}
    {outcome : Except Halt (Except SessionFailure Response × Session Nat)}
    (fresh : link.nextSequence = 1)
    (received : peer.received (peer.rested call session.policy (made + 1) next) =
      peer.received state ++ [call.message session.nextSequence])
    (instant : peer.Instant state next)
    (later : Answered peer call wait (made + 1) { session with link := some link } earlier last
      (peer.rested call session.policy (made + 1) next) answered outcome stop) :
    Answered peer call wait made session (response :: earlier) last state (answered + 1) outcome
      stop := by
  refine ⟨?_, ?_, fun punctual room near => ?_⟩
  · have numbered : Session.numbers { session with link := some link } answered =
        List.replicate answered 1 :=
      Session.numbers_of_fresh { session with link := some link } fresh answered
    rw [later.messages, received, numbered, Session.numbers, List.map_cons, List.append_assoc]
    rfl
  · rcases later.outcome with ⟨whole, result⟩ | ⟨part, ⟨-, late⟩ | far⟩
    · exact .inl ⟨congrArg (· + 1) whole, result⟩
    · exact .inr ⟨Nat.succ_le_succ part, .inl ⟨by omega, late⟩⟩
    · exact .inr ⟨Nat.succ_le_succ part, .inr far⟩
  · have still := instant punctual
    have room : (peer.clock state).nanos + ((session.policy.backoff (made + 1)).nanos +
        (session.policy.backoffs (made + 1) earlier.length).nanos) <
        call.deadline.expiry.nanos := room
    have first : peer.clock next + session.policy.backoff (made + 1) < call.deadline.expiry := by
      change (peer.clock next).nanos + (session.policy.backoff (made + 1)).nanos < _
      rw [still]
      omega
    have rested : peer.clock (peer.rested call session.policy (made + 1) next) +
        session.policy.backoffs (made + 1) earlier.length =
        peer.clock state + session.policy.backoffs made (response :: earlier).length := by
      rw [Correspondence.rested_clock punctual first, still]
      exact Duration.nanos_injective (Nat.add_assoc _ _ _)
    refine congrArg (· + 1) (later.timely punctual ?_ ?_)
    · rw [rested]
      exact room
    · rw [rested]
      exact near

end Answered

namespace Session

variable {peer : Correspondence σ} {call : PendingCall} {wait : Duration} {last : Response}
  {coming : List Response}

/-- A call comes to the first response that does not ask for another one, or its time is over, or
it halts since it connects too late. -/
theorem Ready.attempts_answered {earlier : List Response} {session : Session Nat}
    {received : List Bytes} {state : σ}
    (ready : session.Ready peer ⟨received, earlier ++ last :: coming⟩ wait state)
    (fuel made : Nat) (lastError : String) (readable : call.Readable)
    (transient : ∀ response ∈ earlier, response.isTransient = true)
    (final : last.isTransient = false)
    (gives : ∀ response ∈ earlier ++ [last], peer.Gives call.method response)
    (enough : earlier.length + 1 < fuel) : ∃ answered outcome stop,
      (session.attempts peer.surroundings call fuel made lastError).play state =
          (outcome, stop) ∧
        Answered peer call wait made session earlier last state answered outcome stop ∧
        ∀ result after, outcome = .ok (result, after) →
          after.Ready peer ⟨peer.received stop, (earlier ++ last :: coming).drop answered⟩ wait
            stop := by
  -- Every round takes one of the responses that are left, so they carry the induction.
  induction earlier generalizing fuel made lastError session received state with
  | nil =>
    obtain rfl := ready.received_eq
    obtain ⟨less, rfl⟩ : ∃ less, fuel = less + 2 := Nat.exists_eq_add_of_le' enough
    cases late : 0 < made && call.deadline.isExpired (peer.clock state) with
    | true =>
      refine ⟨0, _, _, ready.attempts_late (less + 1) made lastError late, .late _ late, ?_⟩
      rintro _ _ ⟨⟩
      exact ready
    | false =>
      rcases ready.attempts_play less made lastError readable (gives last List.mem_cons_self)
        late with ⟨link, next, plays, leaves, -, -⟩ | overruns
      · rw [final] at plays
        have received := peer.received_eq leaves.poised
        refine ⟨1, _, _, plays, .once received, ?_⟩
        rintro _ _ ⟨⟩
        exact ⟨link, rfl, received ▸ leaves⟩
      · refine ⟨0, _, _, Prod.mk.eta.symm, .overrun overruns, fun _ _ ends => ?_⟩
        rw [overruns.halts] at ends
        cases ends
  | cons response rest ih =>
    obtain rfl := ready.received_eq
    obtain ⟨less, rfl⟩ : ∃ less, fuel = less + 2 :=
      Nat.exists_eq_add_of_le' ((Nat.le_add_left 2 rest.length).trans enough.le)
    cases late : 0 < made && call.deadline.isExpired (peer.clock state) with
    | true =>
      refine ⟨0, _, _, ready.attempts_late (less + 1) made lastError late, .late _ late, ?_⟩
      rintro _ _ ⟨⟩
      exact ready
    | false =>
      obtain ⟨asks, others⟩ := List.forall_mem_cons.mp transient
      obtain ⟨given, later⟩ := List.forall_mem_cons.mp gives
      rcases ready.attempts_play less made lastError readable given late with
        ⟨link, next, plays, leaves, fresh, instant⟩ | overruns
      · rw [asks, if_pos rfl] at plays
        have rested := leaves.rested call session.policy (made + 1)
        have relinked : Session.Ready peer _ wait { session with link := some link } _ :=
          ⟨link, rfl, rested⟩
        obtain ⟨answered, outcome, stop, ends, answers, again⟩ :=
          ih relinked (less + 1) (made + 1) _ others later (Nat.lt_of_succ_lt_succ enough)
        exact ⟨answered + 1, outcome, stop, plays.trans ends,
          answers.again (fresh asks) (peer.received_eq rested.poised) instant, again⟩
      · refine ⟨0, _, _, Prod.mk.eta.symm, .overrun overruns, fun _ _ ends => ?_⟩
        rw [overruns.halts] at ends
        cases ends

end Session

theorem PendingCall.readable_of_fit {call : PendingCall} {given : List Json}
    (fits : call.method.signature.fit given = .ok call.arguments)
    (portable : ∀ argument ∈ given, Json.Portable 125 argument) : call.Readable := by
  refine ⟨(Signature.length_le_of_fit fits).trans (call.method.most_le.trans (by decide)), ?_⟩
  intro argument member
  rcases Signature.mem_of_fit fits member with held | rfl
  · exact portable argument held
  · exact .null

/-- A call comes to the first response that does not ask for another one. The peer receives exactly
one message for each response up to that, with the method's name, the numbers of the connections
that carry them, and the arguments but for the nulls at their end. The call ends before that only if
its time is over between two messages, or if it halts because no instant ends the time that it may
take or the time allowed for connecting. Where time passes in pauses only, neither is so as long as
the pauses take less than the call may and the instants are there. -/
theorem call_comes_to_last_response (peer : Correspondence σ) (fuel : Nat) (session : Session Nat)
    (request : Request) (repeatable : Bool) (arguments : List Json)
    (earlier : List Response) (last : Response) (coming : List Response) (wait : Duration)
    (state : σ)
    (fits : request.method.signature.fit request.arguments = .ok arguments)
    (portable : ∀ argument ∈ request.arguments, Json.Portable 125 argument)
    (transient : ∀ response ∈ earlier, response.code = .errorTransient)
    (final : last.code ≠ .errorTransient)
    (gives : ∀ response ∈ earlier ++ [last], peer.Gives request.method response)
    (ready : session.Ready peer ⟨peer.received state, earlier ++ last :: coming⟩ wait state)
    (enough : earlier.length + 1 < fuel) :
    ∃ answered requests outcome stop,
      (session.invoke peer.surroundings fuel request repeatable).play state = (outcome, stop) ∧
        peer.received stop = peer.received state ++ requests ∧
        requests.length = answered ∧
        requests.map Message.decodeCall = (session.numbers answered).map (fun sequence =>
          .ok (request.method.name, sequence, Message.trimmed arguments)) ∧
        (answered = earlier.length + 1 ∧ (∃ after, outcome = .ok (.ok last, after)) ∨
          0 < answered ∧ answered ≤ earlier.length ∧
            peer.clock state + session.policy.longestWait ≤ peer.clock stop ∧
            (∃ reason after, outcome =
              .ok (.error (.timedOut request.method session.cluster.name reason), after)) ∨
          answered ≤ earlier.length ∧
            (¬Deadline.InReach (peer.clock state) session.policy.longestWait ∨
              ¬Deadline.InReach (peer.clock stop) wait) ∧
            outcome = .error .overflow) ∧
        (peer.Punctual →
          session.policy.backoffs 0 earlier.length < session.policy.longestWait →
            Deadline.InReach (peer.clock state) session.policy.longestWait →
              Deadline.InReach
                (peer.clock state + session.policy.backoffs 0 earlier.length) wait →
                answered = earlier.length + 1) ∧
        ∀ result after, outcome = .ok (result, after) →
          after.Ready peer ⟨peer.received stop, (earlier ++ last :: coming).drop answered⟩ wait
            stop := by
  rw [Session.invoke, fits]
  simp only [Surroundings.deadline, Run.play_bind, Run.play_lift, peer.now_run]
  by_cases near : Deadline.InReach (peer.clock state) session.policy.longestWait
  swap
  · simp only [Deadline.after?_eq_none.mpr near]
    refine ⟨0, [], .error .overflow, state, rfl, (List.append_nil _).symm, rfl, rfl,
      .inr (.inr ⟨Nat.zero_le _, .inl near, rfl⟩), fun _ _ reaches => absurd reaches near, ?_⟩
    rintro _ _ ⟨⟩
  simp only [Deadline.after?_eq_some.mpr ⟨near, rfl⟩, Run.play_pure]
  have readable : PendingCall.Readable ⟨request.method, arguments, repeatable,
      ⟨peer.clock state + session.policy.longestWait⟩⟩ :=
    PendingCall.readable_of_fit fits portable
  obtain ⟨answered, outcome, stop, attempts, answers, again⟩ :=
    ready.attempts_answered fuel 0 "" readable
      (fun response member => decide_eq_true (transient response member))
      (decide_eq_false final) gives enough
  refine ⟨answered, _, outcome, stop, attempts, answers.messages, ?_, ?_, ?_, ?_, again⟩
  · rw [List.length_map, Session.length_numbers]
  · rw [List.map_map]
    exact List.map_congr_left fun sequence _ =>
      Message.decodeCall_eq_trimmed request.method.name sequence readable.few readable.portable
  · rcases answers.outcome with whole | ⟨part, ⟨some, expired, ends⟩ | ⟨far, halts⟩⟩
    · exact .inl whole
    · have passed := of_decide_eq_true expired
      rw [Duration.eq_zero_iff_nanos, Deadline.remaining, Duration.nanos_sub,
        Nat.sub_eq_zero_iff_le] at passed
      exact .inr (.inl ⟨by omega, part, passed, ends⟩)
    · exact .inr (.inr ⟨part, .inr far, halts⟩)
  · intro punctual room _ reaches
    exact answers.timely punctual (Nat.add_lt_add_left room (peer.clock state).nanos) reaches

def Session.seasoned : Session Nat :=
  { Session.hasty with link := some {
      locator := .direct "http://scheduler:8081"
      login := .anonymous
      options := {}
      connection := some { channel := 0, sequence := 4 } } }

def Stage.swamped : Stage where
  wire := [.answering 3 (.transient ["busy"]), .answering 3 (.ofCode .ok)]
  channels := [{ isOpen := true }]

theorem swamped_scheduler_answers_second_message :
    ∃ after stop,
      (Session.seasoned.invoke (Stage.swamped.surroundings (.wire 120) fun _ => .ok .anonymous) 3
        ⟨.killTasks, [Argument.text "job", .null]⟩ false).play Stage.swamped =
          (.ok (.ok (.ofCode .ok), after), stop) ∧
        (Log.messages stop.log.reverse).map Message.decodeCall =
          [.ok ("killTasks", 5, [Argument.text "job"]),
            .ok ("killTasks", 1, [Argument.text "job"])] := by
  have nonempty : 0 < 3 := by decide
  have portable : ∀ argument ∈ [Argument.text "job", .null], Json.Portable 125 argument := by
    intro argument member
    simp only [List.mem_cons, List.not_mem_nil, or_false] at member
    rcases member with rfl | rfl
    · exact (Json.Portable.single (Json.Portable.str "job" : Json.Portable 0 _)).mono (by decide)
    · exact .null
  have gives : ∀ response ∈ [Response.transient ["busy"]] ++ [Response.ofCode .ok],
      (Stage.swamped.correspondence 3 120 nonempty fun _ => .ok .anonymous).Gives .killTasks
        response := by
    have short : ∀ response ∈ [Response.transient ["busy"]] ++ [Response.ofCode .ok],
        (Message.encodeReply Method.killTasks.name 0 response).length + 10 < 120 := by
      decide +kernel
    have plain : ∀ code details, code.Canonical → details.length < 9 →
        Response.Portable ⟨code, details, none, none⟩ := fun code details canonical few =>
      ⟨canonical, by rintro result ⟨⟩, by rintro info ⟨⟩, few.trans (by decide)⟩
    have answerable : ∀ response ∈ [Response.transient ["busy"]] ++ [Response.ofCode .ok],
        response.Portable :=
      List.forall_mem_cons.mpr ⟨plain _ _ (by rintro value ⟨⟩) (by decide),
        List.forall_mem_singleton.mpr (plain _ _ (by rintro value ⟨⟩) (by decide))⟩
    exact fun response member => ⟨answerable response member, fun sequence =>
      (Message.length_encodeReply_le _ sequence response).trans_lt (short response member)⟩
  have ready : Session.seasoned.Ready
      (Stage.swamped.correspondence 3 120 nonempty fun _ => .ok .anonymous)
      ⟨[], [Response.transient ["busy"]] ++ Response.ofCode .ok :: []⟩ (.ofSeconds 60)
      Stage.swamped := by
    have attended : Stage.swamped.Attended false 3
        ⟨[], [Response.transient ["busy"]] ++ Response.ofCode .ok :: []⟩ :=
      ⟨rfl, rfl, rfl, rfl, List.forall_mem_nil _, rfl, by rintro ⟨⟩⟩
    have channels : ∀ channel ∈ some 0, ∃ state, Stage.swamped.Shows channel state ∧
        state.isOpen = true ∧ state.pending = [] := by
      rintro channel ⟨⟩
      exact ⟨_, rfl, rfl, rfl⟩
    exact ⟨_, rfl, ⟨"http://scheduler:8081/api", rfl⟩, rfl, attended, channels⟩
  obtain ⟨answered, requests, outcome, stop, plays, received, -, decoded, ends, timely, -⟩ :=
    call_comes_to_last_response
      (Stage.swamped.correspondence 3 120 nonempty fun _ => .ok .anonymous) 3 Session.seasoned
      ⟨.killTasks, [Argument.text "job", .null]⟩ false _ [Response.transient ["busy"]]
      (.ofCode .ok) [] (.ofSeconds 60) Stage.swamped rfl portable (by decide) (by decide) gives
      ready (by decide)
  have begins : Deadline.InReach Duration.zero Session.seasoned.policy.longestWait := by
    decide +kernel
  have connects : Deadline.InReach (.zero + Session.seasoned.policy.backoffs 0 1)
      (.ofSeconds 60) := by
    decide +kernel
  have two : answered = 2 :=
    timely (Stage.correspondence_punctual _ 3 120 nonempty _) (by decide +kernel) begins connects
  subst two
  obtain ⟨-, after, rfl⟩ := ends.resolve_right fun others =>
    absurd (others.elim (fun late => late.2.1) (fun halts => halts.1)) (by decide)
  refine ⟨after, stop, plays, ?_⟩
  rw [show Log.messages stop.log.reverse = requests from received, decoded]
  rfl

/-- A call that may connect for ever sends nothing, although its peer would answer. -/
theorem endless_connecting_sends_nothing :
    let stage := { Stage.swamped with channels := [] }
    let session := { Session.hasty with options := { connectWait := .longest } }
    let played := (session.invoke (stage.surroundings (.wire 120) fun _ => .ok .anonymous) 3
      ⟨.killTasks, [Argument.text "job", .null]⟩ false).play stage
    played.1.map (fun _ => ()) = .error .overflow ∧ Log.messages played.2.log.reverse = [] := by
  decide +kernel

end SchedulerLink
