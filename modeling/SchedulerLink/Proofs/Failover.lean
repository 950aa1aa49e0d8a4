import SchedulerLink.Proofs.Destination
import SchedulerLink.Proofs.Restart
import SchedulerLink.Proofs.Rounds

/-!
Calls follow the leader.

A session that gives up its connection forgets the leader too. So every attempt at a call but the
first asks the registry again, once, and goes to whoever is named first then.
-/

namespace SchedulerLink

variable {σ : Type} {scene : Scene σ}

/-- An attempt that asks the registry once. If somebody is named whose address can be read, one
channel is created, to the interface of whoever is named first, and no other channel is used. The
attempt halts instead exactly where no instant lies `wait` after it. -/
def Performance.AsksAnew (scene : Scene σ) (target : RegistryTarget) (wait : Duration)
    (round : Performance σ (Attempt × Session Nat)) : Prop :=
  ∃ patience answer, round.done.inquiries = [(target.path, patience, answer)] ∧
    ∀ leader others uri, answer = .ok (.ok (leader :: others)) →
      Connect.interfaceUri leader.url = .ok uri →
      (∃ channel, round.done.destinations = [(channel, uri)] ∧
        ∀ other ∈ round.done.used, other = channel) ∨
      ¬ Deadline.InReach (scene.clock round.stop) wait ∧ round.outcome = .error .overflow ∧
        round.done.destinations = []

theorem Performance.AsksAnew.follows {target : RegistryTarget} {wait : Duration}
    {round : Performance σ (Attempt × Session Nat)} (asks : round.AsksAnew scene target wait)
    (near : Deadline.InReach (scene.clock round.stop) wait) {base uri : String}
    (leads : round.done.leader? = some base) (address : Connect.interfaceUri base = .ok uri) :
    ∃ channel, round.done.destinations = [(channel, uri)] ∧
      ∀ other ∈ round.done.used, other = channel := by
  obtain ⟨patience, answer, asked, goes⟩ := asks
  rw [Log.leader?, asked] at leads
  split at leads
  · rename_i leader others same
    cases same
    cases leads
    rcases goes leader others uri rfl address with found | ⟨tooFar, -⟩
    · exact found
    · exact absurd near tooFar
  · cases leads

/-! Attempts that ask. -/

/-- What a link does to connect when it does not know where its leader is. It has done so when it is
`now`. -/
inductive Seeking (locator : RegistryLocator) (wait now : Duration) :
    Log → Except Halt (Except LinkFailure (Connection Nat) × Link Nat) → Prop where
  | vain {answer : Except Halt (Except DiscoveryFailure (List Member))}
    {outcome : Except Halt (Except LinkFailure (Connection Nat) × Link Nat)}
    (unconnected : ∀ connection ready, outcome ≠ .ok (.ok connection, ready))
    (nobody : ∀ leader others uri, answer = .ok (.ok (leader :: others)) →
      Connect.interfaceUri leader.url = .ok uri →
      ¬ Deadline.InReach now wait ∧ outcome = .error .overflow) :
    Seeking locator wait now [.lookedUp locator.target.path locator.patience answer] outcome
  | sought {leader : Member} {others : List Member} {channel : Nat} {uri : String}
    {setup : ChannelSetup} {tried : Log}
    {outcome : Except Halt (Except LinkFailure (Connection Nat) × Link Nat)}
    (address : Connect.interfaceUri leader.url = .ok uri) (touches : tried.Touches channel)
    (own : ∀ connection ready, outcome = .ok (.ok connection, ready) →
      connection.channel = channel) :
    Seeking locator wait now
      (.lookedUp locator.target.path locator.patience (.ok (.ok (leader :: others))) ::
        .created channel uri setup :: tried) outcome

theorem Connecting.seeking {deadline : Deadline} {link : Link Nat} {locator : RegistryLocator}
    {state stop : σ} {done : Log}
    {outcome : Except Halt (Except LinkFailure (Connection Nat) × Link Nat)}
    (connecting : Connecting scene (some deadline) link state done outcome stop)
    (idle : link.connection = none) (located : link.locator = .registry locator)
    (unknown : locator.found = none) :
    Seeking locator link.options.connectWait (scene.clock stop) done outcome := by
  cases connecting with
  | held holds => cases idle.symm.trans holds
  | halted _ locating =>
    rw [located] at locating
    cases locating with
    | halted _ _ => exact .vain (by rintro connection ready ⟨⟩) (by rintro leader others uri ⟨⟩)
  | unlocated _ locating =>
    rw [located] at locating
    cases locating with
    | nobody _ _ nobody =>
      refine .vain (by rintro connection ready ⟨⟩) ?_
      rintro leader others uri ⟨⟩
      cases nobody
  | reached _ locating reaching =>
    rw [located] at locating
    cases locating with
    | known found => cases unknown.symm.trans found
    | found _ _ leads =>
      obtain ⟨leader, others, rfl, rfl⟩ := RegistryLocator.leader_eq_ok leads
      cases reaching with
      | misaddressed misaddressed =>
        refine .vain (by rintro connection ready ⟨⟩) ?_
        rintro _ _ uri ⟨⟩ address
        cases misaddressed.symm.trans address
      | overflow _ tooFar =>
        refine .vain (by rintro connection ready ⟨⟩) ?_
        intro _ _ _ _ _
        exact ⟨Link.window?_eq_none.mp tooFar, rfl⟩
      | halted address _ _ opening =>
        exact .sought address opening.touches (by rintro connection ready ⟨⟩)
      | unopened address _ _ opening =>
        exact .sought address opening.touches (by rintro connection ready ⟨⟩)
      | connected address _ _ opening =>
        refine .sought address (opening.touches.append (.cons trivial .nil)) ?_
        rintro connection ready ⟨⟩
        rfl

namespace Seeking

variable {locator : RegistryLocator} {wait now : Duration} {tried : Log}
  {round : Performance σ (Attempt × Session Nat)}

theorem asksAnew {outcome : Except Halt (Except LinkFailure (Connection Nat) × Link Nat)}
    (seeking : Seeking locator wait now tried outcome) (all : round.done = tried)
    (halts : ∀ halt, outcome = .error halt →
      round.outcome = .error halt ∧ scene.clock round.stop = now) :
    round.AsksAnew scene locator.target wait := by
  cases seeking with
  | vain _ nobody =>
    refine ⟨_, _, congrArg Log.inquiries all, ?_⟩
    intro leader others uri answered address
    obtain ⟨tooFar, overflows⟩ := nobody leader others uri answered address
    obtain ⟨halted, rfl⟩ := halts _ overflows
    exact .inr ⟨tooFar, halted, congrArg Log.destinations all⟩
  | @sought leader others channel uri setup tried _ address touches _ =>
    refine ⟨locator.patience, .ok (.ok (leader :: others)), ?_, ?_⟩
    · rw [all]
      exact congrArg _ touches.inquiries
    · rintro _ _ _ ⟨⟩ same
      cases address.symm.trans same
      refine .inl ⟨channel, ?_, ?_⟩
      · rw [all]
        exact congrArg _ touches.destinations
      · rw [all]
        exact touches.used

theorem asksAnew_more {connection : Connection Nat} {ready : Link Nat} {more : Log}
    (seeking : Seeking locator wait now tried (.ok (.ok connection, ready)))
    (all : round.done = tried ++ more) (touches : more.Touches connection.channel) :
    round.AsksAnew scene locator.target wait := by
  cases seeking with
  | vain unconnected _ => exact absurd rfl (unconnected connection ready)
  | @sought leader others channel uri setup tried _ address first own =>
    rw [own connection ready rfl] at touches
    have whole : Seeking locator wait now
        (.lookedUp locator.target.path locator.patience (.ok (.ok (leader :: others))) ::
          .created channel uri setup :: (tried ++ more)) (.ok (.ok connection, ready)) :=
      .sought address (first.append touches) own
    exact whole.asksAnew all nofun

end Seeking

namespace Attempting

variable {call : PendingCall} {session after : Session Nat} {state stop : σ} {done : Log}
  {outcome : Except Halt (Attempt × Session Nat)}

theorem asksAnew {link : Link Nat} {locator : RegistryLocator}
    (attempting : Attempting scene call session state done outcome stop)
    (linked : session.link = some link) (idle : link.connection = none)
    (located : link.locator = .registry locator) (unknown : locator.found = none) :
    Performance.AsksAnew scene locator.target link.options.connectWait ⟨outcome, stop, done⟩ := by
  have seeking : ∀ {known : Link Nat} {tried : Log} {last : σ}
      {result : Except Halt (Except LinkFailure (Connection Nat) × Link Nat)},
      session.linkOf scene.surroundings = .ok known →
      Connecting scene (some call.deadline) known state tried result last →
      Seeking locator link.options.connectWait (scene.clock last) tried result := by
    intro known tried last result built connecting
    rw [Session.linkOf, linked] at built
    cases built
    exact connecting.seeking idle located unknown
  cases attempting with
  | unbuilt unbuilt =>
    rw [Session.linkOf, linked] at unbuilt
    cases unbuilt
  | halted built connecting =>
    refine (seeking built connecting).asksAnew rfl ?_
    rintro halt ⟨⟩
    exact ⟨rfl, rfl⟩
  | interrupted built connecting =>
    exact (seeking built connecting).asksAnew rfl (by rintro halt ⟨⟩)
  | tooLate built connecting => exact (seeking built connecting).asksAnew rfl (by rintro halt ⟨⟩)
  | unreachable built _ connecting =>
    exact (seeking built connecting).asksAnew rfl (by rintro halt ⟨⟩)
  | callHalted built connecting _ =>
    exact (seeking built connecting).asksAnew_more rfl (.cons rfl .nil)
  | answered built connecting _ _ =>
    exact (seeking built connecting).asksAnew_more rfl (.cons rfl .nil)
  | failed built connecting _ _ releasing =>
    exact (seeking built connecting).asksAnew_more rfl (.cons rfl (releasing.touches _))

theorem touches {link : Link Nat} {connection : Connection Nat}
    (attempting : Attempting scene call session state done outcome stop)
    (linked : session.link = some link) (holds : link.connection = some connection) :
    done.Touches connection.channel := by
  have held : ∀ {known : Link Nat} {tried : Log} {last : σ}
      {result : Except Halt (Except LinkFailure (Connection Nat) × Link Nat)},
      session.linkOf scene.surroundings = .ok known →
      Connecting scene (some call.deadline) known state tried result last →
      tried = [] ∧ result = .ok (.ok connection, link) := by
    intro known tried last result built connecting
    rw [Session.linkOf, linked] at built
    cases built
    cases connecting with
    | held same =>
      cases holds.symm.trans same
      exact ⟨rfl, rfl⟩
    | halted idle _ => cases holds.symm.trans idle
    | unlocated idle _ => cases holds.symm.trans idle
    | reached idle _ _ => cases holds.symm.trans idle
  cases attempting with
  | unbuilt _ => exact .nil
  | halted built connecting => cases (held built connecting).2
  | interrupted built connecting => cases (held built connecting).2
  | tooLate built connecting => cases (held built connecting).2
  | unreachable built _ connecting => cases (held built connecting).2
  | callHalted built connecting _ =>
    obtain ⟨rfl, same⟩ := held built connecting
    cases same
    exact .cons rfl .nil
  | answered built connecting _ _ =>
    obtain ⟨rfl, same⟩ := held built connecting
    cases same
    exact .cons rfl .nil
  | failed built connecting _ _ releasing =>
    obtain ⟨rfl, same⟩ := held built connecting
    cases same
    exact .cons rfl (releasing.touches _)

end Attempting

/-! Sessions of a cluster with a registry. -/

theorem Link.of_ofCluster {surroundings : Surroundings (StateM σ) Nat} {cluster : Cluster}
    {options : LinkOptions} {link : Link Nat}
    (built : Link.ofCluster surroundings cluster options = .ok link) :
    Locator.ofCluster surroundings cluster options.registryWait = .ok link.locator ∧
      link.options = options := by
  unfold Link.ofCluster at built
  split at built
  · cases built
  rename_i located
  split at built
  · cases built
  · cases built
    exact ⟨located, rfl⟩

theorem Locator.registry_of_ofCluster {surroundings : Surroundings (StateM σ) Nat}
    {cluster : Cluster} {patience : Duration} {locator : Locator} {target : RegistryTarget}
    (aims : cluster.target = .ok (.registry target))
    (built : Locator.ofCluster surroundings cluster patience = .ok locator) :
    locator = .registry ⟨target, cluster.proxyUrl, patience, none⟩ := by
  simp only [ofCluster, aims] at built
  split at built
  · cases built
    rfl
  · cases built

theorem Locator.direct_of_ofCluster {surroundings : Surroundings (StateM σ) Nat}
    {cluster : Cluster} {patience : Duration} {locator : Locator} {uri : String}
    (aims : cluster.target = .ok (.direct uri))
    (built : Locator.ofCluster surroundings cluster patience = .ok locator) :
    locator = .direct uri := by
  simp only [ofCluster, aims] at built
  cases built
  rfl

namespace Session

/-- A session whose links ask a registry, and connect for `wait` at most. -/
structure Registered (scene : Scene σ) (target : RegistryTarget) (wait : Duration)
    (session : Session Nat) : Prop where
  sound : session.Sound scene (session.freshLink scene)
  aims : session.cluster.target = .ok (.registry target)
  waits : session.options.connectWait = wait

def Adrift (target : RegistryTarget) (wait : Duration) (session : Session Nat) : Prop :=
  ∃ link locator, session.link = some link ∧ link.connection = none ∧
    link.locator = .registry locator ∧ locator.found = none ∧ locator.target = target ∧
    link.options.connectWait = wait

variable {target : RegistryTarget} {wait : Duration} {session after : Session Nat}

theorem Registered.located {link : Link Nat} (registered : session.Registered scene target wait)
    (linked : session.link = some link) :
    ∃ locator, link.locator = .registry locator ∧ locator.target = target ∧
      link.options.connectWait = wait := by
  have built := (registered.sound.owned link linked).bare
  obtain ⟨found, options⟩ := Link.of_ofCluster built
  have home := Locator.registry_of_ofCluster registered.aims found
  have waits : link.options.connectWait = wait :=
    (congrArg LinkOptions.connectWait options).trans registered.waits
  cases located : link.locator with
  | direct uri =>
    rw [Link.bare, located] at home
    cases home
  | registry locator =>
    rw [Link.bare, located] at home
    have aims := congrArg RegistryLocator.target (Locator.registry.inj home)
    exact ⟨locator, rfl, aims, waits⟩

theorem Registered.adrift {link : Link Nat} (registered : session.Registered scene target wait)
    (linked : session.link = some link) (reset : session.Reset) : session.Adrift target wait := by
  obtain ⟨idle, forgetful⟩ := reset link linked
  obtain ⟨locator, located, aims, waits⟩ := registered.located linked
  rw [located] at forgetful
  have unknown : none = locator.found := congrArg Locator.known? forgetful
  exact ⟨link, locator, linked, idle, located, unknown.symm, aims, waits⟩

theorem Registered.next {call : PendingCall} {attempt : Attempt} {state stop : σ} {done : Log}
    (registered : session.Registered scene target wait)
    (attempting : Attempting scene call session state done (.ok (attempt, after)) stop) :
    after.Registered scene target wait := by
  have sound := attempting.sound registered.sound
  have frame := attempting.frame
  have cluster : after.cluster = session.cluster := by
    rw [frame]
  have options : after.options = session.options := by
    rw [frame]
  refine ⟨?_, ?_, ?_⟩
  · rw [freshLink, cluster, options]
    exact sound
  · rw [cluster]
    exact registered.aims
  · rw [options]
    exact registered.waits

theorem Registered.later {call : PendingCall} {fuel made : Nat} {state : σ}
    (registered : session.Registered scene target wait)
    (all : ∀ (after : Session Nat) (made : Nat) (state : σ),
      after.Registered scene target wait → after.Adrift target wait →
      ∀ round ∈ after.rounds scene call fuel made state, round.AsksAnew scene target wait) :
    ∀ round ∈ (session.rounds scene call (fuel + 1) made state).tail,
      round.AsksAnew scene target wait := by
  rw [rounds]
  split
  · exact List.forall_mem_nil _
  have attempting := attempt_performs scene fuel call session state
  rw [List.tail_cons]
  split
  · rename_i reason after transient
    rw [transient] at attempting
    obtain ⟨link, linked, -⟩ := attempting.idle rfl
    have again := registered.next attempting
    exact all after _ _ again (again.adrift linked (attempting.reset rfl))
  · rename_i after interrupted
    rw [interrupted] at attempting
    rw [rounds_of_stopping attempting.stopping_of_interrupted]
    exact List.forall_mem_nil _
  · exact List.forall_mem_nil _

theorem Registered.rounds_askAnew (call : PendingCall) (fuel made : Nat) (state : σ)
    (registered : session.Registered scene target wait) (adrift : session.Adrift target wait) :
    ∀ round ∈ session.rounds scene call fuel made state, round.AsksAnew scene target wait := by
  -- An attempt that is not the last one leaves neither a connection nor an address.
  induction fuel generalizing made session state with
  | zero => exact List.forall_mem_nil _
  | succ fuel ih =>
    have later : ∀ round ∈ (session.rounds scene call (fuel + 1) made state).tail,
        round.AsksAnew scene target wait :=
      registered.later fun after made state registered adrift => ih made state registered adrift
    cases listed : session.rounds scene call (fuel + 1) made state with
    | nil => exact List.forall_mem_nil _
    | cons first rest =>
      rw [listed] at later
      refine List.forall_mem_cons.mpr ⟨?_, later⟩
      have leads : first ∈ (session.rounds scene call (fuel + 1) made state).head? := by
        rw [listed]
        rfl
      obtain ⟨less, rfl⟩ := rounds_head? leads
      obtain ⟨link, locator, linked, idle, located, unknown, rfl, rfl⟩ := adrift
      exact (attempt_performs scene less call session state).asksAnew linked idle located unknown

/-- Every attempt but the first asks anew. -/
theorem Registered.tail_asksAnew (call : PendingCall) (fuel made : Nat) (state : σ)
    (registered : session.Registered scene target wait) :
    ∀ round ∈ (session.rounds scene call fuel made state).tail, round.AsksAnew scene target wait := by
  cases fuel with
  | zero => exact List.forall_mem_nil _
  | succ fuel =>
    exact registered.later fun after made state registered adrift =>
      registered.rounds_askAnew call fuel made state adrift

end Session

/-! The main result. -/

/-- A link tells at once the address that its connection was opened for: the one that it was made
with or that its registry named last, to whose interface the last channel goes that was created. -/
def Link.TellsOpened (scene : Scene σ) (log : Log) (connection : Connection Nat)
    (link : Link Nat) : Prop :=
  ∃ base uri, (link.locator = .direct base ∨ log.leader? = some base) ∧
    Connect.interfaceUri base = .ok uri ∧
    log.destinations.getLast? = some (connection.channel, uri) ∧
    ∀ state, (link.rawUrl scene.surroundings).play state = (.ok (.ok base, link), state)

theorem Link.Traced.tellsOpened {home : Locator} {log : Log} {link : Link Nat}
    {connection : Connection Nat} (traced : link.Traced home log)
    (holds : link.connection = some connection) : link.TellsOpened scene log connection := by
  obtain ⟨base, uri, known, address, last⟩ := traced.opened connection holds
  refine ⟨base, uri, ?_, address, last, ?_⟩
  · cases located : link.locator with
    | direct fixed =>
      rw [located] at known
      cases known
      exact .inl rfl
    | registry locator =>
      rw [located] at known
      exact .inr (traced.found locator base located known)
  · intro state
    rw [rawUrl, Run.play_bind_ok (Locator.rawUrl_known known scene state)]
    rfl

theorem Log.of_suits_direct {log : Log} {uri : String}
    (suits : ∀ entry ∈ log, entry.Suits (.direct uri)) :
    log.inquiries = [] ∧
      ∀ destination ∈ log.destinations, Connect.interfaceUri uri = .ok destination.2 := by
  constructor
  · refine List.filterMap_eq_nil_iff.mpr fun entry member => ?_
    have suits := suits entry member
    cases entry with
    | lookedUp _ _ _ =>
      obtain ⟨locator, registry⟩ := suits
      cases registry
    | _ => rfl
  · intro destination member
    obtain ⟨entry, listed, goes⟩ := List.mem_filterMap.mp member
    have suits := suits entry listed
    cases entry with
    | created channel address setup =>
      cases goes
      exact suits uri rfl
    | _ => cases goes

namespace Session.History

variable {session : Session Nat} {done own : Log}

theorem tellsOpened (history : Session.History scene session done own) {link : Link Nat}
    {connection : Connection Nat} (linked : session.link = some link)
    (holds : link.connection = some connection) : link.TellsOpened scene done connection := by
  obtain ⟨-, -, sound⟩ := history.kept
  have origin := (sound.owned link linked).bare
  have makes : session.MakesAt scene link.bare.locator := by
    intro made built
    cases built.symm.trans origin
    rfl
  exact ((history.tracked makes).1 link linked).tellsOpened holds

theorem direct (history : Session.History scene session done own) {uri : String}
    (aims : session.cluster.target = .ok (.direct uri)) (fuel : Nat) (request : Request)
    (repeatable : Bool) (state : σ) :
    ∀ entry ∈ done ++
        (scene.perform (session.invoke scene.surroundings fuel request repeatable) state).done,
      entry.Suits (.direct uri) := by
  have makes : session.MakesAt scene (.direct uri) := by
    intro link built
    exact Locator.direct_of_ofCluster aims (Link.of_ofCluster built).1
  obtain ⟨tracked, suits⟩ := history.tracked makes
  have invoking := Invoking.of_invoke scene fuel session request repeatable state
  exact List.forall_mem_append.mpr ⟨suits, (invoking.tracks makes tracked).suits⟩

theorem registered (history : Session.History scene session done own) {target : RegistryTarget}
    (aims : session.cluster.target = .ok (.registry target)) :
    session.Registered scene target session.options.connectWait :=
  ⟨history.kept.2.2, aims, rfl⟩

end Session.History

/-- What the attempts of a treated request have in common with those of a call. -/
theorem Session.forall_roundsOf (holds : List (Performance σ (Attempt × Session Nat)) → Prop)
    {fuel : Nat} {session : Session Nat} {request : Request} {repeatable : Bool} {state : σ}
    (none : holds [])
    (all : ∀ call : PendingCall, holds (session.rounds scene call fuel 0 state)) :
    holds (session.roundsOf scene fuel request repeatable state) := by
  unfold roundsOf
  split
  · exact none
  split
  · exact none
  · exact all _

/-- Calls follow the leader. Whatever was done with a session before, a call of it is a row of
attempts with pauses between them. The first of them asks nobody and creates nothing if there is a
connection; with a registry every other asks it once and goes to whoever is named first, or halts
where no instant ends the time allowed for connecting. With a fixed address nobody is ever asked,
and every channel goes to its interface. As long as there is a connection, the address that it was
opened for is told at once. -/
theorem calls_follow_the_leader (scene : Scene σ) :
    (∀ session done own, Session.History scene session done own →
      (∀ fuel request repeatable state,
        let rounds := session.roundsOf scene fuel request repeatable state
        let performed :=
          scene.perform (session.invoke scene.surroundings fuel request repeatable) state
        Paced (rounds.map (·.done)) performed.done ∧
        (heldBy session.link ≠ none → ∀ first ∈ rounds.head?,
          first.done.inquiries = [] ∧ first.done.destinations = []) ∧
        (∀ target, session.cluster.target = .ok (.registry target) →
          ∀ round ∈ rounds.tail, round.AsksAnew scene target session.options.connectWait) ∧
        ∀ uri, session.cluster.target = .ok (.direct uri) →
          let whole : Log := done ++ performed.done
          whole.inquiries = [] ∧
            ∀ destination ∈ whole.destinations, Connect.interfaceUri uri = .ok destination.2) ∧
      ∀ link connection, session.link = some link → link.connection = some connection →
        link.TellsOpened scene done connection) ∧
    ∀ link done, Link.History scene link done → ∀ connection, link.connection = some connection →
      link.TellsOpened scene done connection := by
  refine ⟨fun session done own history => ⟨fun fuel request repeatable state => ?_, ?_⟩, ?_⟩
  · intro rounds performed
    refine ⟨Session.invoke_paced scene fuel session request repeatable state, ?_, ?_, ?_⟩
    · intro holds first leads
      obtain ⟨channel, held⟩ := Option.ne_none_iff_exists'.mp holds
      obtain ⟨link, linked, held⟩ := Option.bind_eq_some_iff.mp held
      obtain ⟨connection, connected, -⟩ := Option.map_eq_some_iff.mp held
      have touches : first.done.Touches connection.channel := by
        revert leads
        refine Session.forall_roundsOf (fun rounds => first ∈ rounds.head? → _) nofun ?_
        intro call leads
        obtain ⟨less, rfl⟩ := Session.rounds_head? leads
        exact (Session.attempt_performs scene less call session state).touches linked connected
      exact ⟨touches.inquiries, touches.destinations⟩
    · intro target aims
      refine Session.forall_roundsOf (fun rounds => ∀ round ∈ rounds.tail,
        round.AsksAnew scene target session.options.connectWait) (List.forall_mem_nil _) ?_
      intro call
      exact (history.registered aims).tail_asksAnew call fuel 0 state
    · intro uri aims
      exact Log.of_suits_direct (history.direct aims fuel request repeatable state)
  · intro link connection linked holds
    exact history.tellsOpened linked holds
  · intro link done history connection holds
    exact history.traced.tellsOpened holds

def Session.roving : Session Nat where
  cluster := { name := "west", registry := some "registry" }
  options := {}
  policy := { baseDelay := .ofSeconds 2, longestWait := .ofSeconds 4 }

def Stage.handover : Stage where
  registry := .queued [.ok [{ endpoint := ⟨"old", 8081⟩ }]] (.ok [{ endpoint := ⟨"new", 8081⟩ }])
  answers := [.ok (.ofCode .ok), .ok (.transient ["busy"])]

/-- The second call begins on the connection that the first one left, and goes on with the new
leader. -/
theorem second_call_follows_the_leader :
    let scene := Stage.handover.scene fun _ => .ok .anonymous
    let first := scene.perform
      (SessionDeed.run scene.surroundings 9 Session.roving (.invoke ⟨.getJobs, [.null]⟩ false))
      Stage.handover
    ∃ after, first.outcome = .ok after ∧
      let rounds := after.roundsOf scene 9 ⟨.getJobs, [.null]⟩ false first.stop
      rounds.length = 2 ∧
      (∀ round ∈ rounds.head?, round.done.inquiries = [] ∧ round.done.destinations = []) ∧
      ∀ round ∈ rounds.tail, ∃ channel,
        round.done.destinations = [(channel, "http://new:8081/api")] ∧
          ∀ other ∈ round.done.used, other = channel := by
  intro scene first
  have serves : (match first.outcome with
      | .ok after =>
        let rounds := after.roundsOf scene 9 ⟨.getJobs, [.null]⟩ false first.stop
        decide (heldBy after.link ≠ none ∧ rounds.length = 2 ∧
          (∀ round ∈ rounds.tail, round.done.leader? = some "http://new:8081" ∧
            Deadline.InReach (scene.clock round.stop) after.options.connectWait) ∧
          after.cluster = Session.roving.cluster)
      | .error _ => false) = true := by
    decide +kernel
  split at serves
  · rename_i after served
    obtain ⟨holds, two, leads, cluster⟩ := of_decide_eq_true serves
    have history := Session.History.did (.invoke ⟨.getJobs, [.null]⟩ false) (.made rfl) served
    obtain ⟨follows, -⟩ := (calls_follow_the_leader scene).1 after _ _ history
    obtain ⟨-, stays, asks, -⟩ := follows 9 ⟨.getJobs, [.null]⟩ false first.stop
    refine ⟨after, served, two, stays holds, fun round member => ?_⟩
    have aims : after.cluster.target =
        .ok (.registry ⟨"west", "registry", 2181, "/aurora/scheduler"⟩) := by
      rw [cluster]
      rfl
    have address : Connect.interfaceUri "http://new:8081" = .ok "http://new:8081/api" := by
      rfl
    obtain ⟨leader, near⟩ := leads round member
    exact (asks _ aims round member).follows near leader address
  · cases serves

def Session.enduring : Session Nat where
  cluster := Session.roving.cluster
  options := { connectWait := .ofSeconds 0x4000000000000000 }
  policy := {
    baseDelay := .ofSeconds 0x4000000000000000
    longestDelay := .ofSeconds 0x4000000000000000
    longestWait := .ofSeconds 0x6000000000000000 }

/-- The second attempt finds the leader in time, and yet it creates no channel. -/
theorem late_leader_gets_no_channel :
    let stage := { Stage.handover with answers := Stage.handover.answers.drop 1 }
    let rounds := Session.enduring.roundsOf (stage.scene fun _ => .ok .anonymous) 9
      ⟨.getJobs, [.null]⟩ false stage
    rounds.length = 2 ∧ ∀ round ∈ rounds.tail,
      round.done.leader? = some "http://new:8081" ∧ round.done.destinations = [] := by
  decide +kernel

end SchedulerLink
