import SchedulerLink.Proofs.Holding

/-!
Where the channels of a link go.

A link knows the address that its registry named last, or the one that it was made with, and as long
as it has a connection it is the one that the connection was opened for. So it need not ask for it.
-/

namespace SchedulerLink

variable {σ : Type} {scene : Scene σ}

namespace Log

def inquiries (log : Log) :
    List (String × Duration × Except Halt (Except DiscoveryFailure (List Member))) :=
  log.filterMap fun
    | .lookedUp path patience answer => some (path, patience, answer)
    | _ => none

def destinations (log : Log) : List (Nat × String) :=
  log.filterMap fun
    | .created channel uri _ => some (channel, uri)
    | _ => none

def used (log : Log) : List Nat :=
  log.filterMap fun
    | .opened channel _ => some channel
    | .called channel _ _ _ _ => some channel
    | _ => none

@[simp] theorem inquiries_append (one other : Log) :
    inquiries (one ++ other) = inquiries one ++ inquiries other :=
  List.filterMap_append

@[simp] theorem destinations_append (one other : Log) :
    destinations (one ++ other) = destinations one ++ destinations other :=
  List.filterMap_append

def leader? (log : Log) : Option String :=
  match log.inquiries.getLast? with
  | some (_, _, .ok (.ok (leader :: _))) => some leader.url
  | _ => none

end Log

def Entry.Touches (channel : Nat) : Entry → Prop
  | .lookedUp _ _ _ => False
  | .created _ _ _ => False
  | .opened other _ => other = channel
  | .called other _ _ _ _ => other = channel
  | _ => True

def Log.Touches (channel : Nat) (log : Log) : Prop := ∀ entry ∈ log, entry.Touches channel

namespace Log.Touches

variable {channel : Nat} {log : Log}

theorem nil : Touches channel [] := by
  intro entry member
  cases member

theorem append {more : Log} (first : log.Touches channel) (second : more.Touches channel) :
    Touches channel (log ++ more) :=
  List.forall_mem_append.mpr ⟨first, second⟩

theorem cons {entry : Entry} (first : entry.Touches channel) (second : log.Touches channel) :
    Touches channel (entry :: log) :=
  List.forall_mem_cons.mpr ⟨first, second⟩

theorem inquiries (touches : log.Touches channel) : log.inquiries = [] := by
  refine List.filterMap_eq_nil_iff.mpr fun entry member => ?_
  have touch := touches entry member
  cases entry <;> first | rfl | exact touch.elim

theorem destinations (touches : log.Touches channel) : log.destinations = [] := by
  refine List.filterMap_eq_nil_iff.mpr fun entry member => ?_
  have touch := touches entry member
  cases entry <;> first | rfl | exact touch.elim

theorem used (touches : log.Touches channel) : ∀ other ∈ log.used, other = channel := by
  intro other member
  obtain ⟨entry, listed, uses⟩ := List.mem_filterMap.mp member
  have touch := touches entry listed
  cases entry <;> cases uses <;> exact touch

end Log.Touches

theorem Opening.touches {options : LinkOptions} {uri : String} {limit : Option Deadline}
    {channel failed : Nat} {state stop : σ} {done : Log}
    {outcome : Except Halt (Except LinkFailure Unit)}
    (opening : Opening scene options uri limit channel failed state done outcome stop) :
    done.Touches channel := by
  induction opening with
  | unfinished => exact .nil
  | opened _ => exact .cons rfl .nil
  | givenUp _ _ => exact .cons rfl .nil
  | again _ _ _ ih => exact .cons rfl (.cons trivial ih)

theorem Releasing.touches {state stop : σ} {connection : Option (Connection Nat)} {done : Log}
    (releasing : Releasing scene state connection done stop) (channel : Nat) :
    done.Touches channel := by
  cases releasing with
  | idle => exact .nil
  | closed _ => exact .cons trivial .nil

/-! What a link knows of the addresses in a log. -/

def Locator.known? : Locator → Option String
  | .direct uri => some uri
  | .registry locator => locator.found

theorem Locator.rawUrl_known {locator : Locator} {base : String}
    (known : locator.known? = some base) (scene : Scene σ) (state : σ) :
    (locator.rawUrl scene.surroundings).play state = (.ok (.ok base, locator), state) := by
  cases locator with
  | direct uri =>
    cases known
    rfl
  | registry locator =>
    have found : locator.found = some base := known
    simp only [rawUrl, RegistryLocator.rawUrl, found]
    rfl

/-- An entry that a link may cause which was made with the locator `home`. -/
def Entry.Suits (home : Locator) : Entry → Prop
  | .lookedUp _ _ _ => ∃ locator, home = .registry locator
  | .created _ uri _ => ∀ base, home = .direct base → Connect.interfaceUri base = .ok uri
  | _ => True

theorem Entry.Touches.suits {channel : Nat} {entry : Entry} (touches : entry.Touches channel)
    (home : Locator) : entry.Suits home := by
  cases entry <;> first | exact trivial | exact touches.elim

/-- A link that was made with the locator `home`, and after a log knows what its registry named
last. Its connection, if it has one, was opened for the address that it knows. -/
structure Link.Traced (home : Locator) (log : Log) (link : Link Nat) : Prop where
  home : link.locator.forget = home
  found : ∀ locator base, link.locator = .registry locator → locator.found = some base →
    log.leader? = some base
  opened : ∀ connection, link.connection = some connection → ∃ base uri,
    link.locator.known? = some base ∧ Connect.interfaceUri base = .ok uri ∧
      log.destinations.getLast? = some (connection.channel, uri)

def Tracked (home : Locator) (log : Log) (owner : Option (Link Nat)) : Prop :=
  ∀ link, owner = some link → link.Traced home log

structure Tracks (home : Locator) (log done : Log) (ending : Except Halt (Option (Link Nat))) :
    Prop where
  suits : ∀ entry ∈ done, entry.Suits home
  traced : ∀ owner, ending = .ok owner → Tracked home (log ++ done) owner

variable {home : Locator} {log done : Log}

namespace Link.Traced

variable {link : Link Nat}

theorem touched {channel : Nat} (traced : link.Traced home log) (touches : done.Touches channel) :
    link.Traced home (log ++ done) := by
  have inquiries := touches.inquiries
  have destinations := touches.destinations
  refine ⟨traced.home, ?_, ?_⟩
  · intro locator base located found
    rw [← traced.found locator base located found]
    simp only [Log.leader?, Log.inquiries_append, inquiries, List.append_nil]
  · intro connection holds
    rw [Log.destinations_append, destinations, List.append_nil]
    exact traced.opened connection holds

theorem idle {idle : Link Nat} (traced : link.Traced home log) (still : idle.connection = none)
    (located : idle.locator = link.locator) : idle.Traced home log := by
  refine ⟨located ▸ traced.home, located ▸ traced.found, ?_⟩
  intro connection holds
  rw [still] at holds
  cases holds

theorem released (traced : link.Traced home log) : link.released.Traced home log := by
  refine ⟨link.locator.forget_forget.trans traced.home, ?_, ?_⟩
  · intro locator base located found
    simp only [Link.released] at located
    cases place : link.locator with
    | direct uri =>
      rw [place] at located
      cases located
    | registry known =>
      rw [place] at located
      cases located
      cases found
  · intro connection holds
    cases holds

theorem next {connection : Connection Nat} (traced : link.Traced home log)
    (holds : link.connection = some connection) :
    Link.Traced home log { link with connection := some connection.next } := by
  refine ⟨traced.home, traced.found, ?_⟩
  intro same kept
  cases kept
  exact traced.opened connection holds

theorem traces (traced : link.Traced home log) : Tracked home log (some link) := by
  intro same kept
  cases kept
  exact traced

end Link.Traced

namespace Tracks

variable {more : Log} {owner : Option (Link Nat)} {ending : Except Halt (Option (Link Nat))}

theorem touched (channel : Nat) (touches : done.Touches channel)
    (traced : ∀ owner, ending = .ok owner → Tracked home log owner) :
    Tracks home log done ending := by
  refine ⟨fun entry member => (touches entry member).suits home, ?_⟩
  intro owner ends link has
  exact (traced owner ends link has).touched touches

theorem refl (traced : Tracked home log owner) : Tracks home log [] (.ok owner) := by
  refine touched 0 .nil ?_
  rintro same ⟨⟩
  exact traced

theorem trans (first : Tracks home log done (.ok owner))
    (second : Tracked home (log ++ done) owner → Tracks home (log ++ done) more ending) :
    Tracks home log (done ++ more) ending := by
  obtain ⟨suits, traced⟩ := second (first.traced owner rfl)
  refine ⟨List.forall_mem_append.mpr ⟨first.suits, suits⟩, ?_⟩
  intro last ends
  rw [← List.append_assoc]
  exact traced last ends

theorem of_link {link : Link Nat} (suits : ∀ entry ∈ done, entry.Suits home)
    (traced : link.Traced home (log ++ done)) : Tracks home log done (.ok (some link)) := by
  refine ⟨suits, ?_⟩
  rintro owner ⟨⟩
  exact traced.traces

theorem halted {halt : Halt} (suits : ∀ entry ∈ done, entry.Suits home) :
    Tracks home log done (.error halt) := by
  refine ⟨suits, ?_⟩
  intro owner ends
  cases ends

end Tracks

/-! What connecting does to what a link knows. -/

theorem RegistryLocator.leader_eq_ok {locator : RegistryLocator} {url : String}
    {answer : Except DiscoveryFailure (List Member)} (leader : locator.leader answer = .ok url) :
    ∃ first others, answer = .ok (first :: others) ∧ first.url = url := by
  unfold RegistryLocator.leader at leader
  split at leader
  · cases leader
    exact ⟨_, _, rfl, rfl⟩
  all_goals
    cases leader

theorem Log.leader?_append_inquiry (log : Log) (path : String) (patience : Duration)
    (leader : Member) (others : List Member) :
    leader? (log ++ [.lookedUp path patience (.ok (.ok (leader :: others)))]) =
      some leader.url := by
  have last :
      (inquiries (log ++ [.lookedUp path patience (.ok (.ok (leader :: others)))])).getLast? =
        some (path, patience, .ok (.ok (leader :: others))) := by
    rw [inquiries_append]
    exact List.getLast?_concat
  rw [leader?, last]

namespace Locating

variable {link : Link Nat} {state stop : σ}
  {outcome : Except Halt (Except LinkFailure String × Locator)}

theorem tracks (locating : Locating scene state link.locator done outcome stop)
    (traced : link.Traced home log) :
    Tracks home log done (outcome.map fun result => some { link with locator := result.2 }) := by
  obtain ⟨place, login, options, connection, epoch⟩ := link
  -- A registry is asked only while no address is known, and so without a connection.
  have idle : ∀ locator : RegistryLocator, locator.found = none → place = .registry locator →
      connection = none := by
    rintro locator unknown rfl
    cases connection with
    | none => rfl
    | some connection =>
      obtain ⟨base, -, known, -⟩ := traced.opened connection rfl
      exact absurd (unknown.symm.trans known) nofun
  have asks : ∀ (locator : RegistryLocator) (patience : Duration)
      (answer : Except Halt (Except DiscoveryFailure (List Member))), place = .registry locator →
      ∀ entry ∈ ([.lookedUp locator.target.path patience answer] : Log), entry.Suits home := by
    rintro locator patience answer rfl entry member
    cases List.mem_singleton.mp member
    exact ⟨locator.forget, traced.home.symm⟩
  cases locating with
  | fixed => exact .refl traced.traces
  | known _ => exact .refl traced.traces
  | @found locator url stop answer unknown _ leader =>
    obtain ⟨first, others, rfl, rfl⟩ := RegistryLocator.leader_eq_ok leader
    refine .of_link (asks locator _ _ rfl) ⟨traced.home, ?_, ?_⟩
    · rintro same base ⟨⟩ ⟨⟩
      exact log.leader?_append_inquiry _ _ first others
    · intro connection holds
      cases (idle locator unknown rfl).symm.trans holds
  | @nobody locator _ _ answer unknown _ _ =>
    refine .of_link (asks locator _ _ rfl) ⟨traced.home, ?_, ?_⟩
    · rintro same base ⟨⟩ found
      cases unknown.symm.trans found
    · intro connection holds
      cases (idle locator unknown rfl).symm.trans holds
  | @halted locator _ _ unknown _ => exact .halted (asks locator _ _ rfl)

theorem known? {base : String} {locator after : Locator}
    (locating : Locating scene state locator done (.ok (.ok base, after)) stop) :
    after.known? = some base := by
  cases locating with
  | fixed => rfl
  | known found => exact found
  | found _ _ _ => rfl

end Locating

namespace Reaching

variable {limit : Option Deadline} {link : Link Nat} {base : String} {state stop : σ}
  {outcome : Except Halt (Except LinkFailure (Connection Nat) × Link Nat)}

theorem tracks (reaching : Reaching scene limit link base state done outcome stop)
    (traced : link.Traced home log) (idle : link.connection = none)
    (known : link.locator.known? = some base) :
    Tracks home log done (outcome.map fun result => some result.2) := by
  have created : ∀ {channel : Nat} {uri : String} {setup : ChannelSetup} {tried : Log},
      Connect.interfaceUri base = .ok uri → tried.Touches channel →
      ∀ entry ∈ (.created channel uri setup :: tried : Log), entry.Suits home := by
    intro channel uri setup tried address touches
    refine List.forall_mem_cons.mpr ⟨?_, fun entry member => (touches entry member).suits home⟩
    rintro fixed rfl
    have home := traced.home
    cases place : link.locator with
    | direct uri =>
      rw [place] at home known
      cases home
      cases known
      exact address
    | registry locator =>
      rw [place] at home
      cases home
  have unconnected : ∀ (uri : String) {channel : Nat} {tried : Log}, tried.Touches channel →
      link.Traced home (log ++ .created channel uri link.setup :: tried) := by
    intro uri channel tried touches
    rw [List.append_cons]
    have plain : link.Traced home (log ++ [.created channel uri link.setup]) := by
      refine ⟨traced.home, ?_, fun connection holds => nomatch idle.symm.trans holds⟩
      intro locator found located same
      rw [← traced.found locator found located same]
      have silent : Log.inquiries [.created channel uri link.setup] = [] := rfl
      simp only [Log.leader?, Log.inquiries_append, silent, List.append_nil]
    exact plain.touched touches
  cases reaching with
  | misaddressed _ => exact .refl traced.traces
  | overflow _ _ => exact .halted (List.forall_mem_nil _)
  | halted address _ _ opening => exact .halted (created address opening.touches)
  | unopened address _ _ opening =>
    exact .of_link (created address opening.touches) (unconnected _ opening.touches)
  | @connected uri _ channel _ _ tried address _ _ opening =>
    have touches : Log.Touches channel (tried ++ [.adopted channel]) :=
      opening.touches.append (.cons trivial .nil)
    have plain := unconnected uri touches
    refine .of_link (created address touches) ⟨plain.home, plain.found, ?_⟩
    rintro connection ⟨⟩
    refine ⟨base, uri, known, address, ?_⟩
    rw [Log.destinations_append]
    have one : Log.destinations (.created channel uri link.setup :: (tried ++ [.adopted channel])) =
        [(channel, uri)] :=
      congrArg _ touches.destinations
    rw [one]
    exact List.getLast?_concat

end Reaching

namespace Connecting

variable {limit : Option Deadline} {link : Link Nat} {state stop : σ}
  {outcome : Except Halt (Except LinkFailure (Connection Nat) × Link Nat)}

theorem tracks (connecting : Connecting scene limit link state done outcome stop)
    (traced : link.Traced home log) :
    Tracks home log done (outcome.map fun result => some result.2) := by
  cases connecting with
  | held _ => exact .refl traced.traces
  | halted _ locating => exact locating.tracks traced
  | unlocated _ locating =>
    have located := locating.tracks traced
    exact .of_link located.suits ((located.traced _ rfl _ rfl).idle rfl rfl)
  | @reached done more base locator _ _ _ _ locating reaching =>
    have located := locating.tracks traced
    have idle : Tracks home log done
        (.ok (some { link with locator, connection := none })) :=
      .of_link located.suits ((located.traced _ rfl _ rfl).idle rfl rfl)
    exact idle.trans fun traced => reaching.tracks (traced _ rfl) rfl locating.known?

end Connecting

/-! What calls of sessions do to it. -/

def Session.MakesAt (scene : Scene σ) (home : Locator) (session : Session Nat) : Prop :=
  ∀ link, session.freshLink scene = .ok link → link.locator = home

theorem Link.traced_of_linkOf {session : Session Nat} {link : Link Nat}
    (makes : session.MakesAt scene home) (traced : Tracked home log session.link)
    (built : session.linkOf scene.surroundings = .ok link) : link.Traced home log := by
  unfold Session.linkOf at built
  cases has : session.link with
  | some known =>
    rw [has] at built
    cases built
    exact traced link has
  | none =>
    rw [has] at built
    have located : link.locator = home := makes link built
    obtain ⟨idle, -, forgetful⟩ := Link.isNew_of_ofCluster built
    refine ⟨forgetful.trans located, ?_, fun connection holds => nomatch idle.symm.trans holds⟩
    intro locator base place found
    rw [place] at forgetful
    have unknown : none = locator.found := congrArg Locator.known? forgetful
    cases unknown.trans found

namespace Attempting

variable {call : PendingCall} {session after : Session Nat} {state stop : σ}
  {outcome : Except Halt (Attempt × Session Nat)}

theorem tracks (attempting : Attempting scene call session state done outcome stop)
    (makes : session.MakesAt scene home) (traced : Tracked home log session.link) :
    Tracks home log done (outcome.map fun result => result.2.link) := by
  have connected : ∀ {link ready : Link Nat} {result : Except LinkFailure (Connection Nat)}
      {middle : σ} {tried : Log}, session.linkOf scene.surroundings = .ok link →
      Connecting scene (some call.deadline) link state tried (.ok (result, ready)) middle →
      Tracks home log tried (.ok (some ready)) := by
    intro link ready result middle tried built connecting
    exact connecting.tracks (Link.traced_of_linkOf makes traced built)
  cases attempting with
  | unbuilt _ => exact .refl traced
  | halted built connecting =>
    exact connecting.tracks (Link.traced_of_linkOf makes traced built)
  | interrupted built connecting => exact connected built connecting
  | tooLate built connecting =>
    have tried := connected built connecting
    exact .of_link tried.suits (tried.traced _ rfl _ rfl).released
  | unreachable built _ connecting =>
    have tried := connected built connecting
    refine ⟨tried.suits, ?_⟩
    rintro owner ⟨⟩ link ⟨⟩
  | @callHalted _ _ connection _ _ _ _ built connecting _ =>
    refine (connected built connecting).trans fun _ => ?_
    refine .touched connection.channel (.cons rfl .nil) ?_
    intro owner ends
    cases ends
  | @answered _ _ connection _ _ _ _ _ built connecting _ _ =>
    refine (connected built connecting).trans fun traced => ?_
    refine .touched connection.channel (.cons rfl .nil) ?_
    rintro owner ⟨⟩
    exact ((traced _ rfl).next connecting.ready_of_ok).traces
  | @failed _ _ connection _ _ _ _ _ _ built connecting _ _ releasing =>
    refine (connected built connecting).trans fun traced => ?_
    refine .touched connection.channel (.cons rfl (releasing.touches _)) ?_
    rintro owner ⟨⟩
    exact (traced _ rfl).released.traces

theorem makesAt {attempt : Attempt}
    (attempting : Attempting scene call session state done (.ok (attempt, after)) stop)
    (makes : session.MakesAt scene home) : after.MakesAt scene home := by
  rw [attempting.frame]
  exact makes

end Attempting

theorem Course.tracks {call : PendingCall} {made : Nat} {lastError : String}
    {session : Session Nat} {state stop : σ}
    {outcome : Except Halt (Except SessionFailure Response × Session Nat)}
    (course : Course scene call made lastError session state done outcome stop)
    (makes : session.MakesAt scene home) (traced : Tracked home log session.link) :
    Tracks home log done (outcome.map fun result => result.2.link) := by
  induction course generalizing log with
  | unfinished => exact .halted (List.forall_mem_nil _)
  | terminated _ => exact .refl traced
  | timedOut _ _ _ => exact .refl traced
  | halted _ _ attempting => exact attempting.tracks makes traced
  | finished _ _ attempting => exact attempting.tracks makes traced
  | interrupted _ _ attempting _ ih =>
    exact (attempting.tracks makes traced).trans (ih (attempting.makesAt makes))
  | @paused _ _ _ _ after _ _ _ done _ pause _ _ _ attempting _ _ ih =>
    refine (attempting.tracks makes traced).trans fun traced => ?_
    have rested : Tracks home (log ++ done) [.slept pause] (.ok after.link) := by
      refine .touched 0 (.cons trivial .nil) ?_
      rintro owner ⟨⟩
      exact traced
    exact rested.trans (ih (attempting.makesAt makes))
  | spent _ _ attempting _ _ ih =>
    exact (attempting.tracks makes traced).trans (ih (attempting.makesAt makes))

theorem Invoking.tracks {session : Session Nat} {request : Request} {repeatable : Bool}
    {state stop : σ} {outcome : Except Halt (Except SessionFailure Response × Session Nat)}
    (invoking : Invoking scene session request repeatable state done outcome stop)
    (makes : session.MakesAt scene home) (traced : Tracked home log session.link) :
    Tracks home log done (outcome.map fun result => result.2.link) := by
  cases invoking with
  | misfit _ => exact .refl traced
  | overflow _ _ => exact .halted (List.forall_mem_nil _)
  | course _ _ course => exact course.tracks makes traced

/-! What any deed does to it. -/

structure Follows {α : Type} (scene : Scene σ) (home : Locator) (log : Log)
    (program : Run (StateM σ) α) (part : α → Option (Link Nat)) (state : σ) (done : Log) :
    Prop where
  passes : scene.Passes state done (program.play state).2
  tracks : Tracks home log done ((program.play state).1.map part)

namespace Follows

variable {α β : Type} {state : σ}

theorem bind {program : Run (StateM σ) α} {next : α → Run (StateM σ) β} {part : α → Link Nat}
    {last : β → Option (Link Nat)}
    (first : Follows scene home log program (fun value => some (part value)) state done)
    (second : ∀ value middle, program.play state = (.ok value, middle) →
      (part value).Traced home (log ++ done) →
      ∃ more, Follows scene home (log ++ done) (next value) last middle more) :
    ∃ more, Follows scene home log (program >>= next) last state more := by
  obtain ⟨passes, tracks⟩ := first
  rcases plays : program.play state with ⟨halt | value, middle⟩
  all_goals
    rw [plays] at passes tracks
  · refine ⟨done, ?_, ?_⟩
    · rw [Run.play_bind_error plays]
      exact passes
    · rw [Run.play_bind_error plays]
      exact tracks
  · obtain ⟨more, later⟩ := second value middle plays (tracks.traced _ rfl _ rfl)
    refine ⟨done ++ more, ?_, ?_⟩
    · rw [Run.play_bind_ok plays]
      exact passes.trans later.passes
    · rw [Run.play_bind_ok plays]
      have first : Tracks home log done (.ok (some (part value))) := tracks
      exact first.trans fun _ => later.tracks

theorem followed {program : Run (StateM σ) α} {part : α → Option (Link Nat)} {view : α → β}
    {last : β → Option (Link Nat)} (follows : Follows scene home log program part state done)
    (same : ∀ value, last (view value) = part value) :
    Follows scene home log (program >>= fun value => pure (view value)) last state done := by
  constructor
  · rw [Run.play_view]
    exact follows.passes
  · rw [program.play_view_map same]
    exact follows.tracks

theorem second {program : Run (StateM σ) (α × β)} {part : β → Option (Link Nat)}
    (follows : Follows scene home log program (fun result => part result.2) state done) :
    Follows scene home log (do let (_, half) ← program; pure half) part state done :=
  follows.followed fun _ => rfl

theorem performed {program : Run (StateM σ) α} {part : α → Option (Link Nat)}
    (follows : Follows scene home log program part state done) :
    Tracks home log (scene.perform program state).done
      ((scene.perform program state).outcome.map part) := by
  rw [Scene.perform_done follows.passes]
  exact follows.tracks

end Follows

section Links

variable {link : Link Nat}

theorem Link.send_follows (scene : Scene σ) (traced : link.Traced home log)
    {connection : Connection Nat} (holds : link.connection = some connection) (method : Method)
    (arguments : List Json) (state : σ) :
    ∃ done, Follows scene home log
      (link.send scene.surroundings connection method arguments) (fun result => some result.2) state
      done := by
  have sends := link.send_play scene connection method arguments state
  rcases calls : (scene.surroundings.call connection.channel connection.next.sequence method
    arguments).play state with ⟨answer, stop⟩
  rw [calls] at sends
  have touches : Log.Touches connection.channel
      [.called connection.channel connection.next.sequence method arguments answer] :=
    .cons rfl .nil
  refine ⟨_, ?_, .touched connection.channel touches ?_⟩
  · have passes := Scene.call_passes calls
    cases answer <;> exact sends ▸ passes
  · rw [sends]
    cases answer with
    | error halt =>
      intro owner ends
      cases ends
    | ok result =>
      rintro owner ⟨⟩
      exact (traced.next holds).traces

theorem Locating.follows {program : Run (StateM σ) (Except LinkFailure String × Locator)}
    {state : σ} (traced : link.Traced home log)
    (locating : Locating scene state link.locator done (program.play state).1
      (program.play state).2) :
    Follows scene home log (do
      let (result, locator) ← program
      pure (result, { link with locator })) (fun result => some result.2) state done := by
  have follows : Follows scene home log program
      (fun result => some { link with locator := result.2 }) state done :=
    ⟨locating.passes, locating.tracks traced⟩
  exact follows.followed fun _ => rfl

theorem Link.url_follows (scene : Scene σ) (traced : link.Traced home log) (state : σ) :
    ∃ done, Follows scene home log (link.url scene.surroundings) (fun result => some result.2) state
      done := by
  -- Without a proxy, users are shown what the scheduler itself is asked for.
  have asks : link.locator.url scene.surroundings = link.locator.rawUrl scene.surroundings →
      ∃ done, Follows scene home log (link.url scene.surroundings) (fun result => some result.2)
        state done := by
    intro same
    obtain ⟨done, locating⟩ := Locating.of_rawUrl scene link.locator state
    rw [← same] at locating
    exact ⟨done, locating.follows traced⟩
  obtain ⟨place, login, options, connection, epoch⟩ := link
  cases place with
  | direct uri => exact asks rfl
  | registry locator =>
    cases proxied : locator.proxyUrl with
    | none => exact asks (by simp only [Locator.url, Locator.rawUrl, RegistryLocator.url, proxied])
    | some proxy =>
      refine ⟨[], ?_⟩
      have tells : ((Locator.registry locator).url scene.surroundings).play state =
          (.ok (.ok proxy, .registry locator), state) := by
        simp only [Locator.url, RegistryLocator.url, proxied]
        rfl
      have follows : Follows scene home log ((Locator.registry locator).url scene.surroundings)
          (fun result => some (⟨result.2, login, options, connection, epoch⟩ : Link Nat)) state
          [] := by
        constructor
        · rw [tells]
          exact .refl scene state
        · rw [tells]
          exact .refl traced.traces
      exact follows.followed fun _ => rfl

theorem LinkDeed.follows (scene : Scene σ) (fuel : Nat) (deed : LinkDeed)
    (traced : link.Traced home log) (state : σ) :
    ∃ done, Follows scene home log (deed.run scene.surroundings fuel link) some state done := by
  have connects : ∀ limit, ∃ done, Follows scene home log
      (link.connect scene.surroundings fuel limit) (fun result => some result.2) state done := by
    intro limit
    obtain ⟨done, connecting⟩ := Connecting.of_connect scene fuel limit link state
    exact ⟨done, connecting.passes, connecting.tracks traced⟩
  cases deed with
  | connect limit =>
    obtain ⟨done, follows⟩ := connects limit
    exact ⟨done, follows.second⟩
  | call method arguments =>
    obtain ⟨_, connects⟩ := connects none
    have calls : ∃ done, Follows scene home log
        (link.call scene.surroundings fuel method arguments) (fun result => some result.2) state
        done := by
      apply connects.bind
      rintro ⟨failure | connection, ready⟩ middle connected traced
      · exact ⟨[], .refl scene middle, .refl traced.traces⟩
      · have holds : ready.connection = some connection := Link.connection_of_connect connected
        obtain ⟨_, sends⟩ := Link.send_follows scene traced holds method arguments middle
        apply sends.bind
        intro result last _ traced
        exact ⟨[], .refl scene last, .refl traced.traces⟩
    obtain ⟨done, follows⟩ := calls
    exact ⟨done, follows.second⟩
  | send method arguments =>
    rw [run]
    split
    · exact ⟨[], .refl scene state, .refl traced.traces⟩
    · rename_i connection holds
      obtain ⟨done, follows⟩ := Link.send_follows scene traced holds method arguments state
      exact ⟨done, follows.second⟩
  | close =>
    obtain ⟨done, stop, releasing, closes⟩ := link.close_play scene state
    refine ⟨done, ?_, .touched 0 (releasing.touches 0) ?_⟩
    · rw [run, closes]
      exact releasing.passes
    · rw [run, closes]
      rintro owner ⟨⟩
      have idle : Link.Traced home log { link with connection := none } := traced.idle rfl rfl
      exact idle.traces
  | invalidate =>
    obtain ⟨done, stop, releasing, invalidates⟩ := link.invalidate_play scene state
    refine ⟨done, ?_, .touched 0 (releasing.touches 0) ?_⟩
    · rw [run, invalidates]
      exact releasing.passes
    · rw [run, invalidates]
      rintro owner ⟨⟩
      exact traced.released.traces
  | url =>
    obtain ⟨done, follows⟩ := Link.url_follows scene traced state
    exact ⟨done, follows.second⟩
  | rawUrl =>
    obtain ⟨done, locating⟩ := Locating.of_rawUrl scene link.locator state
    exact ⟨done, (locating.follows traced).second⟩

end Links

theorem Session.withLink_follows {α : Type} {session : Session Nat}
    (makes : session.MakesAt scene home) (traced : Tracked home log session.link)
    (use : Link Nat → Run (StateM σ) (Except LinkFailure α × Link Nat)) (state : σ)
    (follows : ∀ link : Link Nat, link.Traced home log →
      ∃ done, Follows scene home log (use link) (fun result => some result.2) state done) :
    ∃ done, Follows scene home log (session.withLink scene.surroundings use)
      (fun result => result.2.link) state done := by
  unfold withLink
  cases built : session.linkOf scene.surroundings with
  | error failure => exact ⟨[], .refl scene state, .refl traced⟩
  | ok link =>
    obtain ⟨done, follows⟩ := follows link (Link.traced_of_linkOf makes traced built)
    exact ⟨done, follows.followed fun _ => rfl⟩

theorem SessionDeed.follows (deed : SessionDeed) {session : Session Nat}
    (makes : session.MakesAt scene home) (traced : Tracked home log session.link) (fuel : Nat)
    (state : σ) :
    ∃ done, Follows scene home log (deed.run scene.surroundings fuel session) (·.link) state
      done := by
  cases deed with
  | invoke request repeatable =>
    have invoking := Invoking.of_invoke scene fuel session request repeatable state
    have follows : Follows scene home log
        (session.invoke scene.surroundings fuel request repeatable) (fun result => result.2.link)
        state _ := ⟨invoking.passes, invoking.tracks makes traced⟩
    exact ⟨_, follows.second⟩
  | withLink deed =>
    have uses : ∃ done, Follows scene home log
        (session.withLink scene.surroundings fun link => do
          let link ← deed.run scene.surroundings fuel link
          pure (Except.ok (), link)) (fun result => result.2.link) state done := by
      apply Session.withLink_follows makes traced
      intro link traced
      obtain ⟨done, follows⟩ := deed.follows scene fuel traced state
      exact ⟨done, follows.followed fun _ => rfl⟩
    obtain ⟨done, follows⟩ := uses
    exact ⟨done, follows.second⟩
  | invalidate =>
    obtain ⟨cluster, options, policy, link⟩ := session
    cases link with
    | none => exact ⟨[], .refl scene state, .refl traced⟩
    | some link =>
      obtain ⟨done, follows⟩ := LinkDeed.follows scene fuel .invalidate (traced link rfl) state
      exact ⟨done, follows.followed fun _ => rfl⟩
  | url =>
    have tells : ∃ done, Follows scene home log (session.url scene.surroundings)
        (fun result => result.2.link) state done := by
      apply Session.withLink_follows makes traced
      intro link traced
      exact Link.url_follows scene traced state
    obtain ⟨done, follows⟩ := tells
    exact ⟨done, follows.second⟩
  | setPolicy policy => exact ⟨[], .refl scene state, .refl traced⟩

/-! Histories. -/

theorem Link.History.traced {link : Link Nat} (history : Link.History scene link log) :
    link.Traced link.bare.locator log := by
  induction history with
  | made new =>
    refine ⟨rfl, ?_, fun connection holds => nomatch new.idle.symm.trans holds⟩
    intro locator base place found
    have forgetful := new.forgetful
    rw [place] at forgetful
    have unknown : none = locator.found := congrArg Locator.known? forgetful
    cases unknown.trans found
  | @did link after done fuel state deed _ ends ih =>
    obtain ⟨_, follows⟩ := deed.follows scene fuel ih state
    have tracks := follows.performed
    rw [ends] at tracks
    have traced : after.Traced link.bare.locator _ := tracks.traced _ rfl _ rfl
    exact ⟨rfl, traced.found, traced.opened⟩

theorem Session.History.tracked {session : Session Nat} {own : Log}
    (history : Session.History scene session log own) (makes : session.MakesAt scene home) :
    Tracked home log session.link ∧ ∀ entry ∈ log, entry.Suits home := by
  induction history with
  | made unlinked =>
    refine ⟨fun link has => ?_, List.forall_mem_nil _⟩
    rw [unlinked] at has
    cases has
  | @did session after done own fuel state deed _ ends ih =>
    have before : session.MakesAt scene home := by
      obtain ⟨cluster, options⟩ := SessionDeed.frame ends
      rw [MakesAt, freshLink, ← cluster, ← options]
      exact makes
    obtain ⟨traced, suits⟩ := ih before
    obtain ⟨_, follows⟩ := deed.follows before traced fuel state
    have tracks := follows.performed
    rw [ends] at tracks
    exact ⟨tracks.traced _ rfl, List.forall_mem_append.mpr ⟨suits, tracks.suits⟩⟩

end SchedulerLink
