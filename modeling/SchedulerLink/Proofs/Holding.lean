import SchedulerLink.Proofs.Custody
import SchedulerLink.Proofs.StageScene

/-!
One channel at most is live, whatever is done with a link or a session.

Each deed hands the live channel over as the log says, so along a history the account of the whole
log is kept. At the end of a deed the live channel is the one that is held.
-/

namespace SchedulerLink

variable {σ : Type} {scene : Scene σ} {origin : Except LinkFailure (Link Nat)}

structure Keeps {α : Type} (scene : Scene σ) (origin : Except LinkFailure (Link Nat))
    (owner : Option (Link Nat)) (program : Run (StateM σ) α) (part : α → Option (Link Nat))
    (state : σ) (done : Log) : Prop where
  passes : scene.Passes state done (program.play state).2
  tends : Tends origin owner done ((program.play state).1.map part)

namespace Keeps

variable {α β : Type} {owner : Option (Link Nat)} {link : Link Nat} {state : σ} {done : Log}

theorem bind {program : Run (StateM σ) α} {next : α → Run (StateM σ) β} {part : α → Link Nat}
    {last : β → Option (Link Nat)}
    (first : Keeps scene origin owner program (fun value => some (part value)) state done)
    (second : ∀ value middle, program.play state = (.ok value, middle) → (part value).Sound origin →
      ∃ more, Keeps scene origin (some (part value)) (next value) last middle more) :
    ∃ more, Keeps scene origin owner (program >>= next) last state more := by
  obtain ⟨passes, tends⟩ := first
  rcases plays : program.play state with ⟨halt | value, middle⟩
  all_goals
    rw [plays] at passes tends
  · refine ⟨done, ?_, ?_⟩
    · rw [Run.play_bind_error plays]
      exact passes
    · rw [Run.play_bind_error plays]
      exact tends
  · have tended : Tended origin owner done (some (part value)) := tends
    obtain ⟨more, later⟩ := second value middle plays (tended.owned _ rfl)
    refine ⟨done ++ more, ?_, ?_⟩
    · rw [Run.play_bind_ok plays]
      exact passes.trans later.passes
    · rw [Run.play_bind_ok plays]
      exact tended.trans_tends later.tends

theorem followed {program : Run (StateM σ) α} {part : α → Option (Link Nat)} {view : α → β}
    {last : β → Option (Link Nat)} (keeps : Keeps scene origin owner program part state done)
    (same : ∀ value, last (view value) = part value) :
    Keeps scene origin owner (program >>= fun value => pure (view value)) last state done := by
  constructor
  · rw [Run.play_view]
    exact keeps.passes
  · rw [program.play_view_map same]
    exact keeps.tends

theorem second {program : Run (StateM σ) (α × β)} {part : β → Option (Link Nat)}
    (keeps : Keeps scene origin owner program (fun result => part result.2) state done) :
    Keeps scene origin owner (do let (_, half) ← program; pure half) part state done :=
  keeps.followed fun _ => rfl

end Keeps

theorem Link.connect_keeps (scene : Scene σ) (fuel : Nat) (limit : Option Deadline)
    (link : Link Nat) (sound : link.Sound origin) (state : σ) :
    ∃ done, Keeps scene origin (some link) (link.connect scene.surroundings fuel limit)
      (fun result => some result.2) state done := by
  obtain ⟨done, connecting⟩ := Connecting.of_connect scene fuel limit link state
  exact ⟨done, connecting.passes, connecting.tends sound⟩

theorem Link.connection_of_connect {fuel : Nat} {limit : Option Deadline} {link ready : Link Nat}
    {connection : Connection Nat} {state stop : σ}
    (connects : (link.connect scene.surroundings fuel limit).play state =
      (.ok (.ok connection, ready), stop)) : ready.connection = some connection := by
  obtain ⟨done, connecting⟩ := Connecting.of_connect scene fuel limit link state
  rw [connects] at connecting
  exact connecting.ready_of_ok

theorem Link.send_keeps (scene : Scene σ) (link : Link Nat) (sound : link.Sound origin)
    {connection : Connection Nat} (holds : link.connection = some connection) (method : Method)
    (arguments : List Json) (state : σ) :
    ∃ done, Keeps scene origin (some link)
      (link.send scene.surroundings connection method arguments) (fun result => some result.2) state
      done := by
  have sends := link.send_play scene connection method arguments state
  rcases calls : (scene.surroundings.call connection.channel connection.next.sequence method
    arguments).play state with ⟨answer, stop⟩
  rw [calls] at sends
  refine ⟨[.called connection.channel connection.next.sequence method arguments answer], ?_, ?_⟩
  · have passes := Scene.call_passes calls
    cases answer <;> exact sends ▸ passes
  · rw [sends]
    cases answer with
    | ok result => exact .of_call holds sound
    | error halt => exact ⟨_, .of_call holds⟩

theorem Link.close_keeps (scene : Scene σ) (link : Link Nat) (sound : link.Sound origin)
    (state : σ) :
    ∃ done, Keeps scene origin (some link) (link.close scene.surroundings) some state done := by
  obtain ⟨done, stop, releasing, closes⟩ := link.close_play scene state
  refine ⟨done, ?_, ?_⟩
  · rw [closes]
    exact releasing.passes
  · rw [closes]
    exact .of_releasing sound releasing rfl rfl rfl

theorem Link.invalidate_keeps (scene : Scene σ) (link : Link Nat) (sound : link.Sound origin)
    (state : σ) :
    ∃ done, Keeps scene origin (some link) (link.invalidate scene.surroundings) some state
      done := by
  obtain ⟨done, stop, releasing, invalidates⟩ := link.invalidate_play scene state
  refine ⟨done, ?_, ?_⟩
  · rw [invalidates]
    exact releasing.passes
  · rw [invalidates]
    exact .of_releasing sound releasing rfl rfl link.bare_released

structure Telling (scene : Scene σ) (state : σ) (locator : Locator) (done : Log)
    (outcome : Except Halt (Except LinkFailure String × Locator)) (stop : σ) : Prop where
  passes : scene.Passes state done stop
  handover : done.Handover none none
  connected : done.connected = []
  made : done.made = []
  openings : done.openings = []
  forget : ∀ result after, outcome = .ok (result, after) → after.forget = locator.forget
  quiet : locator.isKnown = true → done = [] ∧ ∃ result, outcome = .ok (result, locator)

theorem Locating.telling {state stop : σ} {locator : Locator} {done : Log}
    {outcome : Except Halt (Except LinkFailure String × Locator)}
    (locating : Locating scene state locator done outcome stop) :
    Telling scene state locator done outcome stop where
  passes := locating.passes
  handover := locating.handover
  connected := locating.connected
  made := by cases locating <;> rfl
  openings := by cases locating <;> rfl
  forget result after told := by
    subst told
    exact locating.forget
  quiet := locating.quiet

theorem Locator.rawUrl_telling (scene : Scene σ) (locator : Locator) (state : σ) :
    ∃ done, Telling scene state locator done ((locator.rawUrl scene.surroundings).play state).1
      ((locator.rawUrl scene.surroundings).play state).2 := by
  obtain ⟨done, locating⟩ := Locating.of_rawUrl scene locator state
  exact ⟨done, locating.telling⟩

theorem Locator.url_telling (scene : Scene σ) (locator : Locator) (state : σ) :
    ∃ done, Telling scene state locator done ((locator.url scene.surroundings).play state).1
      ((locator.url scene.surroundings).play state).2 := by
  cases locator with
  | direct uri =>
    have fixed : Locating scene state (.direct uri) [] _ state := .fixed
    exact ⟨[], fixed.telling⟩
  | registry locator =>
    cases proxied : locator.proxyUrl with
    | some proxy =>
      have tells : ((Locator.registry locator).url scene.surroundings).play state =
          (.ok (.ok proxy, .registry locator), state) := by
        simp only [url, RegistryLocator.url, proxied]
        rfl
      rw [tells]
      refine ⟨[], .refl scene state, .nil none, rfl, rfl, rfl, ?_, fun _ => ⟨rfl, _, rfl⟩⟩
      intro result after told
      cases told
      rfl
    | none =>
      obtain ⟨done, telling⟩ := rawUrl_telling scene (.registry locator) state
      have same : (Locator.registry locator).url scene.surroundings =
          (Locator.registry locator).rawUrl scene.surroundings := by
        simp only [url, rawUrl, RegistryLocator.url, proxied]
      rw [same]
      exact ⟨done, telling⟩

theorem Telling.keeps {program : Run (StateM σ) (Except LinkFailure String × Locator)}
    {link : Link Nat} {state : σ} {done : Log}
    (telling : Telling scene state link.locator done (program.play state).1 (program.play state).2)
    (sound : link.Sound origin) :
    Keeps scene origin (some link) (do
      let (result, locator) ← program
      pure (result, { link with locator })) (fun result => some result.2) state done := by
  obtain ⟨place, login, options, connection, epoch⟩ := link
  rcases plays : program.play state with ⟨halt | ⟨result, locator⟩, middle⟩
  all_goals
    rw [plays] at telling
  · refine ⟨?_, ?_⟩
    · rw [Run.play_bind_error plays]
      exact telling.passes
    rw [Run.play_bind_error plays]
    cases connection with
    | none => exact ⟨none, telling.handover⟩
    | some connection =>
      obtain ⟨_, _, told⟩ := telling.quiet (sound.settled (Option.some_ne_none _))
      cases told
  · refine ⟨?_, ?_⟩
    · rw [Run.play_bind_ok plays]
      exact telling.passes
    rw [Run.play_bind_ok plays]
    cases connection with
    | none =>
      have same : Link.bare ⟨locator, login, options, none, epoch⟩ =
          Link.bare ⟨place, login, options, none, epoch⟩ := by
        simp only [Link.bare, telling.forget result locator rfl]
      exact .of_idle sound rfl rfl rfl same telling.handover telling.connected
    | some connection =>
      obtain ⟨rfl, _, told⟩ := telling.quiet (sound.settled (Option.some_ne_none _))
      cases told
      exact .refl (.of_link sound)

theorem LinkDeed.keeps (scene : Scene σ) (fuel : Nat) (deed : LinkDeed) (link : Link Nat)
    (sound : link.Sound origin) (state : σ) :
    ∃ done, Keeps scene origin (some link) (deed.run scene.surroundings fuel link) some state
      done := by
  cases deed with
  | connect limit =>
    obtain ⟨done, keeps⟩ := link.connect_keeps scene fuel limit sound state
    exact ⟨done, keeps.second⟩
  | call method arguments =>
    obtain ⟨_, connects⟩ := link.connect_keeps scene fuel none sound state
    have calls : ∃ done, Keeps scene origin (some link)
        (link.call scene.surroundings fuel method arguments) (fun result => some result.2) state
        done := by
      apply connects.bind
      rintro ⟨failure | connection, ready⟩ middle connected sound
      · exact ⟨[], .refl scene middle, .refl (.of_link sound)⟩
      · have holds : ready.connection = some connection := Link.connection_of_connect connected
        obtain ⟨_, sends⟩ := ready.send_keeps scene sound holds method arguments middle
        apply sends.bind
        intro result last _ sound
        exact ⟨[], .refl scene last, .refl (.of_link sound)⟩
    obtain ⟨done, keeps⟩ := calls
    exact ⟨done, keeps.second⟩
  | send method arguments =>
    rw [run]
    split
    · exact ⟨[], .refl scene state, .refl (.of_link sound)⟩
    · rename_i connection holds
      obtain ⟨done, keeps⟩ := link.send_keeps scene sound holds method arguments state
      exact ⟨done, keeps.second⟩
  | close => exact link.close_keeps scene sound state
  | invalidate => exact link.invalidate_keeps scene sound state
  | url =>
    obtain ⟨done, telling⟩ := link.locator.url_telling scene state
    exact ⟨done, (telling.keeps sound).second⟩
  | rawUrl =>
    obtain ⟨done, telling⟩ := link.locator.rawUrl_telling scene state
    exact ⟨done, (telling.keeps sound).second⟩

namespace Session

variable {session : Session Nat}

theorem withLink_keeps {α : Type} (sound : session.Sound scene origin)
    (use : Link Nat → Run (StateM σ) (Except LinkFailure α × Link Nat)) (state : σ)
    (keeps : ∀ link : Link Nat, link.Sound origin →
      ∃ done, Keeps scene origin (some link) (use link) (fun result => some result.2) state done) :
    ∃ done, Keeps scene origin session.link (session.withLink scene.surroundings use)
      (fun result => result.2.link) state done := by
  unfold withLink
  cases built : session.linkOf scene.surroundings with
  | error failure => exact ⟨[], .refl scene state, .refl sound.owned⟩
  | ok link =>
    have made := Tended.of_linkOf sound built
    obtain ⟨done, passes, tends⟩ := keeps link (made.owned link rfl)
    have kept : Keeps scene origin session.link (use link) (fun result => some result.2) state
        done := ⟨passes, made.trans_tends tends⟩
    exact ⟨done, kept.followed fun _ => rfl⟩

theorem invoke_keeps (sound : session.Sound scene origin) (fuel : Nat) (request : Request)
    (repeatable : Bool) (state : σ) :
    ∃ done, Keeps scene origin session.link
      (session.invoke scene.surroundings fuel request repeatable) (fun result => result.2.link)
      state done := by
  have invoking := Invoking.of_invoke scene fuel session request repeatable state
  exact ⟨_, invoking.passes, invoking.tends sound⟩

theorem invalidate_keeps (sound : session.Sound scene origin) (state : σ) :
    ∃ done, Keeps scene origin session.link (session.invalidate scene.surroundings) (·.link) state
      done := by
  obtain ⟨cluster, options, policy, link⟩ := session
  cases link with
  | none => exact ⟨[], .refl scene state, .refl sound.owned⟩
  | some link =>
    obtain ⟨done, keeps⟩ := link.invalidate_keeps scene (sound.owned link rfl) state
    exact ⟨done, keeps.followed fun _ => rfl⟩

end Session

theorem SessionDeed.keeps (deed : SessionDeed) {session : Session Nat}
    (sound : session.Sound scene origin) (fuel : Nat) (state : σ) :
    ∃ done, Keeps scene origin session.link (deed.run scene.surroundings fuel session) (·.link)
      state done := by
  cases deed with
  | invoke request repeatable =>
    obtain ⟨done, keeps⟩ := Session.invoke_keeps sound fuel request repeatable state
    exact ⟨done, keeps.second⟩
  | withLink deed =>
    have uses : ∃ done, Keeps scene origin session.link
        (session.withLink scene.surroundings fun link => do
          let link ← deed.run scene.surroundings fuel link
          pure (Except.ok (), link)) (fun result => result.2.link) state done := by
      apply Session.withLink_keeps sound
      intro link sound
      obtain ⟨done, keeps⟩ := deed.keeps scene fuel link sound state
      exact ⟨done, keeps.followed fun _ => rfl⟩
    obtain ⟨done, keeps⟩ := uses
    exact ⟨done, keeps.second⟩
  | invalidate => exact Session.invalidate_keeps sound state
  | url =>
    have tells : ∃ done, Keeps scene origin session.link (session.url scene.surroundings)
        (fun result => result.2.link) state done := by
      apply Session.withLink_keeps sound
      intro link sound
      obtain ⟨done, telling⟩ := link.locator.url_telling scene state
      exact ⟨done, telling.keeps sound⟩
    obtain ⟨done, keeps⟩ := tells
    exact ⟨done, keeps.second⟩
  | setPolicy policy => exact ⟨[], .refl scene state, .refl sound.owned⟩

/-! Telling an address neither creates nor opens a channel. -/

theorem Scene.perform_view_done {α β : Type} (scene : Scene σ) (program : Run (StateM σ) α)
    (view : α → β) (state : σ) :
    (scene.perform (program >>= fun value => pure (view value)) state).done =
      (scene.perform program state).done := by
  rw [perform, perform, Run.play_view]

theorem Scene.perform_pure_done {α : Type} (scene : Scene σ) (value : α) (state : σ) :
    (scene.perform (pure value) state).done = [] :=
  List.drop_length

theorem Session.withLink_done {α : Type} (scene : Scene σ) (session : Session Nat)
    (use : Link Nat → Run (StateM σ) (Except LinkFailure α × Link Nat)) (state : σ) :
    (scene.perform (session.withLink scene.surroundings use) state).done =
      match session.linkOf scene.surroundings with
      | .error _ => []
      | .ok link => (scene.perform (use link) state).done := by
  unfold withLink
  cases session.linkOf scene.surroundings with
  | error failure => exact scene.perform_pure_done _ state
  | ok link => exact scene.perform_view_done (use link) _ state

theorem LinkDeed.tells_quietly {deed : LinkDeed} (address : deed.isAddress = true)
    {link : Link Nat} (sound : link.Sound origin) (fuel : Nat) (state : σ) :
    let told := scene.perform (deed.run scene.surroundings fuel link) state
    told.done.made = [] ∧ told.done.openings = [] := by
  have told : ∀ {program : Run (StateM σ) (Except LinkFailure String × Locator)} {done : Log},
      Telling scene state link.locator done (program.play state).1 (program.play state).2 →
      (scene.perform (do
        let (_, half) ← (do
          let (result, locator) ← program
          pure (result, { link with locator }))
        pure half) state).done = done := by
    intro program done telling
    exact Scene.perform_done (telling.keeps sound).second.passes
  cases deed with
  | url =>
    obtain ⟨done, telling⟩ := link.locator.url_telling scene state
    have same : (scene.perform (run scene.surroundings fuel link .url) state).done = done :=
      told telling
    simp only [same]
    exact ⟨telling.made, telling.openings⟩
  | rawUrl =>
    obtain ⟨done, telling⟩ := link.locator.rawUrl_telling scene state
    have same : (scene.perform (run scene.surroundings fuel link .rawUrl) state).done = done :=
      told telling
    simp only [same]
    exact ⟨telling.made, telling.openings⟩
  | connect limit => cases address
  | call method arguments => cases address
  | send method arguments => cases address
  | close => cases address
  | invalidate => cases address

theorem SessionDeed.tells_quietly {deed : SessionDeed} (address : deed.isAddress = true)
    {session : Session Nat} (sound : session.Sound scene origin) (fuel : Nat) (state : σ) :
    let told := scene.perform (deed.run scene.surroundings fuel session) state
    told.done.made = [] ∧ told.done.openings = [] := by
  have linked : ∀ deed : LinkDeed, deed.isAddress = true →
      ∀ link, session.linkOf scene.surroundings = .ok link →
        (scene.perform (deed.run scene.surroundings fuel link) state).done.made = [] ∧
          (scene.perform (deed.run scene.surroundings fuel link) state).done.openings = [] := by
    intro deed address link built
    have made := Tended.of_linkOf sound built
    exact LinkDeed.tells_quietly address (made.owned link rfl) fuel state
  cases deed with
  | withLink deed =>
    have same : (scene.perform (run scene.surroundings fuel session (.withLink deed)) state).done =
      _ := (scene.perform_view_done _ Prod.snd state).trans (session.withLink_done scene _ state)
    simp only [same]
    cases built : session.linkOf scene.surroundings with
    | error failure => exact ⟨rfl, rfl⟩
    | ok link =>
      simp only [scene.perform_view_done]
      exact linked deed address link built
  | url =>
    have same : (scene.perform (run scene.surroundings fuel session .url) state).done = _ :=
      (scene.perform_view_done _ Prod.snd state).trans (session.withLink_done scene _ state)
    simp only [same]
    cases built : session.linkOf scene.surroundings with
    | error failure => exact ⟨rfl, rfl⟩
    | ok link =>
      have view : (scene.perform (LinkDeed.run scene.surroundings fuel link .url) state).done =
          (scene.perform (link.url scene.surroundings) state).done :=
        scene.perform_view_done _ Prod.snd state
      have told := linked .url rfl link built
      rw [view] at told
      exact told
  | invoke request repeatable => cases address
  | invalidate => cases address
  | setPolicy policy => cases address

/-! A session stays with its cluster and its options. -/

theorem Attempting.frame {call : PendingCall} {session after : Session Nat} {state stop : σ}
    {done : Log} {attempt : Attempt}
    (attempting : Attempting scene call session state done (.ok (attempt, after)) stop) :
    after = { session with link := after.link } := by
  cases attempting <;> rfl

theorem Course.frame {call : PendingCall} {made : Nat} {lastError : String}
    {session after : Session Nat} {state stop : σ} {done : Log}
    {result : Except SessionFailure Response}
    (course : Course scene call made lastError session state done (.ok (result, after)) stop) :
    after = { session with link := after.link } := by
  generalize same : (Except.ok (result, after) :
    Except Halt (Except SessionFailure Response × Session Nat)) = outcome at course
  induction course with
  | unfinished => cases same
  | terminated _ => cases same; rfl
  | timedOut _ _ _ => cases same; rfl
  | halted _ _ _ => cases same
  | finished _ _ attempting => cases same; exact attempting.frame
  | interrupted _ _ attempting _ ih => rw [ih same, attempting.frame]
  | paused _ _ attempting _ _ ih => rw [ih same, attempting.frame]
  | spent _ _ attempting _ _ ih => rw [ih same, attempting.frame]

theorem Invoking.frame {session after : Session Nat} {request : Request} {repeatable : Bool}
    {state stop : σ} {done : Log} {result : Except SessionFailure Response}
    (invoking : Invoking scene session request repeatable state done (.ok (result, after)) stop) :
    after = { session with link := after.link } := by
  cases invoking with
  | misfit _ => rfl
  | course _ _ course => exact course.frame

theorem Run.ok_of_second {α β : Type} {program : Run (StateM σ) (α × β)} {half : β} {state : σ}
    (ends : ((do let (_, half) ← program; pure half : Run (StateM σ) β).play state).1 = .ok half) :
    ∃ other, (program.play state).1 = .ok (other, half) := by
  rcases plays : program.play state with ⟨halt | ⟨other, last⟩, middle⟩
  · rw [Run.play_bind_error plays] at ends
    cases ends
  · rw [Run.play_bind_ok plays] at ends
    cases ends
    exact ⟨other, rfl⟩

theorem Session.withLink_frame {α : Type} {session after : Session Nat}
    {use : Link Nat → Run (StateM σ) (Except LinkFailure α × Link Nat)} {state : σ}
    {result : Except LinkFailure α}
    (ends : ((session.withLink scene.surroundings use).play state).1 = .ok (result, after)) :
    after = { session with link := after.link } := by
  unfold withLink at ends
  cases built : session.linkOf scene.surroundings with
  | error failure =>
    rw [built] at ends
    cases ends
    rfl
  | ok link =>
    rw [built] at ends
    rcases plays : (use link).play state with ⟨halt | ⟨other, last⟩, middle⟩
    · rw [Run.play_bind_error plays] at ends
      cases ends
    · rw [Run.play_bind_ok plays] at ends
      cases ends
      rfl

theorem SessionDeed.frame {deed : SessionDeed} {session after : Session Nat} {fuel : Nat}
    {state : σ}
    (ends : (scene.perform (deed.run scene.surroundings fuel session) state).outcome = .ok after) :
    after.cluster = session.cluster ∧ after.options = session.options := by
  have framed : ∀ {after : Session Nat}, after = { session with link := after.link } →
      after.cluster = session.cluster ∧ after.options = session.options := by
    intro after frame
    rw [frame]
    exact ⟨rfl, rfl⟩
  cases deed with
  | invoke request repeatable =>
    obtain ⟨result, invoked⟩ := Run.ok_of_second ends
    have invoking := Invoking.of_invoke scene fuel session request repeatable state
    rw [Scene.perform, invoked] at invoking
    exact framed invoking.frame
  | withLink deed =>
    obtain ⟨result, used⟩ := Run.ok_of_second ends
    exact framed (Session.withLink_frame used)
  | invalidate =>
    obtain ⟨cluster, options, policy, link⟩ := session
    cases link with
    | none =>
      cases ends
      exact ⟨rfl, rfl⟩
    | some link =>
      obtain ⟨_, _, _, invalidates⟩ :=
        Session.invalidate_play scene ⟨cluster, options, policy, some link⟩ rfl state
      have same := (congrArg Prod.fst invalidates).symm.trans ends
      cases same
      exact ⟨rfl, rfl⟩
  | url =>
    obtain ⟨result, told⟩ := Run.ok_of_second ends
    exact framed (Session.withLink_frame told)
  | setPolicy policy =>
    cases ends
    exact ⟨rfl, rfl⟩

/-! Histories. -/

namespace Keeps

variable {α : Type} {owner : Option (Link Nat)} {program : Run (StateM σ) α}
  {part : α → Option (Link Nat)} {state : σ} {done : Log}

theorem performed (keeps : Keeps scene origin owner program part state done) :
    Tends origin owner (scene.perform program state).done
      ((scene.perform program state).outcome.map part) := by
  rw [Scene.perform_done keeps.passes]
  exact keeps.tends

theorem tended (keeps : Keeps scene origin owner program part state done) {value : α}
    (ends : (scene.perform program state).outcome = .ok value) :
    Tended origin owner (scene.perform program state).done (part value) := by
  have tends := keeps.performed
  rw [ends] at tends
  exact tends

theorem custody (keeps : Keeps scene origin owner program part state done) {earlier : Log}
    (custody : earlier.Custody (heldBy owner)) :
    ∃ live, Log.Custody (earlier ++ (scene.perform program state).done) live := by
  have tends := keeps.performed
  cases ends : (scene.perform program state).outcome with
  | ok value =>
    rw [ends] at tends
    exact ⟨_, custody.extend tends.handover⟩
  | error halt =>
    rw [ends] at tends
    obtain ⟨live, handover⟩ := tends
    exact ⟨live, custody.extend handover⟩

end Keeps

theorem Link.History.kept {link : Link Nat} {done : Log} (history : Link.History scene link done) :
    done.Custody link.held ∧ link.epoch = done.connected.length ∧
      link.Sound (.ok link.bare) := by
  induction history with
  | made new =>
    refine ⟨?_, new.epoch, ?_, rfl⟩
    · rw [Link.held, new.idle]
      exact .nil
    · intro holds
      rw [Link.held, new.idle] at holds
      exact absurd rfl holds
  | @did link after done fuel state deed _ ends ih =>
    obtain ⟨custody, epoch, sound⟩ := ih
    obtain ⟨_, keeps⟩ := deed.keeps scene fuel link sound state
    have tended := keeps.tended ends
    have later : after.epoch = link.epoch + _ := tended.epoch after rfl
    refine ⟨custody.extend tended.handover, ?_, (tended.owned after rfl).settled, rfl⟩
    rw [Log.connected_append, List.length_append]
    omega

def Session.freshLink (scene : Scene σ) (session : Session Nat) : Except LinkFailure (Link Nat) :=
  Link.ofCluster scene.surroundings session.cluster session.options

theorem Session.History.kept {session : Session Nat} {done own : Log}
    (history : Session.History scene session done own) :
    done.Custody (heldBy session.link) ∧
      (∀ link, session.link = some link → link.epoch = own.connected.length) ∧
      session.Sound scene (session.freshLink scene) := by
  induction history with
  | made unlinked =>
    rw [unlinked]
    refine ⟨.nil, ?_, rfl, ?_⟩
    · intro link linked
      cases linked
    · intro link linked
      rw [unlinked] at linked
      cases linked
  | @did session after done own fuel state deed _ ends ih =>
    obtain ⟨custody, epochs, sound⟩ := ih
    obtain ⟨_, keeps⟩ := deed.keeps sound fuel state
    have tended := keeps.tended ends
    -- A deed leaves the cluster and the options alone, and these alone make a new link.
    have origin : after.freshLink scene = session.freshLink scene := by
      obtain ⟨cluster, options⟩ := SessionDeed.frame ends
      rw [Session.freshLink, Session.freshLink, cluster, options]
    refine ⟨custody.extend tended.handover, ?_, rfl, origin ▸ tended.owned⟩
    intro link has
    rw [tended.epoch link has, Log.connected_append, List.length_append]
    cases before : session.link with
    | none => rfl
    | some earlier =>
      have epoch : earlier.epoch = own.connected.length := epochs earlier before
      simp only [epochOf, Option.map_some, Option.getD_some, Option.isNone_some, epoch]
      rfl

/-! Whoever gives up a link or a session leaves no channel open. -/

theorem Link.close_ends (scene : Scene σ) (link : Link Nat) (state : σ) :
    let closed := scene.perform (link.close scene.surroundings) state
    (∃ after, closed.outcome = .ok after) ∧ closed.done.Handover link.held none := by
  obtain ⟨done, stop, releasing, closes⟩ := link.close_play scene state
  refine ⟨⟨{ link with connection := none }, congrArg Prod.fst closes⟩, ?_⟩
  have passes : scene.Passes state done
      (scene.perform (link.close scene.surroundings) state).stop := by
    rw [Scene.perform, closes]
    exact releasing.passes
  rw [Scene.perform_done passes]
  exact releasing.handover

theorem Session.discard_ends (scene : Scene σ) (session : Session Nat) (state : σ) :
    let discarded := scene.perform (session.discard scene.surroundings) state
    (∃ after, discarded.outcome = .ok after) ∧
      discarded.done.Handover (heldBy session.link) none := by
  obtain ⟨done, stop, releasing, discards⟩ := session.discard_play scene state
  refine ⟨⟨{ session with link := none }, congrArg Prod.fst discards⟩, ?_⟩
  have passes : scene.Passes state done
      (scene.perform (session.discard scene.surroundings) state).stop := by
    rw [Scene.perform, discards]
    exact releasing.passes
  rw [Scene.perform_done passes]
  have handover := releasing.handover
  rw [Option.map_bind] at handover
  exact handover

theorem Log.Custody.closed_once {log : Log} (custody : log.Custody none)
    (distinct : log.made.Nodup) : ∀ channel ∈ log.connected, log.released.count channel = 1 := by
  intro channel member
  have all : log.connected = log.released := by
    rw [custody.live]
    exact List.append_nil _
  rw [← all, (distinct.sublist custody.once).count, if_pos member]

/-- The live channel is the one that is held: after every deed of its owner with a link, or with a
session, all channels that were ever opened but that one are closed. Within a deed too nothing is
done out of time, be it in the end the owner's last. The epoch of a link is the number of channels
that were opened for it. Telling an address opens none, and giving all up leaves none open. -/
theorem live_channel_is_the_held_one (scene : Scene σ) :
    (∀ link done, Link.History scene link done →
      done.Custody link.held ∧ link.epoch = done.connected.length ∧
      (∀ (deed : LinkDeed) fuel state,
        let performed := scene.perform (deed.run scene.surroundings fuel link) state
        (∃ live, Log.Custody (done ++ performed.done) live) ∧
          (deed.isAddress = true → performed.done.made = [] ∧ performed.done.openings = [])) ∧
      ∀ state,
        let dropped := scene.perform (link.close scene.surroundings) state
        let all : Log := done ++ dropped.done
        (∃ after, dropped.outcome = .ok after) ∧ all.Custody none ∧
          (all.made.Nodup → ∀ channel ∈ all.connected, all.released.count channel = 1)) ∧
    ∀ session done own, Session.History scene session done own →
      done.Custody (heldBy session.link) ∧
      (∀ link, session.link = some link → link.epoch = own.connected.length) ∧
      (∀ (deed : SessionDeed) fuel state,
        let performed := scene.perform (deed.run scene.surroundings fuel session) state
        (∃ live, Log.Custody (done ++ performed.done) live) ∧
          (deed.isAddress = true → performed.done.made = [] ∧ performed.done.openings = [])) ∧
      ∀ state,
        let dropped := scene.perform (session.discard scene.surroundings) state
        let all : Log := done ++ dropped.done
        (∃ after, dropped.outcome = .ok after) ∧ all.Custody none ∧
          (all.made.Nodup → ∀ channel ∈ all.connected, all.released.count channel = 1) := by
  constructor
  · intro link done history
    obtain ⟨custody, epoch, sound⟩ := history.kept
    refine ⟨custody, epoch, ?_, ?_⟩
    · intro deed fuel state
      obtain ⟨_, keeps⟩ := deed.keeps scene fuel link sound state
      refine ⟨keeps.custody custody, ?_⟩
      intro address
      exact LinkDeed.tells_quietly address sound fuel state
    · intro state
      obtain ⟨ends, handover⟩ := link.close_ends scene state
      have empty := custody.extend handover
      exact ⟨ends, empty, empty.closed_once⟩
  · intro session done own history
    obtain ⟨custody, epochs, sound⟩ := history.kept
    refine ⟨custody, epochs, ?_, ?_⟩
    · intro deed fuel state
      obtain ⟨_, keeps⟩ := deed.keeps sound fuel state
      refine ⟨keeps.custody custody, ?_⟩
      intro address
      exact SessionDeed.tells_quietly address sound fuel state
    · intro state
      obtain ⟨ends, handover⟩ := session.discard_ends scene state
      have empty := custody.extend handover
      exact ⟨ends, empty, empty.closed_once⟩

theorem hasty_call_holds_one_channel :
    let scene := Stage.scene {} fun _ => .ok .anonymous
    let link : Link Nat := ⟨.direct "http://scheduler:8081", .anonymous, {}, none, 0⟩
    let connected := scene.perform (LinkDeed.run scene.surroundings 9 link (.connect none)) {}
    let called := scene.perform
      (SessionDeed.run scene.surroundings 9 Session.hasty (.invoke ⟨.getJobs, [.null]⟩ false)) {}
    (∃ ready, connected.outcome = .ok ready ∧ connected.done.Custody ready.held ∧
      ready.epoch = connected.done.connected.length) ∧
    ∃ after, called.outcome = .ok after ∧ called.done.Custody (heldBy after.link) ∧
      let dropped := scene.perform (after.discard scene.surroundings) called.stop
      ∀ channel ∈ Log.connected (called.done ++ dropped.done),
        (Log.released (called.done ++ dropped.done)).count channel = 1 := by
  intro scene link connected called
  obtain ⟨links, sessions⟩ := live_channel_is_the_held_one scene
  have connects : (match connected.outcome with
      | .ok ready => decide (ready.held = some 0)
      | .error _ => false) = true := by
    decide +kernel
  have calls : (match called.outcome with
      | .ok after =>
        let dropped := scene.perform (after.discard scene.surroundings) called.stop
        decide (Log.made (called.done ++ dropped.done)).Nodup
      | .error _ => false) = true := by
    decide +kernel
  split at connects
  · rename_i ready linked
    split at calls
    · rename_i after served
      have links := links ready _
        (.did (.connect none) (.made ⟨rfl, rfl, rfl⟩) linked)
      have sessions := sessions after _ _
        (.did (.invoke ⟨.getJobs, [.null]⟩ false) (.made rfl) served)
      rw [List.nil_append] at links sessions
      obtain ⟨holding, epoch, _, _⟩ := links
      obtain ⟨keeping, _, _, dropped⟩ := sessions
      obtain ⟨_, _, once⟩ := dropped called.stop
      exact ⟨⟨ready, linked, holding, epoch⟩, after, served, keeping,
        once (of_decide_eq_true calls)⟩
    · cases calls
  · cases connects

end SchedulerLink
