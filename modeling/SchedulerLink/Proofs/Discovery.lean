import SchedulerLink.Proofs.Budget
import SchedulerLink.Proofs.Custody
import SchedulerLink.Settings.File

/-!
How long a call sleeps while its scheduler is searched.

A registry in a directory is read until it has a member or the search has taken its time. That time
does not depend on the call for which the scheduler is searched, so one search may go on when the
time of the call is over. After that the call does not sleep again.
-/

namespace SchedulerLink

variable {σ : Type} {scene : Scene σ}

/-! Searching a directory. -/

namespace Scene

variable {α β : Type}

def IsQuiet (scene : Scene σ) (program : StateM σ α) (kind : α → Prop) : Prop :=
  ∀ state, scene.Passes state [] (program.run state).2 ∧ kind (program.run state).1

theorem IsQuiet.pure {kind : α → Prop} {value : α} (is : kind value) :
    scene.IsQuiet (pure value) kind := fun state => ⟨.refl scene state, is⟩

theorem IsQuiet.bind {kind : α → Prop} {other : β → Prop} {program : StateM σ α}
    {next : α → StateM σ β} (first : scene.IsQuiet program kind)
    (second : ∀ value, kind value → scene.IsQuiet (next value) other) :
    scene.IsQuiet (program >>= next) other := by
  intro state
  obtain ⟨begins, is⟩ := first state
  obtain ⟨ends, last⟩ := second _ is (program.run state).2
  exact ⟨begins.trans ends, last⟩

/-- Files that are read without taking time or leaving a trace. What is in them may depend on the
state in any way. -/
structure Reads (scene : Scene σ) (files : FileStore (StateM σ)) : Prop where
  list (path : String) : scene.IsQuiet (files.list path) fun _ => True
  read (path : String) : scene.IsQuiet (files.read path) fun _ => True

def watch (scene : Scene σ) (files : FileStore (StateM σ)) : Directory.Watch (StateM σ) :=
  { scene.surroundings.toClock with files }

end Scene

namespace Directory

variable {files : FileStore (StateM σ)}

/-- Whether an answer is that of a single reading, which never takes too long. -/
def IsReading (answer : Except DiscoveryFailure (List Member)) : Prop :=
  ∀ path waited, answer ≠ .error (.timeout path waited)

theorem isReading_ok (members : List Member) : IsReading (.ok members) := nofun

theorem isReading_unreadable (path : String) (fault : FileFault) :
    IsReading (.error (unreadable path fault)) := nofun

theorem readFiles_quiet (reads : scene.Reads files) (directory : String) (names : List String) :
    scene.IsQuiet (readFiles (scene.watch files) directory names) IsReading := by
  induction names with
  | nil => exact .pure (isReading_ok [])
  | cons name rest ih =>
    apply (reads.read _).bind
    intro text _
    split
    · exact ih
    · exact .pure (isReading_unreadable _ _)
    · apply ih.bind
      intro members reading
      split
      · exact .pure reading
      · exact .pure (isReading_ok _)

theorem readMembers_quiet (reads : scene.Reads files) (directory : String) :
    scene.IsQuiet (readMembers (scene.watch files) directory) IsReading := by
  apply (reads.list directory).bind
  intro names _
  split
  · exact .pure (isReading_ok [])
  · exact .pure (isReading_unreadable _ _)
  · exact readFiles_quiet reads directory _

/-- The pauses between readings do not go beyond the time of the search, and are not at an end
before if nobody is found. -/
theorem poll_within (reads : scene.Reads files) (directory path : String) (patience : Duration)
    (deadline : Deadline) (fuel : Nat) (state : σ) (inTime : scene.clock state ≤ deadline.expiry) :
    let polled := (poll (scene.watch files) directory path patience deadline fuel).play state
    ∃ done, scene.Passes state done polled.2 ∧ scene.clock polled.2 ≤ deadline.expiry ∧
      ∀ place waited, polled.1 = .ok (.error (.timeout place waited)) →
        deadline.expiry ≤ scene.clock polled.2 := by
  induction fuel generalizing state with
  | zero => exact ⟨[], .refl scene state, inTime, nofun⟩
  | succ fuel ih =>
    obtain ⟨quiet, single⟩ := readMembers_quiet reads directory state
    rw [poll, Run.play_bind, Run.play_lift]
    rcases reading : (readMembers (scene.watch files) directory).run state with ⟨answer, next⟩
    rw [reading] at quiet single
    have early : scene.clock next ≤ deadline.expiry := by
      rw [quiet.still rfl]
      exact inTime
    have now : (scene.watch files).now.run next = (scene.clock next, next) := scene.now_run next
    rcases answer with failure | _ | ⟨first, rest⟩
    · refine ⟨[], quiet, early, ?_⟩
      rintro place waited ⟨⟩
      exact absurd rfl (single place waited)
    · simp only [Run.play_bind, Run.play_lift, now]
      split
      · rename_i spent
        exact ⟨[], quiet, early, fun _ _ _ => Deadline.remaining_eq_zero_iff.mp spent⟩
      · simp only [Run.play_bind, Run.play_lift]
        have cut := Duration.min_le_right interval (deadline.remaining (scene.clock next))
        obtain ⟨more, passes, within, last⟩ := ih _ (Scene.clock_pause_le early cut)
        exact ⟨_, quiet.trans ((scene.pause_passes _ next).trans passes), within, last⟩
    · exact ⟨[], quiet, early, nofun⟩

/-- A search takes no more time than it is given, and no less if it finds nobody. -/
theorem lookup_patient (reads : scene.Reads files) (fuel : Nat) (root path : String)
    (patience : Duration) (state : σ) :
    let searched := scene.perform (lookup (scene.watch files) fuel root path patience) state
    scene.Passes state searched.done searched.stop ∧ searched.done.slept ≤ patience ∧
      ∀ place waited, searched.outcome = .ok (.error (.timeout place waited)) →
        searched.done.slept = patience := by
  intro searched
  have now : (scene.watch files).now.run state = (scene.clock state, state) := scene.now_run state
  have spends : ∃ done, scene.Passes state done searched.stop ∧ done.slept ≤ patience ∧
      ∀ place waited, searched.outcome = .ok (.error (.timeout place waited)) →
        done.slept = patience := by
    simp only [searched, Scene.perform, lookup, Run.play_bind, Run.play_lift, now]
    cases inTime : Deadline.after? (scene.clock state) patience with
    | none =>
      refine ⟨[], .refl scene state, Nat.zero_le _, ?_⟩
      intro place waited overflow
      cases overflow
    | some deadline =>
      have expiry := Deadline.nanos_expiry_of_after? inTime
      have early : scene.clock state ≤ deadline.expiry := by
        rw [Duration.le_iff_nanos]
        omega
      obtain ⟨done, passes, within, last⟩ :=
        poll_within reads (directoryOf root path) path patience deadline fuel state early
      have passed := passes.nanos
      rw [Duration.le_iff_nanos] at within
      refine ⟨done, passes, ?_, ?_⟩
      · rw [Duration.le_iff_nanos]
        omega
      · intro place waited nobody
        have late := last place waited nobody
        rw [Duration.le_iff_nanos] at late
        apply Duration.nanos_injective
        omega
  obtain ⟨done, passes, slept, last⟩ := spends
  have same : searched.done = done := Scene.perform_done passes
  rw [same]
  exact ⟨passes, slept, last⟩

end Directory

/-! Connecting after its time does not pause. -/

theorem Opening.still_of_late {options : LinkOptions} {uri : String} {window : Deadline}
    {channel failed : Nat} {state stop : σ} {done : Log}
    {outcome : Except Halt (Except LinkFailure Unit)}
    (opening : Opening scene options uri (some window) channel failed state done outcome stop)
    (late : window.expiry ≤ scene.clock state) : scene.clock stop = scene.clock state := by
  cases opening with
  | unfinished => rfl
  | opened opens => exact (Scene.open_passes opens).still rfl
  | givenUp fails _ => exact (Scene.open_passes fails).still rfl
  | again fails verdict _ =>
    obtain ⟨_, _, _, left, _⟩ := Connect.verdict_eq_ok verdict
    rw [(Scene.open_passes fails).still rfl] at left
    exact absurd (Deadline.remaining_eq_zero_iff.mpr late) left

theorem Link.window?_le {link : Link Nat} {now : Duration} {deadline : Deadline}
    {window : Option Deadline} (opens : link.window? now (some deadline) = some window) :
    ∃ closing, window = some closing ∧ closing.expiry ≤ deadline.expiry := by
  obtain ⟨closing, capped, rfl⟩ := Option.map_eq_some_iff.mp opens
  obtain ⟨own, _, rfl⟩ := Option.map_eq_some_iff.mp capped
  exact ⟨_, rfl, Nat.min_le_left _ _⟩

theorem Reaching.still_of_late {deadline : Deadline} {link : Link Nat} {base : String}
    {state stop : σ} {done : Log}
    {outcome : Except Halt (Except LinkFailure (Connection Nat) × Link Nat)}
    (reaching : Reaching scene (some deadline) link base state done outcome stop)
    (late : deadline.expiry ≤ scene.clock state) : scene.clock stop = scene.clock state := by
  have opening_still : ∀ {uri : String} {window : Option Deadline} {channel : Nat} {next last : σ}
      {tried : Log} {result : Except Halt (Except LinkFailure Unit)},
      link.window? (scene.clock state) (some deadline) = some window →
      (scene.surroundings.create uri link.setup).run state = (channel, next) →
      Opening scene link.options uri window channel 0 next tried result last →
      scene.clock last = scene.clock state := by
    intro uri window channel next last tried result opens creates opening
    obtain ⟨closing, rfl, within⟩ := Link.window?_le opens
    have created := (Scene.create_passes creates).still rfl
    rw [← created] at late ⊢
    exact opening.still_of_late (Nat.le_trans within late)
  cases reaching with
  | misaddressed _ => rfl
  | overflow _ _ => rfl
  | halted _ window creates opening => exact opening_still window creates opening
  | unopened _ window creates opening => exact opening_still window creates opening
  | connected _ window creates opening =>
    rw [(scene.adopt_passes _ _).still rfl]
    exact opening_still window creates opening

theorem Connecting.still_of_late {deadline : Deadline} {link : Link Nat} {state stop : σ}
    {done : Log} {outcome : Except Halt (Except LinkFailure (Connection Nat) × Link Nat)}
    (connecting : Connecting scene (some deadline) link state done outcome stop)
    (late : deadline.expiry ≤ scene.clock state) : scene.clock stop = scene.clock state := by
  cases connecting with
  | held _ => rfl
  | halted _ locating => exact locating.still
  | unlocated _ locating => exact locating.still
  | reached _ locating reaching =>
    have located := locating.still
    rw [← located] at late ⊢
    exact reaching.still_of_late late

theorem Attempting.still_of_late {call : PendingCall} {session : Session Nat} {state stop : σ}
    {done : Log} {outcome : Except Halt (Attempt × Session Nat)}
    (attempting : Attempting scene call session state done outcome stop)
    (late : call.deadline.expiry ≤ scene.clock state) : scene.clock stop = scene.clock state := by
  cases attempting with
  | unbuilt _ => rfl
  | halted _ connecting => exact connecting.still_of_late late
  | interrupted _ connecting => exact connecting.still_of_late late
  | tooLate _ connecting => exact connecting.still_of_late late
  | unreachable _ _ connecting => exact connecting.still_of_late late
  | callHalted _ connecting calls =>
    rw [(Scene.call_passes calls).still rfl]
    exact connecting.still_of_late late
  | answered _ connecting calls _ =>
    rw [(Scene.call_passes calls).still rfl]
    exact connecting.still_of_late late
  | failed _ connecting calls _ releasing =>
    rw [releasing.still, (Scene.call_passes calls).still rfl]
    exact connecting.still_of_late late

/-! Surroundings with another registry. -/

abbrev Search (σ : Type) :=
  RegistryTarget → Duration → Run (StateM σ) (Except DiscoveryFailure (List Member))

def Scene.searching (scene : Scene σ) (search : Search σ) : Surroundings (StateM σ) Nat :=
  { scene.surroundings with hasRegistry := true, lookup := search }

section Searching

variable {search : Search σ}

theorem Connect.openUntil_searching (options : LinkOptions) (uri : String) (limit : Option Deadline)
    (channel fuel failed : Nat) :
    openUntil (scene.searching search) options uri limit channel fuel failed =
      openUntil scene.surroundings options uri limit channel fuel failed := by
  induction fuel generalizing failed with
  | zero => rfl
  | succ fuel ih =>
    simp only [openUntil, ih]
    rfl

namespace Link

theorem connectTo_searching (fuel : Nat) (limit : Option Deadline) (link : Link Nat)
    (base : String) :
    link.connectTo (scene.searching search) fuel limit base =
      link.connectTo scene.surroundings fuel limit base := by
  simp only [connectTo, Connect.openChannel, Connect.openUntil_searching]
  rfl

def IsLocated (link : Link Nat) : Prop :=
  ∀ locator, link.connection = none → link.locator = .registry locator → locator.found ≠ none

theorem isLocated_or_unknown (link : Link Nat) :
    link.IsLocated ∨ ∃ locator, link.connection = none ∧ link.locator = .registry locator ∧
      locator.found = none := by
  cases holds : link.connection with
  | some connection =>
    refine .inl fun _ idle => ?_
    rw [holds] at idle
    cases idle
  | none =>
    cases place : link.locator with
    | direct uri =>
      refine .inl fun _ _ registered => ?_
      rw [place] at registered
      cases registered
    | registry locator =>
      cases known : locator.found with
      | none => exact .inr ⟨locator, rfl, rfl, known⟩
      | some url =>
        refine .inl fun _ _ registered => ?_
        rw [place] at registered
        cases registered
        rw [known]
        exact Option.some_ne_none url

theorem connect_searching {link : Link Nat} (located : link.IsLocated) (fuel : Nat)
    (limit : Option Deadline) :
    link.connect (scene.searching search) fuel limit =
      link.connect scene.surroundings fuel limit := by
  obtain ⟨locator, login, options, connection, epoch⟩ := link
  cases connection with
  | some connection => rfl
  | none =>
    simp only [connect, connectTo_searching]
    cases locator with
    | direct uri => rfl
    | registry locator =>
      obtain ⟨target, proxyUrl, patience, found⟩ := locator
      cases found with
      | none => exact absurd rfl (located _ rfl rfl)
      | some url => rfl

def finding (link : Link Nat) (locator : RegistryLocator) (url : String) : Link Nat :=
  { link with locator := .registry { locator with found := some url } }

theorem connect_search (scene : Scene σ) (search : Search σ) {link : Link Nat}
    {locator : RegistryLocator} (idle : link.connection = none)
    (registered : link.locator = .registry locator)
    (unknown : locator.found = none) (fuel : Nat) (limit : Option Deadline) (state : σ) :
    (link.connect (scene.searching search) fuel limit).play state =
      match (search locator.target locator.patience).play state with
      | (.error halt, middle) => (.error halt, middle)
      | (.ok answer, middle) =>
        match locator.leader answer with
        | .error failure => (.ok (.error failure, link), middle)
        | .ok url =>
          ((link.finding locator url).connect scene.surroundings fuel limit).play middle := by
  obtain ⟨_, login, options, _, epoch⟩ := link
  obtain ⟨target, proxyUrl, patience, _⟩ := locator
  cases idle
  cases registered
  cases unknown
  simp only [connect, connectTo_searching, Locator.rawUrl, RegistryLocator.rawUrl, Run.play_bind]
  rcases asked : (search target patience).play state with ⟨halt | answer, middle⟩
  · simp only [Scene.searching, asked]
  · simp only [Scene.searching, asked]
    cases leader : RegistryLocator.leader ⟨target, proxyUrl, patience, none⟩ answer with
    | error failure => simp only [Run.play_pure]
    | ok url => simp only [Run.play_pure, finding, Run.play_bind]

end Link

namespace Session

def linked (session : Session Nat) (link : Link Nat) : Session Nat :=
  { session with link := some link }

theorem attempt_linked {surroundings : Surroundings (StateM σ) Nat} {session : Session Nat}
    {link : Link Nat} (built : session.linkOf surroundings = .ok link) (fuel : Nat)
    (call : PendingCall) :
    session.attempt surroundings fuel call =
      (session.linked link).attempt surroundings fuel call := by
  have kept : (session.linked link).linkOf surroundings = .ok link := rfl
  simp only [attempt, built, kept]
  rfl

theorem attempt_searching {session : Session Nat} {link : Link Nat} (located : link.IsLocated)
    (fuel : Nat) (call : PendingCall) :
    (session.linked link).attempt (scene.searching search) fuel call =
      (session.linked link).attempt scene.surroundings fuel call := by
  have kept (surroundings : Surroundings (StateM σ) Nat) :
    (session.linked link).linkOf surroundings = .ok link := rfl
  simp only [attempt, kept, Link.connect_searching located]
  rfl

theorem attempt_unbuilt {surroundings : Surroundings (StateM σ) Nat} {session : Session Nat}
    {failure : LinkFailure} (unbuilt : session.linkOf surroundings = .error failure) (fuel : Nat)
    (call : PendingCall) (state : σ) :
    ∃ result after, (session.attempt surroundings fuel call).play state =
      (.ok (.finished result, after), state) := by
  obtain ⟨unlinked, detail, rfl⟩ := unbuilt_of_linkOf unbuilt
  simp only [attempt, unbuilt, withoutConnection, discard, unlinked]
  exact ⟨_, _, rfl⟩

theorem withoutConnection_final {link : Link Nat} (idle : link.connection = none)
    {failure : LinkFailure} (final : failure.isFinal = true) (call : PendingCall)
    (session : Session Nat) (state : σ) :
    ∃ result after,
      (withoutConnection scene.surroundings call (session.linked link) failure).play state =
        (.ok (.finished result, after), state) := by
  obtain ⟨_, stop, releasing, discards⟩ := (session.linked link).discard_play scene state
  have same : (session.linked link).link.bind (·.connection) = none := idle
  rw [same] at releasing
  cases releasing
  cases failure with
  | interrupted uri => cases final
  | connectTimeout uri attempts reason => cases final
  | configuration detail => exact ⟨_, _, Run.play_bind_ok discards⟩
  | noScheduler cluster waited => exact ⟨_, _, Run.play_bind_ok discards⟩
  | discovery cluster failure => exact ⟨_, _, Run.play_bind_ok discards⟩
  | notConnected uri reason => exact ⟨_, _, Run.play_bind_ok discards⟩

/-- An attempt that needs a search is over if nobody is found. Otherwise it goes on as if the
scheduler had been known. -/
theorem attempt_search {session : Session Nat} {link : Link Nat} {locator : RegistryLocator}
    (idle : link.connection = none) (registered : link.locator = .registry locator)
    (unknown : locator.found = none) (fuel : Nat) (call : PendingCall) (state : σ) :
    let searched := (search locator.target locator.patience).play state
    let tried := ((session.linked link).attempt (scene.searching search) fuel call).play state
    (tried.2 = searched.2 ∧
      ∀ attempt after, tried.1 = .ok (attempt, after) → attempt.isFinished = true) ∨
    ∃ found : Link Nat, found.IsLocated ∧ found.locator.forget = link.locator.forget ∧
      tried = ((session.linked found).attempt scene.surroundings fuel call).play searched.2 := by
  intro searched tried
  have connects := Link.connect_search scene search idle registered unknown fuel
    (some call.deadline) state
  rcases asked : (search locator.target locator.patience).play state with ⟨halt | answer, middle⟩
  all_goals
    have asks : searched = _ := asked
    rw [asks]
    rw [asked] at connects
  · have tries : tried = (.error halt, middle) := Run.play_bind_error connects
    rw [tries]
    exact .inl ⟨rfl, by rintro _ _ ⟨⟩⟩
  cases leader : locator.leader answer with
  | error failure =>
    simp only [leader] at connects
    obtain ⟨result, after, ends⟩ := withoutConnection_final idle
      (RegistryLocator.leader_isFinal leader) call session middle
    have tries : tried = (.ok (.finished result, after), middle) :=
      (Run.play_bind_ok connects).trans ends
    rw [tries]
    refine .inl ⟨rfl, ?_⟩
    rintro _ _ ⟨⟩
    rfl
  | ok url =>
    simp only [leader] at connects
    refine .inr ⟨link.finding locator url, ?_, ?_, ?_⟩
    · rintro _ _ ⟨⟩ ⟨⟩
    · rw [registered]
      rfl
    · have tries : tried = Run.play (Link.connect _ _ _ _ >>= _) state := rfl
      rw [tries, Run.play_bind, connects]
      exact (Run.play_bind _ _ middle).symm

end Session

end Searching

/-! How long a search may take. -/

def Locator.patience : Locator → Duration
  | .direct _ => .zero
  | .registry locator => locator.patience

@[simp] theorem Locator.patience_forget (locator : Locator) :
    locator.forget.patience = locator.patience := by
  cases locator <;> rfl

def Session.patience (session : Session Nat) : Duration :=
  match session.link with
  | some link => link.locator.patience
  | none => session.options.registryWait

theorem Locator.patience_of_ofCluster {surroundings : Surroundings (StateM σ) Nat}
    {cluster : Cluster} {wait : Duration} {locator : Locator}
    (made : Locator.ofCluster surroundings cluster wait = .ok locator) :
    locator.patience ≤ wait := by
  unfold Locator.ofCluster at made
  split at made
  · cases made
  · cases made
    exact Nat.zero_le _
  · split at made
    · cases made
      exact Nat.le_refl _
    · cases made

theorem Session.patience_of_linkOf {surroundings : Surroundings (StateM σ) Nat}
    {session : Session Nat} {link : Link Nat} (built : session.linkOf surroundings = .ok link) :
    link.locator.patience ≤ session.patience := by
  rw [patience]
  unfold linkOf at built
  cases has : session.link with
  | some owned =>
    rw [has] at built
    cases built
    exact Nat.le_refl _
  | none =>
    simp only [has] at built
    unfold Link.ofCluster at built
    split at built
    · cases built
    rename_i located
    split at built
    · cases built
    · cases built
      exact Locator.patience_of_ofCluster located

theorem Locating.patience {locator after : Locator} {state stop : σ} {done : Log}
    {result : Except LinkFailure String}
    (locating : Locating scene state locator done (.ok (result, after)) stop) :
    after.patience = locator.patience := by
  rw [← after.patience_forget, locating.forget, Locator.patience_forget]

theorem Connecting.patience {limit : Option Deadline} {link after : Link Nat} {state stop : σ}
    {done : Log} {result : Except LinkFailure (Connection Nat)}
    (connecting : Connecting scene limit link state done (.ok (result, after)) stop) :
    after.locator.patience = link.locator.patience := by
  cases connecting with
  | held _ => rfl
  | unlocated _ locating => exact locating.patience
  | reached _ locating reaching => cases reaching <;> exact locating.patience

theorem Attempting.patience {call : PendingCall} {session after : Session Nat} {link : Link Nat}
    {state stop : σ} {done : Log} {attempt : Attempt}
    (attempting :
      Attempting scene call (session.linked link) state done (.ok (attempt, after)) stop)
    (unfinished : attempt.isFinished = false) : after.patience = link.locator.patience := by
  cases attempting with
  | unbuilt _ => cases unfinished
  | interrupted built connecting =>
    cases built
    exact connecting.patience
  | tooLate built connecting =>
    cases built
    exact (Locator.patience_forget _).trans connecting.patience
  | unreachable _ _ _ => cases unfinished
  | answered _ _ _ _ => cases unfinished
  | failed built connecting _ _ _ =>
    cases built
    exact (Locator.patience_forget _).trans connecting.patience

/-! What a call does that may have to search. -/

/-- Whether a search always takes at most the time that it is given. -/
def Search.IsPatient (search : Search σ) (scene : Scene σ) : Prop :=
  ∀ target patience state,
    let searched := scene.perform (search target patience) state
    scene.Passes state searched.done searched.stop ∧ searched.done.slept ≤ patience

/-- What is done before a deadline, but for one search at most, which may go on when the deadline
has passed. -/
inductive Spending (scene : Scene σ) (search : Search σ) (deadline : Deadline) (patience : Duration)
    (state : σ) : Log → Prop where
  | inTime {done : Log} {stop : σ} (passes : scene.Passes state done stop)
    (within : scene.clock stop ≤ deadline.expiry) :
    Spending scene search deadline patience state done
  | searching {before rest : Log} {middle : σ} {target : RegistryTarget} {waited : Duration}
    (passes : scene.Passes state before middle) (within : scene.clock middle ≤ deadline.expiry)
    (patient : waited ≤ patience) (still : rest.slept = .zero) :
    Spending scene search deadline patience state
      (before ++ ((scene.perform (search target waited) middle).done ++ rest))

section Spending

variable {search : Search σ}

theorem Spending.after {deadline : Deadline} {patience : Duration} {state middle : σ}
    {done more : Log} (passes : scene.Passes state done middle)
    (later : Spending scene search deadline patience middle more) :
    Spending scene search deadline patience state (done ++ more) := by
  cases later with
  | inTime rest within => exact .inTime (passes.trans rest) within
  | searching rest within patient still =>
    rw [← List.append_assoc]
    exact .searching (passes.trans rest) within patient still

theorem Spending.mono {deadline : Deadline} {patience longer : Duration} {state : σ} {done : Log}
    (spending : Spending scene search deadline patience state done) (wider : patience ≤ longer) :
    Spending scene search deadline longer state done := by
  cases spending with
  | inTime passes within => exact .inTime passes within
  | searching passes within patient still =>
    exact .searching passes within (Nat.le_trans patient wider) still

theorem Spending.slept_le (patient : search.IsPatient scene) {budget patience : Duration}
    {state : σ} {done : Log}
    (spending : Spending scene search ⟨scene.clock state + budget⟩ patience state done) :
    done.slept ≤ budget + patience ∧
      (done.slept ≤ budget ∨
        ∃ (before rest : Log) (middle : σ) (target : RegistryTarget) (waited : Duration),
          let searched := scene.perform (search target waited) middle
          done = before ++ (searched.done ++ rest) ∧ scene.Passes state before middle ∧
          before.slept ≤ budget ∧ searched.done.slept ≤ waited ∧ waited ≤ patience ∧
          rest.slept = .zero) := by
  -- What was done until the deadline took no more than the budget.
  have afforded : ∀ {part : Log} {middle : σ}, scene.Passes state part middle →
      scene.clock middle ≤ scene.clock state + budget → part.slept ≤ budget := by
    intro part middle passes within
    have passed := passes.nanos
    rw [Duration.le_iff_nanos, Duration.nanos_add] at within
    rw [Duration.le_iff_nanos]
    omega
  cases spending with
  | inTime passes within =>
    have slept := afforded passes within
    exact ⟨Nat.le_trans slept (Nat.le_add_right _ _), .inl slept⟩
  | @searching before rest middle target waited passes within longer still =>
    have slept := afforded passes within
    obtain ⟨_, searched⟩ := patient target waited middle
    refine ⟨?_, .inr ⟨before, rest, middle, target, waited, rfl, passes, slept, searched, longer,
      still⟩⟩
    simp only [Duration.le_iff_nanos, Duration.nanos_add, Log.nanos_slept_append, still,
      Duration.nanos_zero] at slept searched longer ⊢
    omega

theorem Session.attempt_spends (patient : search.IsPatient scene) (fuel : Nat) (call : PendingCall)
    (session : Session Nat) (state : σ) (early : scene.clock state ≤ call.deadline.expiry) :
    let tried := (session.attempt (scene.searching search) fuel call).play state
    ∃ done, scene.Passes state done tried.2 ∧
      Spending scene search call.deadline session.patience state done ∧
      ∀ attempt after, tried.1 = .ok (attempt, after) → attempt.isFinished = false →
        after.patience ≤ session.patience := by
  intro tried
  cases built : session.linkOf (scene.searching search) with
  | error failure =>
    obtain ⟨result, after, ends⟩ := attempt_unbuilt built fuel call state
    have tries : tried = (.ok (.finished result, after), state) := ends
    rw [tries]
    refine ⟨[], .refl scene state, .inTime (.refl scene state) early, ?_⟩
    rintro _ _ ⟨⟩ ⟨⟩
  | ok link =>
    have tries : tried = Run.play ((session.linked link).attempt (scene.searching search) fuel call)
      state := congrArg (Run.play · state) (attempt_linked built fuel call)
    rw [tries]
    have bounded := patience_of_linkOf built
    rcases link.isLocated_or_unknown with located | ⟨locator, idle, registered, unknown⟩
    · rw [attempt_searching located]
      obtain ⟨done, attempting⟩ :=
        Attempting.of_attempt scene fuel call (session.linked link) state
      refine ⟨done, attempting.passes, .inTime attempting.passes (attempting.clock_le early), ?_⟩
      intro attempt after came unfinished
      rw [came] at attempting
      rw [attempting.patience unfinished]
      exact bounded
    obtain ⟨searched, _⟩ := patient locator.target locator.patience state
    have searching : ∀ {rest : Log}, rest.slept = .zero →
        Spending scene search call.deadline session.patience state
          ((scene.perform (search locator.target locator.patience) state).done ++ rest) := by
      intro rest still
      rw [registered] at bounded
      exact .searching (.refl scene state) early bounded still
    rcases attempt_search idle registered unknown fuel call state with
      ⟨stops, ends⟩ | ⟨found, settled, same, goes⟩
    · refine ⟨_, ?_, searching Log.slept_nil, ?_⟩
      · rw [stops, List.append_nil]
        exact searched
      · intro attempt after came unfinished
        rw [ends attempt after came] at unfinished
        cases unfinished
    · rw [goes]
      obtain ⟨more, attempting⟩ := Attempting.of_attempt scene fuel call (session.linked found)
        ((search locator.target locator.patience).play state).2
      have passes := searched.trans attempting.passes
      refine ⟨_, passes, ?_, ?_⟩
      · by_cases late : call.deadline.expiry ≤
          scene.clock ((search locator.target locator.patience).play state).2
        · apply searching
          have still := attempting.still_of_late late
          have passed := attempting.passes.nanos
          rw [still] at passed
          rw [Duration.eq_zero_iff_nanos]
          omega
        · exact .inTime passes (attempting.clock_le (Nat.le_of_not_le late))
      · intro attempt after came unfinished
        rw [came] at attempting
        rw [attempting.patience unfinished, ← found.locator.patience_forget, same,
          Locator.patience_forget]
        exact bounded

theorem Session.rested_late {call : PendingCall} {session : Session Nat} {made : Nat} {state : σ}
    (late : call.deadline.expiry ≤ scene.clock state) :
    session.rested scene call made state = state := by
  rw [rested, Policy.pause?_eq_none.mpr (Deadline.remaining_eq_zero_iff.mpr late)]

theorem Session.rested_within {call : PendingCall} (session : Session Nat) (made : Nat) {state : σ}
    (early : scene.clock state ≤ call.deadline.expiry) :
    ∃ paused, scene.Passes state paused (session.rested scene call made state) ∧
      scene.clock (session.rested scene call made state) ≤ call.deadline.expiry := by
  rw [rested]
  cases pauses : session.policy.pause? made (call.deadline.remaining (scene.clock state)) with
  | none => exact ⟨[], .refl scene state, early⟩
  | some pause =>
    exact ⟨_, scene.pause_passes pause state,
      Scene.clock_pause_le early (Policy.pause?_le pauses)⟩

theorem Session.attempts_late {call : PendingCall} {fuel made : Nat} {lastError : String}
    {session : Session Nat} {state : σ} (tried : 0 < made)
    (late : call.deadline.expiry ≤ scene.clock state) :
    ((session.attempts (scene.searching search) call fuel made lastError).play state).2 =
      state := by
  cases fuel with
  | zero => rfl
  | succ fuel =>
    have expired : call.deadline.isExpired (scene.clock state) = true :=
      decide_eq_true (Deadline.remaining_eq_zero_iff.mpr late)
    rw [attempts_round scene (scene.searching search) rfl rfl]
    split
    · rfl
    · rw [if_pos (by simp only [tried, expired, decide_true, Bool.and_self])]

theorem Session.attempts_spend (patient : search.IsPatient scene) (call : PendingCall)
    (fuel made : Nat) (lastError : String) (session : Session Nat) (state : σ)
    (early : scene.clock state ≤ call.deadline.expiry) :
    let tried := (session.attempts (scene.searching search) call fuel made lastError).play state
    ∃ done, scene.Passes state done tried.2 ∧
      Spending scene search call.deadline session.patience state done := by
  induction fuel generalizing made lastError session state with
  | zero => exact ⟨[], .refl scene state, .inTime (.refl scene state) early⟩
  | succ fuel ih =>
    rw [attempts_round scene (scene.searching search) rfl rfl]
    split
    · exact ⟨[], .refl scene state, .inTime (.refl scene state) early⟩
    split
    · exact ⟨[], .refl scene state, .inTime (.refl scene state) early⟩
    obtain ⟨done, passes, spending, lasts⟩ := session.attempt_spends patient fuel call state early
    rcases attempts : (session.attempt (scene.searching search) fuel call).play state with
      ⟨halt | ⟨result | reason | _, after⟩, middle⟩
    all_goals
      rw [attempts] at passes lasts
    · exact ⟨done, passes, spending⟩
    · exact ⟨done, passes, spending⟩
    all_goals
      have bounded := lasts _ _ rfl rfl
      by_cases late : call.deadline.expiry ≤ scene.clock middle
    · simp only [rested_late late, attempts_late (Nat.succ_pos made) late]
      exact ⟨done, passes, spending⟩
    · have soon := Nat.le_of_not_le late
      obtain ⟨paused, rests, within⟩ := after.rested_within (made + 1) soon
      obtain ⟨more, later, spends⟩ := ih (made + 1) reason after _ within
      have passed := passes.trans rests
      exact ⟨_, passed.trans later, (spends.mono bounded).after passed⟩
    · simp only [attempts_late (Nat.succ_pos made) late]
      exact ⟨done, passes, spending⟩
    · obtain ⟨more, later, spends⟩ := ih (made + 1) lastError after middle (Nat.le_of_not_le late)
      exact ⟨_, passes.trans later, (spends.mono bounded).after passes⟩

end Spending

/-! Calls with a registry in a directory. -/

theorem Settings.registry_searching {settings : Settings} {root : String}
    (rooted : settings.registryRoot = some root) (watch : Directory.Watch (StateM σ)) (steps : Nat)
    (scene : Scene σ) :
    settings.registry watch steps scene.surroundings =
      scene.searching fun target patience =>
        Directory.lookup watch steps root target.path patience := by
  rw [registry, rooted]
  rfl

theorem Directory.isPatient {files : FileStore (StateM σ)} (reads : scene.Reads files)
    (steps : Nat) (root : String) :
    Search.IsPatient (fun target patience =>
      lookup (scene.watch files) steps root target.path patience) scene := by
  intro target patience state searched
  obtain ⟨passes, slept, _⟩ := lookup_patient reads steps root target.path patience state
  exact ⟨passes, slept⟩

theorem Session.invoke_spends {search : Search σ} (patient : search.IsPatient scene) (fuel : Nat)
    (session : Session Nat) (request : Request) (repeatable : Bool) (state : σ) :
    let performed :=
      scene.perform (session.invoke (scene.searching search) fuel request repeatable) state
    scene.Passes state performed.done performed.stop ∧
      Spending scene search ⟨scene.clock state + session.policy.longestWait⟩ session.patience state
        performed.done := by
  intro performed
  have early : scene.clock state ≤ scene.clock state + session.policy.longestWait :=
    Nat.le_add_right _ _
  have spends : ∃ done, scene.Passes state done performed.stop ∧
      Spending scene search ⟨scene.clock state + session.policy.longestWait⟩ session.patience state
        done := by
    simp only [performed, Scene.perform, invoke_begins scene (scene.searching search) rfl]
    cases request.method.signature.fit request.arguments with
    | error error => exact ⟨[], .refl scene state, .inTime (.refl scene state) early⟩
    | ok arguments =>
      cases inTime : Deadline.after? (scene.clock state) session.policy.longestWait with
      | none => exact ⟨[], .refl scene state, .inTime (.refl scene state) early⟩
      | some deadline =>
        obtain ⟨-, rfl⟩ := Deadline.after?_eq_some.mp inTime
        exact attempts_spend patient ⟨request.method, arguments, repeatable, _⟩ fuel 0 "" session
          state early
  obtain ⟨done, passes, spending⟩ := spends
  have same : performed.done = done := Scene.perform_done passes
  rw [same]
  exact ⟨passes, spending⟩

/-- A call whose scheduler is kept in a directory sleeps no longer than its policy allows, but for
one search at most. That search is begun in time and takes at most as long as the registry is waited
for, and the call does not sleep after it. A search that finds nobody takes all of that time,
whatever is left of the call's. -/
theorem invoke_exceeds_budget_by_one_search (scene : Scene σ) (files : FileStore (StateM σ))
    (reads : scene.Reads files) (settings : Settings) (root : String)
    (rooted : settings.registryRoot = some root) (steps fuel : Nat) (session : Session Nat)
    (request : Request) (repeatable : Bool) (state : σ) :
    let around := settings.registry (scene.watch files) steps scene.surroundings
    let performed := scene.perform (session.invoke around fuel request repeatable) state
    scene.clock performed.stop = scene.clock state + performed.done.slept ∧
      performed.done.slept ≤ session.policy.longestWait + session.patience ∧
      (∀ (middle : σ) (target : RegistryTarget) (waited span : Duration) (path : String),
        let search := scene.perform (around.lookup target waited) middle
        search.outcome = .ok (.error (.timeout path span)) → search.done.slept = waited) ∧
      (performed.done.slept ≤ session.policy.longestWait ∨
        ∃ (before rest : Log) (middle : σ) (target : RegistryTarget) (waited : Duration),
          let search := scene.perform (around.lookup target waited) middle
          performed.done = before ++ (search.done ++ rest) ∧
          scene.Passes state before middle ∧ before.slept ≤ session.policy.longestWait ∧
          search.done.slept ≤ waited ∧ waited ≤ session.patience ∧ rest.slept = .zero) := by
  intro around performed
  have patient := Directory.isPatient reads steps root
  have same : around = scene.searching _ :=
    Settings.registry_searching rooted (scene.watch files) steps scene
  have spends := session.invoke_spends patient fuel request repeatable state
  rw [← same] at spends
  obtain ⟨passes, spending⟩ := spends
  obtain ⟨slept, excess⟩ := spending.slept_le patient
  rw [same]
  refine ⟨passes.clock, slept, ?_, excess⟩
  intro middle target waited span path search nobody
  exact (Directory.lookup_patient reads steps root target.path waited middle).2.2 path span nobody

def FileStore.vacant : FileStore (StateM σ) where
  list _ := pure (.error .notFound)
  read _ := pure (.error .notFound)
  append _ _ := pure (.error .notFound)

theorem Scene.reads_vacant (scene : Scene σ) : scene.Reads .vacant where
  list _ := .pure trivial
  read _ := .pure trivial

def Settings.forsaken : Settings := { registryRoot := some "/serversets" }

def Session.waiting : Session Nat where
  cluster := { name := "west", registry := some "zk" }
  options := { registryWait := .ofSeconds 2 }
  policy := { longestWait := .ofSeconds 1 }

/-- All that the call does is to search, and it does so for both seconds. -/
theorem search_exceeds_longestWait :
    let scene := Stage.scene {} fun _ => .ok .anonymous
    let around := Settings.forsaken.registry (scene.watch .vacant) 9 scene.surroundings
    let performed :=
      scene.perform (Session.waiting.invoke around 9 ⟨.getTierConfigs, []⟩ false) {}
    performed.done.slept = .ofSeconds 2 ∧
      ¬ performed.done.slept ≤ Session.waiting.policy.longestWait := by
  decide +kernel

/-- No call of such a session sleeps for more than three seconds. -/
theorem waiting_call_sleeps_three_seconds_at_most :
    let scene := Stage.scene {} fun _ => .ok .anonymous
    let around := Settings.forsaken.registry (scene.watch .vacant) 9 scene.surroundings
    let performed :=
      scene.perform (Session.waiting.invoke around 9 ⟨.getTierConfigs, []⟩ false) {}
    Settings.forsaken.registryRoot = some "/serversets" ∧
      scene.clock performed.stop = .ofSeconds 2 ∧ performed.done.slept ≤ .ofSeconds 3 := by
  intro scene around performed
  obtain ⟨_, slept, _⟩ := invoke_exceeds_budget_by_one_search scene .vacant scene.reads_vacant
    Settings.forsaken "/serversets" rfl 9 9 Session.waiting ⟨.getTierConfigs, []⟩ false {}
  exact ⟨rfl, by decide +kernel, slept⟩

end SchedulerLink
