import SchedulerLink.Proofs.Course
import SchedulerLink.Proofs.StageScene

/-!
How long a call sleeps.

The pauses between attempts to open a channel and those between attempts at the call are all cut to
what is left until one deadline, so they keep the clock from passing it. A call that times out has
slept all of its time.
-/

namespace SchedulerLink

variable {σ : Type} {scene : Scene σ}

/-- Whether an entry tells of an attempt to get through to a scheduler. -/
def Entry.isTry : Entry → Bool
  | .opened _ _ => true
  | .called _ _ _ _ _ => true
  | _ => false

/-! No pause goes beyond the deadline. -/

theorem Deadline.remaining_eq_zero_iff {deadline : Deadline} {now : Duration} :
    deadline.remaining now = .zero ↔ deadline.expiry ≤ now := by
  rw [remaining, Duration.eq_zero_iff_nanos, Duration.nanos_sub]
  exact Nat.sub_eq_zero_iff_le

theorem Scene.clock_pause_le {deadline : Deadline} {pause : Duration} {state : σ}
    (inTime : scene.clock state ≤ deadline.expiry)
    (cut : pause ≤ deadline.remaining (scene.clock state)) :
    scene.clock ((scene.surroundings.pause pause).run state).2 ≤ deadline.expiry := by
  rw [scene.pause_clock]
  rw [Duration.le_iff_nanos] at inTime cut ⊢
  rw [Deadline.remaining, Duration.nanos_sub] at cut
  rw [Duration.nanos_add]
  omega

theorem Duration.min_le_right (one other : Duration) : min one other ≤ other :=
  Nat.min_le_right one.nanos other.nanos

theorem Opening.clock_le {options : LinkOptions} {uri : String} {window : Deadline}
    {channel failed : Nat} {state stop : σ} {done : Log}
    {outcome : Except Halt (Except LinkFailure Unit)}
    (opening : Opening scene options uri (some window) channel failed state done outcome stop)
    (inTime : scene.clock state ≤ window.expiry) : scene.clock stop ≤ window.expiry := by
  induction opening with
  | unfinished => exact inTime
  | opened opens =>
    rw [(Scene.open_passes opens).still rfl]
    exact inTime
  | givenUp fails _ =>
    rw [(Scene.open_passes fails).still rfl]
    exact inTime
  | @again _ state next _ _ pause _ _ fails verdict _ ih =>
    obtain ⟨_, _, _, _, cut⟩ := Connect.verdict_eq_ok verdict
    apply ih
    apply Scene.clock_pause_le
    · rw [(Scene.open_passes fails).still rfl]
      exact inTime
    · rw [cut]
      exact Duration.min_le_right _ _

theorem Locating.still {state stop : σ} {locator : Locator} {done : Log}
    {outcome : Except Halt (Except LinkFailure String × Locator)}
    (locating : Locating scene state locator done outcome stop) :
    scene.clock stop = scene.clock state :=
  locating.passes.still locating.slept_eq

theorem Link.window?_eq_some {link : Link Nat} {now : Duration} {deadline : Deadline}
    {window : Option Deadline} (inTime : now ≤ deadline.expiry)
    (opens : link.window? now (some deadline) = some window) :
    ∃ closing, window = some closing ∧ now ≤ closing.expiry ∧ closing.expiry ≤ deadline.expiry := by
  obtain ⟨closing, capped, rfl⟩ := Option.map_eq_some_iff.mp opens
  obtain ⟨-, rfl⟩ := Deadline.capped?_eq_some.mp capped
  refine ⟨_, rfl, ?_, Nat.min_le_left _ _⟩
  rw [Duration.le_iff_nanos] at inTime ⊢
  simp only [Duration.nanos_min, Duration.nanos_add]
  omega

theorem Reaching.clock_le {deadline : Deadline} {link : Link Nat} {base : String} {state stop : σ}
    {done : Log} {outcome : Except Halt (Except LinkFailure (Connection Nat) × Link Nat)}
    (reaching : Reaching scene (some deadline) link base state done outcome stop)
    (inTime : scene.clock state ≤ deadline.expiry) : scene.clock stop ≤ deadline.expiry := by
  have opening_le : ∀ {uri : String} {window : Option Deadline} {channel : Nat} {next last : σ}
      {tried : Log} {result : Except Halt (Except LinkFailure Unit)},
      link.window? (scene.clock state) (some deadline) = some window →
      (scene.surroundings.create uri link.setup).run state = (channel, next) →
      Opening scene link.options uri window channel 0 next tried result last →
      scene.clock last ≤ deadline.expiry := by
    intro uri window channel next last tried result opens creates opening
    obtain ⟨closing, rfl, early, within⟩ := Link.window?_eq_some inTime opens
    rw [← (Scene.create_passes creates).still rfl] at early
    exact Nat.le_trans (opening.clock_le early) within
  cases reaching with
  | misaddressed _ => exact inTime
  | overflow _ _ => exact inTime
  | halted _ window creates opening => exact opening_le window creates opening
  | unopened _ window creates opening => exact opening_le window creates opening
  | connected _ window creates opening =>
    rw [(scene.adopt_passes _ _).still rfl]
    exact opening_le window creates opening

theorem Connecting.clock_le {deadline : Deadline} {link : Link Nat} {state stop : σ} {done : Log}
    {outcome : Except Halt (Except LinkFailure (Connection Nat) × Link Nat)}
    (connecting : Connecting scene (some deadline) link state done outcome stop)
    (inTime : scene.clock state ≤ deadline.expiry) : scene.clock stop ≤ deadline.expiry := by
  cases connecting with
  | held _ => exact inTime
  | halted _ locating => rw [locating.still]; exact inTime
  | unlocated _ locating => rw [locating.still]; exact inTime
  | reached _ locating reaching =>
    apply reaching.clock_le
    rw [locating.still]
    exact inTime

theorem Releasing.still {state stop : σ} {connection : Option (Connection Nat)} {done : Log}
    (releasing : Releasing scene state connection done stop) :
    scene.clock stop = scene.clock state :=
  releasing.passes.still releasing.slept_eq

theorem Attempting.clock_le {call : PendingCall} {session : Session Nat} {state stop : σ}
    {done : Log} {outcome : Except Halt (Attempt × Session Nat)}
    (attempting : Attempting scene call session state done outcome stop)
    (inTime : scene.clock state ≤ call.deadline.expiry) :
    scene.clock stop ≤ call.deadline.expiry := by
  cases attempting with
  | unbuilt _ => exact inTime
  | halted _ connecting => exact connecting.clock_le inTime
  | interrupted _ connecting => exact connecting.clock_le inTime
  | tooLate _ connecting => exact connecting.clock_le inTime
  | unreachable _ _ connecting => exact connecting.clock_le inTime
  | callHalted _ connecting calls =>
    rw [(Scene.call_passes calls).still rfl]
    exact connecting.clock_le inTime
  | answered _ connecting calls _ =>
    rw [(Scene.call_passes calls).still rfl]
    exact connecting.clock_le inTime
  | failed _ connecting calls _ releasing =>
    rw [releasing.still, (Scene.call_passes calls).still rfl]
    exact connecting.clock_le inTime

theorem Policy.pause?_le {policy : Policy} {attempt : Nat} {remaining pause : Duration}
    (pauses : policy.pause? attempt remaining = some pause) : pause ≤ remaining := by
  obtain ⟨-, rfl⟩ := pause?_eq_some.mp pauses
  exact Duration.min_le_right _ _

theorem Course.clock_le {call : PendingCall} {made : Nat} {lastError : String}
    {session : Session Nat} {state stop : σ} {done : Log}
    {outcome : Except Halt (Except SessionFailure Response × Session Nat)}
    (course : Course scene call made lastError session state done outcome stop)
    (inTime : scene.clock state ≤ call.deadline.expiry) :
    scene.clock stop ≤ call.deadline.expiry := by
  induction course with
  | unfinished => exact inTime
  | terminated _ => exact inTime
  | timedOut _ _ _ => exact inTime
  | halted _ _ attempting => exact attempting.clock_le inTime
  | finished _ _ attempting => exact attempting.clock_le inTime
  | interrupted _ _ attempting _ ih => exact ih (attempting.clock_le inTime)
  | paused _ _ attempting pauses _ ih =>
    exact ih (Scene.clock_pause_le (attempting.clock_le inTime) (Policy.pause?_le pauses))
  | spent _ _ attempting _ _ ih => exact ih (attempting.clock_le inTime)

/-! Whoever times out has tried, and has no time left. -/

theorem Opening.tries {options : LinkOptions} {uri : String} {limit : Option Deadline}
    {channel failed : Nat} {state stop : σ} {done : Log} {result : Except LinkFailure Unit}
    (opening : Opening scene options uri limit channel failed state done (.ok result) stop) :
    ∃ entry ∈ done, entry.isTry = true := by
  cases opening with
  | opened _ => exact ⟨_, List.mem_cons_self, rfl⟩
  | givenUp _ _ => exact ⟨_, List.mem_cons_self, rfl⟩
  | again _ _ _ => exact ⟨_, List.mem_cons_self, rfl⟩

/-- A channel was tried before a link gives up on it for now. -/
theorem Connecting.tries {limit : Option Deadline} {link idle : Link Nat} {state stop : σ}
    {done : Log} {failure : LinkFailure}
    (connecting : Connecting scene limit link state done (.ok (.error failure, idle)) stop)
    (passing : failure.isFinal = false) : ∃ entry ∈ done, entry.isTry = true := by
  cases connecting with
  | unlocated _ locating =>
    rw [locating.isFinal] at passing
    cases passing
  | reached _ _ reaching =>
    cases reaching with
    | misaddressed misaddressed =>
      rw [Connect.interfaceUri_isFinal misaddressed] at passing
      cases passing
    | unopened _ _ _ opening =>
      obtain ⟨entry, member, tries⟩ := opening.tries
      exact ⟨entry, List.mem_append_right _ (List.mem_cons_of_mem _ member), tries⟩

/-- An attempt after which another one is made has got through to a channel or a scheduler. -/
theorem Attempting.tries {call : PendingCall} {session after : Session Nat} {state stop : σ}
    {done : Log} {attempt : Attempt}
    (attempting : Attempting scene call session state done (.ok (attempt, after)) stop)
    (unfinished : attempt.isFinished = false) : ∃ entry ∈ done, entry.isTry = true := by
  cases attempting with
  | unbuilt _ => cases unfinished
  | interrupted _ connecting => exact connecting.tries rfl
  | tooLate _ connecting => exact connecting.tries rfl
  | unreachable _ _ _ => cases unfinished
  | answered _ _ _ _ => cases unfinished
  | failed _ _ _ _ _ => exact ⟨_, List.mem_append_right _ List.mem_cons_self, rfl⟩

theorem Course.timedOut_spent {call : PendingCall} {made : Nat} {lastError : String}
    {session after : Session Nat} {state stop : σ} {done : Log} {method : Method}
    {cluster reason : String}
    (course : Course scene call made lastError session state done
      (.ok (.error (.timedOut method cluster reason), after)) stop) :
    call.deadline.isExpired (scene.clock stop) = true ∧
      (0 < made ∨ ∃ entry ∈ done, entry.isTry = true) := by
  have tried : ∀ {entries more : Log}, (∃ entry ∈ entries, entry.isTry = true) →
      ∃ entry ∈ entries ++ more, entry.isTry = true := by
    rintro entries more ⟨entry, member, tries⟩
    exact ⟨entry, List.mem_append_left _ member, tries⟩
  generalize same : (Except.ok (Except.error (.timedOut method cluster reason), after) :
    Except Halt (Except SessionFailure Response × Session Nat)) = outcome at course
  induction course with
  | unfinished => cases same
  | terminated _ => cases same
  | timedOut _ made expired => exact ⟨expired, .inl made⟩
  | halted _ _ _ => cases same
  | finished _ _ attempting =>
    cases same
    cases attempting.isOfAttempt
  | interrupted _ _ attempting _ ih =>
    exact ⟨(ih same).1, .inr (tried (attempting.tries rfl))⟩
  | paused _ _ attempting _ _ ih =>
    exact ⟨(ih same).1, .inr (tried (attempting.tries rfl))⟩
  | spent _ _ attempting _ _ ih =>
    exact ⟨(ih same).1, .inr (tried (attempting.tries rfl))⟩

/-! The budget of a call. -/

theorem Deadline.nanos_expiry_of_after? {now budget : Duration} {deadline : Deadline}
    (inTime : Deadline.after? now budget = some deadline) :
    deadline.expiry.nanos = now.nanos + budget.nanos := by
  obtain ⟨-, rfl⟩ := Deadline.after?_eq_some.mp inTime
  rfl

theorem Deadline.expiry_le_of_isExpired {deadline : Deadline} {now : Duration}
    (expired : deadline.isExpired now = true) : deadline.expiry.nanos ≤ now.nanos := by
  rw [Deadline.isExpired, decide_eq_true_eq, Duration.eq_zero_iff_nanos, Deadline.remaining,
    Duration.nanos_sub] at expired
  omega

theorem Invoking.slept_le {session : Session Nat} {request : Request} {repeatable : Bool}
    {state stop : σ} {done : Log}
    {outcome : Except Halt (Except SessionFailure Response × Session Nat)}
    (invoking : Invoking scene session request repeatable state done outcome stop) :
    done.slept ≤ session.policy.longestWait := by
  cases invoking with
  | misfit _ => exact Nat.zero_le _
  | overflow _ _ => exact Nat.zero_le _
  | @course _ deadline _ _ _ _ inTime course =>
    have expiry := Deadline.nanos_expiry_of_after? inTime
    have passed := course.passes.nanos
    have early : scene.clock state ≤ deadline.expiry := by
      rw [Duration.le_iff_nanos]
      omega
    have bound : scene.clock stop ≤ deadline.expiry := course.clock_le early
    rw [Duration.le_iff_nanos] at bound ⊢
    omega

theorem Invoking.clock_le {session : Session Nat} {request : Request} {repeatable : Bool}
    {state stop : σ} {done : Log}
    {outcome : Except Halt (Except SessionFailure Response × Session Nat)}
    (invoking : Invoking scene session request repeatable state done outcome stop) :
    scene.clock stop ≤ scene.clock state + session.policy.longestWait := by
  rw [invoking.passes.clock]
  exact Nat.add_le_add_left invoking.slept_le _

theorem Invoking.timedOut_spent {session after : Session Nat} {request : Request}
    {repeatable : Bool} {state stop : σ} {done : Log} {method : Method} {cluster lastError : String}
    (invoking : Invoking scene session request repeatable state done
      (.ok (.error (.timedOut method cluster lastError), after)) stop) :
    session.policy.longestWait ≤ done.slept ∧ ∃ entry ∈ done, entry.isTry = true := by
  cases invoking with
  | @course _ deadline _ _ _ _ inTime course =>
    have expiry := Deadline.nanos_expiry_of_after? inTime
    have passed := course.passes.nanos
    obtain ⟨expired, tried⟩ := course.timedOut_spent
    have late : deadline.expiry.nanos ≤ (scene.clock stop).nanos :=
      Deadline.expiry_le_of_isExpired expired
    refine ⟨?_, tried.resolve_left (Nat.lt_irrefl 0)⟩
    rw [Duration.le_iff_nanos]
    omega

/-- At no time has a call slept more than its policy allows, and a call that times out has slept
exactly as much and has made an attempt. -/
theorem invoke_sleeps_within_budget (scene : Scene σ) (fuel : Nat) (session : Session Nat)
    (request : Request) (repeatable : Bool) (state : σ) :
    let performed :=
      scene.perform (session.invoke scene.surroundings fuel request repeatable) state
    scene.clock performed.stop = scene.clock state + performed.done.slept ∧
      (∀ reached : Log, reached <+: performed.done →
        reached.slept ≤ session.policy.longestWait) ∧
      ∀ method cluster lastError after,
        performed.outcome = .ok (.error (.timedOut method cluster lastError), after) →
          performed.done.slept = session.policy.longestWait ∧
            ∃ entry ∈ performed.done, entry.isTry = true := by
  intro performed
  have invoking : Invoking scene session request repeatable state performed.done performed.outcome
    performed.stop := .of_invoke scene fuel session request repeatable state
  refine ⟨invoking.passes.clock, ?_, ?_⟩
  · intro reached part
    exact Nat.le_trans (Log.slept_le_of_prefix part) invoking.slept_le
  · intro method cluster lastError after timedOut
    have bound := invoking.slept_le
    rw [timedOut] at invoking
    obtain ⟨spent, tried⟩ := invoking.timedOut_spent
    exact ⟨Duration.nanos_injective (Nat.le_antisymm bound spent), tried⟩

def SessionFailure.lateness? : SessionFailure → Option (Method × String × String)
  | .timedOut method cluster lastError => some (method, cluster, lastError)
  | _ => none

theorem SessionFailure.lateness?_eq_some {failure : SessionFailure} {method : Method}
    {cluster lastError : String} :
    failure.lateness? = some (method, cluster, lastError) ↔
      failure = .timedOut method cluster lastError := by
  constructor
  · intro late
    unfold lateness? at late
    split at late <;> cases late
    rfl
  · rintro rfl
    rfl

def Stage.busy : Stage where
  opens := [some (.notOpen "refused")]
  answersLater := .ok (.transient ["busy"])

/-- One second goes to connecting, two are slept after the first call and the last one after the
second. -/
theorem invoke_busy_spends_four_seconds :
    let scene := Stage.busy.scene fun _ => .ok .anonymous
    let performed :=
      scene.perform (Session.hasty.invoke scene.surroundings 9 ⟨.getJobs, [.null]⟩ false) Stage.busy
    ∃ after, performed.outcome = .ok (.error (.timedOut .getJobs "west" "busy"), after) ∧
      performed.done.slept = .ofSeconds 4 ∧ ∃ entry ∈ performed.done, entry.isTry = true := by
  intro scene performed
  have late : performed.failure?.bind SessionFailure.lateness? =
      some (.getJobs, "west", "busy") := by
    decide +kernel
  obtain ⟨failure, fails, late⟩ := Option.bind_eq_some_iff.mp late
  obtain ⟨after, timedOut⟩ := Performance.failure?_eq_some.mp fails
  rw [SessionFailure.lateness?_eq_some.mp late] at timedOut
  exact ⟨after, timedOut, (invoke_sleeps_within_budget scene 9 Session.hasty ⟨.getJobs, [.null]⟩
    false Stage.busy).2.2 _ _ _ _ timedOut⟩

end SchedulerLink
