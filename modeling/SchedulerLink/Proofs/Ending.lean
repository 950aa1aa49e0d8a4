import SchedulerLink.Proofs.Discovery
import SchedulerLink.Proofs.Failover
import SchedulerLink.Proofs.Fuel
import SchedulerLink.Proofs.Resending

/-!
Every call ends.

Nothing in the definition of a call says so. Whatever the schedulers answer, each round of a call
and each attempt to connect takes something from the time that is left, unless it is the last one,
so a call needs no more steps than there are nanoseconds. The shortest pause that is not cut bounds
how often a call goes out.
-/

namespace SchedulerLink

variable {σ α β : Type} {scene : Scene σ} {policy : Policy}

/-- A scene on which registries and schedulers always give an answer. -/
structure Scene.Responsive (scene : Scene σ) : Prop where
  lookup (target : RegistryTarget) (patience : Duration) (state : σ) : ∃ answer stop,
    (scene.surroundings.lookup target patience).play state = (.ok answer, stop)
  call (channel : Nat) (sequence : Int32) (method : Method) (arguments : List Json) (state : σ) :
    ∃ result stop, (scene.surroundings.call channel sequence method arguments).play state =
      (.ok result, stop)

/-! Computations that do not depend on the steps they are allowed. -/

/-- A computation ends if it is allowed more than some number of steps, and in the same way however
many they are. It halts only where a deadline is `tooFar` ahead. -/
inductive Run.Settles (tooFar : σ → Prop) (program : Nat → Run (StateM σ) α) (enough : Nat)
    (state : σ) : Prop where
  | ends {value : α} {stop : σ}
    (plays : ∀ fuel, enough < fuel → (program fuel).play state = (.ok value, stop)) :
    Settles tooFar program enough state
  | overflows {stop : σ} (far : tooFar stop)
    (plays : ∀ fuel, enough < fuel → (program fuel).play state = (.error .overflow, stop)) :
    Settles tooFar program enough state

namespace Run.Settles

variable {tooFar : σ → Prop} {program : Nat → Run (StateM σ) α} {enough : Nat} {state : σ}

theorem steady {program : Run (StateM σ) α}
    (ends : ∃ value stop, program.play state = (.ok value, stop)) :
    Settles tooFar (fun _ => program) enough state := by
  obtain ⟨value, stop, plays⟩ := ends
  exact .ends fun _ _ => plays

theorem mono {more : Nat} (settles : Settles tooFar program enough state)
    (within : enough ≤ more) : Settles tooFar program more state := by
  cases settles with
  | ends plays => exact .ends fun fuel more => plays fuel (Nat.lt_of_le_of_lt within more)
  | overflows far plays =>
    exact .overflows far fun fuel more => plays fuel (Nat.lt_of_le_of_lt within more)

theorem after {first : Run (StateM σ) β} {next : β → Nat → Run (StateM σ) α} {value : β}
    {middle : σ} (plays : first.play state = (.ok value, middle))
    (settles : Settles tooFar (next value) enough middle) :
    Settles tooFar (fun fuel => first >>= fun value => next value fuel) enough state := by
  cases settles with
  | ends later =>
    exact .ends fun fuel beyond => (Run.play_bind_ok plays).trans (later fuel beyond)
  | overflows far later =>
    exact .overflows far fun fuel beyond => (Run.play_bind_ok plays).trans (later fuel beyond)

theorem bind {next : α → Nat → Run (StateM σ) β} (first : Settles tooFar program enough state)
    (second : ∀ value middle, Settles tooFar (next value) enough middle) :
    Settles tooFar (fun fuel => program fuel >>= fun value => next value fuel) enough state := by
  cases first with
  | overflows far plays =>
    exact .overflows far fun fuel beyond => Run.play_bind_error (plays fuel beyond)
  | @ends value middle plays =>
    cases second value middle with
    | ends later =>
      exact .ends fun fuel beyond =>
        (Run.play_bind_ok (plays fuel beyond)).trans (later fuel beyond)
    | overflows far later =>
      exact .overflows far fun fuel beyond =>
        (Run.play_bind_ok (plays fuel beyond)).trans (later fuel beyond)

theorem last {value : α} {stop : σ}
    (step : ∀ fuel, enough ≤ fuel → (program (fuel + 1)).play state = (.ok value, stop)) :
    Settles tooFar program enough state := by
  refine @ends _ _ _ _ _ _ value stop fun fuel beyond => ?_
  obtain ⟨fewer, rfl⟩ := Nat.exists_eq_add_of_lt beyond
  exact step (enough + fewer) (Nat.le_add_right _ _)

theorem step {later : Nat → Run (StateM σ) α} {less : Nat} {middle : σ}
    (settles : Settles tooFar later less middle) (fewer : less < enough)
    (step : ∀ fuel, enough ≤ fuel → (program (fuel + 1)).play state = (later fuel).play middle) :
    Settles tooFar program enough state := by
  have onward : ∀ {outcome stop},
      (∀ fuel, less < fuel → (later fuel).play middle = (outcome, stop)) →
        ∀ fuel, enough < fuel → (program fuel).play state = (outcome, stop) := by
    intro outcome stop plays fuel beyond
    obtain ⟨rest, rfl⟩ := Nat.exists_eq_add_of_lt beyond
    rw [step _ (Nat.le_add_right _ _), plays _ (by omega)]
  cases settles with
  | ends plays => exact .ends (onward plays)
  | overflows far plays => exact .overflows far (onward plays)

end Run.Settles

def Scene.TooFar (scene : Scene σ) (wait : Duration) (state : σ) : Prop :=
  ¬ Deadline.InReach (scene.clock state) wait

/-! The time that is left. -/

theorem Deadline.remaining_pause (scene : Scene σ) (deadline : Deadline) (pause : Duration)
    (state : σ) :
    (deadline.remaining (scene.clock ((scene.surroundings.pause pause).run state).2)).nanos =
      (deadline.remaining (scene.clock state)).nanos - pause.nanos := by
  rw [scene.pause_clock]
  exact Nat.sub_add_eq _ _ _

theorem Deadline.remaining_le_of_passes (deadline : Deadline) {state stop : σ} {done : Log}
    (passes : scene.Passes state done stop) :
    (deadline.remaining (scene.clock stop)).nanos ≤
      (deadline.remaining (scene.clock state)).nanos := by
  have passed := passes.nanos
  simp only [remaining, Duration.nanos_sub]
  omega

/-! Connecting. -/

namespace LinkOptions

/-- Whether a scheduler is not tried again and again at one instant. -/
def IsRestrained (options : LinkOptions) : Prop :=
  .zero < options.connectInterval ∨ options.connectAttempts.isSome = true

def tries (options : LinkOptions) : Nat := options.connectAttempts.getD 0

end LinkOptions

namespace Connect

variable {options : LinkOptions}

/-- Every attempt but the last takes time, or one of those that are left. -/
theorem room_of_verdict (restrained : options.IsRestrained) {uri : String} {window : Deadline}
    {failed : Nat} {failure : ChannelFailure} {stopping : Bool} {now pause : Duration}
    (again : verdict options uri (some window) (failed + 1) failure stopping now = .ok pause) :
    (window.remaining now).nanos - pause.nanos + (options.tries - (failed + 1)) <
      (window.remaining now).nanos + (options.tries - failed) := by
  obtain ⟨_, open', _, left, rfl⟩ := verdict_eq_ok again
  rw [ne_eq, Duration.eq_zero_iff_nanos] at left
  rw [Duration.nanos_min]
  rcases restrained with spaced | limited
  · have spaced : 0 < options.connectInterval.nanos := spaced
    omega
  · obtain ⟨limit, limited⟩ := Option.isSome_iff_exists.mp limited
    simp only [limited, Option.any_some, decide_eq_false_iff_not] at open'
    simp only [LinkOptions.tries, limited, Option.getD_some]
    omega

theorem openUntil_settles {tooFar : σ → Prop} (restrained : options.IsRestrained) (uri : String)
    (window : Deadline) (channel failed : Nat) (state : σ) :
    Run.Settles tooFar
      (fun fuel => openUntil scene.surroundings options uri (some window) channel fuel failed)
      ((window.remaining (scene.clock state)).nanos + (options.tries - failed)) state := by
  generalize left : (window.remaining (scene.clock state)).nanos + (options.tries - failed) = room
  -- The time that is left and the attempts that are left, added up, grow less.
  induction room using Nat.strongRecOn generalizing failed state with
  | _ room ih =>
    rcases opens : (scene.surroundings.openChannel channel).run state with ⟨failure | _, next⟩
    · cases verdict : verdict options uri (some window) (failed + 1) failure (scene.stopping next)
        (scene.clock next) with
      | error reason =>
        apply Run.Settles.last
        intro fuel _
        simp only [openUntil_play, opens, verdict]
        rfl
      | ok pause =>
        have less := room_of_verdict restrained verdict
        rw [← window.remaining_pause scene, (Scene.open_passes opens).still rfl, left] at less
        refine .step (ih _ less (failed + 1) _ rfl) less ?_
        intro fuel _
        simp only [openUntil_play, opens, verdict]
    · apply Run.Settles.last
      intro fuel _
      simp only [openUntil_play, opens]
      rfl

theorem openChannel_settles (scene : Scene σ) {tooFar : σ → Prop}
    (restrained : options.IsRestrained) (login : Login) (uri : String) (window : Deadline)
    (state : σ) :
    Run.Settles tooFar
      (fun fuel => openChannel scene.surroundings fuel options login uri (some window))
      ((window.remaining (scene.clock state)).nanos + options.tries) state := by
  unfold openChannel
  rcases creates : (scene.surroundings.create uri (.ofOptions options login)).run state with
    ⟨channel, next⟩
  have lifted : Run.play (liftM (scene.surroundings.create uri (.ofOptions options login)))
      state = (.ok channel, next) := by
    rw [Run.play_lift, creates]
  apply Run.Settles.after lifted
  rw [← (Scene.create_passes creates).still rfl]
  apply (openUntil_settles restrained uri window channel 0 next).bind
  exact fun _ _ => .steady ⟨_, _, rfl⟩

end Connect

theorem Locator.rawUrl_ends (responsive : scene.Responsive) (locator : Locator) (state : σ) :
    ∃ value stop, (locator.rawUrl scene.surroundings).play state = (.ok value, stop) := by
  obtain ⟨done, locating⟩ := Locating.of_rawUrl scene locator state
  rcases ends : (locator.rawUrl scene.surroundings).play state with ⟨halt | value, stop⟩
  · rw [ends] at locating
    cases locating with
    | @halted locator _ _ _ asked =>
      obtain ⟨answer, last, answers⟩ := responsive.lookup locator.target locator.patience state
      rw [answers] at asked
      cases asked
  · exact ⟨value, stop, rfl⟩

def Session.linkOptions (session : Session Nat) : LinkOptions :=
  match session.link with
  | some link => link.options
  | none => session.options

theorem Session.options_of_linkOf {session : Session Nat} {link : Link Nat}
    (built : session.linkOf scene.surroundings = .ok link) :
    link.options = session.linkOptions := by
  unfold linkOf at built
  unfold linkOptions
  cases has : session.link with
  | some owned =>
    rw [has] at built
    cases built
    rfl
  | none =>
    simp only [has] at built
    exact (Link.of_ofCluster built).2

/-- The settings last as long as the call. -/
theorem Attempting.linkOptions {call : PendingCall} {session after : Session Nat} {state stop : σ}
    {done : Log} {attempt : Attempt}
    (attempting : Attempting scene call session state done (.ok (attempt, after)) stop)
    (unfinished : attempt.isFinished = false) : after.linkOptions = session.linkOptions := by
  cases attempting with
  | unbuilt _ => cases unfinished
  | interrupted built connecting =>
    exact connecting.options.trans (Session.options_of_linkOf built)
  | tooLate built connecting => exact connecting.options.trans (Session.options_of_linkOf built)
  | unreachable _ _ _ => cases unfinished
  | answered _ _ _ _ => cases unfinished
  | failed built connecting _ _ _ =>
    exact connecting.options.trans (Session.options_of_linkOf built)

namespace Link

variable {link : Link Nat}

theorem connectTo_settles (link : Link Nat) (restrained : link.options.IsRestrained)
    (deadline : Deadline) (base : String) (state : σ) :
    Run.Settles (scene.TooFar link.options.connectWait)
      (fun fuel => link.connectTo scene.surroundings fuel (some deadline) base)
      ((deadline.remaining (scene.clock state)).nanos + link.options.tries) state := by
  unfold connectTo
  cases Connect.interfaceUri base with
  | error failure => exact .steady ⟨_, _, rfl⟩
  | ok uri =>
    have opens := link.connectDeadline_play scene (some deadline) state
    cases inTime : link.window? (scene.clock state) (some deadline) with
    | none =>
      rw [inTime] at opens
      exact .overflows (Link.window?_eq_none.mp inTime) fun _ _ => Run.play_bind_error opens
    | some window =>
      obtain ⟨closing, rfl, within⟩ := Link.window?_le inTime
      rw [inTime] at opens
      apply Run.Settles.after opens
      have settles : Run.Settles (scene.TooFar link.options.connectWait) _ _ state :=
        Connect.openChannel_settles scene restrained link.login uri closing state
      apply (settles.mono (Nat.add_le_add_right (Nat.sub_le_sub_right within _) _)).bind
      intro opened last
      cases opened with
      | error failure => exact .steady ⟨_, _, rfl⟩
      | ok channel => exact .steady ⟨_, _, rfl⟩

theorem connect_settles (responsive : scene.Responsive) (restrained : link.options.IsRestrained)
    (deadline : Deadline) (state : σ) :
    Run.Settles (scene.TooFar link.options.connectWait)
      (fun fuel => link.connect scene.surroundings fuel (some deadline))
      ((deadline.remaining (scene.clock state)).nanos + link.options.tries) state := by
  unfold connect
  cases link.connection with
  | some connection => exact .steady ⟨_, _, rfl⟩
  | none =>
    obtain ⟨⟨located, locator⟩, middle, locates⟩ := link.locator.rawUrl_ends responsive state
    apply Run.Settles.after locates
    obtain ⟨done, locating⟩ := Locating.of_rawUrl scene link.locator state
    rw [locates] at locating
    cases located with
    | error failure => exact .steady ⟨_, _, rfl⟩
    | ok base =>
      rw [← locating.still]
      exact connectTo_settles { link with locator, connection := none } restrained deadline base
        middle

theorem send_ends (responsive : scene.Responsive) (link : Link Nat) (connection : Connection Nat)
    (method : Method) (arguments : List Json) (state : σ) : ∃ value stop,
    (link.send scene.surroundings connection method arguments).play state = (.ok value, stop) := by
  rw [send_play]
  obtain ⟨result, stop, answers⟩ :=
    responsive.call connection.channel connection.next.sequence method arguments state
  rw [answers]
  exact ⟨_, _, rfl⟩

end Link

theorem Policy.backoff_pos (base : .zero < policy.baseDelay)
    (longest : .zero < policy.longestDelay) (attempt : Nat) :
    0 < (policy.backoff attempt).nanos := by
  have base : 0 < policy.baseDelay.nanos := base
  have longest : 0 < policy.longestDelay.nanos := longest
  have factor : 0 < Nat.pow 2 (min (attempt - 1) doublings) := Nat.pow_pos (by decide)
  have grows : 0 < policy.baseDelay.nanos * Nat.pow 2 (min (attempt - 1) doublings) :=
    Nat.mul_pos base factor
  have top : 0 < Duration.longest.nanos := by decide
  exact Nat.lt_min.mpr ⟨Nat.lt_min.mpr ⟨grows, top⟩, longest⟩

namespace Session

variable {session : Session Nat}

theorem rested_remaining (scene : Scene σ) (call : PendingCall) (session : Session Nat) (made : Nat)
    (state : σ) :
    (call.deadline.remaining (scene.clock (session.rested scene call made state))).nanos =
      (call.deadline.remaining (scene.clock state)).nanos -
        (session.policy.backoff made).nanos := by
  unfold rested
  cases pauses : session.policy.pause? made (call.deadline.remaining (scene.clock state)) with
  | none =>
    simp only [Policy.pause?_eq_none.mp pauses, Duration.nanos_zero, Nat.zero_sub]
  | some pause =>
    obtain ⟨-, rfl⟩ := Policy.pause?_eq_some.mp pauses
    simp only [Deadline.remaining_pause, Duration.nanos_min]
    omega

theorem attempt_settles (responsive : scene.Responsive)
    (restrained : session.linkOptions.IsRestrained) (call : PendingCall) (state : σ) :
    Run.Settles (scene.TooFar session.linkOptions.connectWait)
      (fun fuel => session.attempt scene.surroundings fuel call)
      ((call.deadline.remaining (scene.clock state)).nanos + session.linkOptions.tries) state := by
  unfold attempt
  cases built : session.linkOf scene.surroundings with
  | error failure => exact .steady (withoutConnection_ends scene call session failure state)
  | ok link =>
    rw [← options_of_linkOf built] at restrained ⊢
    apply (Link.connect_settles responsive restrained call.deadline state).bind
    rintro ⟨failure | connection, ready⟩ middle
    · exact .steady (withoutConnection_ends scene call _ failure middle)
    · obtain ⟨⟨result, sent⟩, next, sends⟩ :=
        ready.send_ends responsive connection call.method call.arguments middle
      apply Run.Settles.after sends
      exact .steady (withResult_ends scene call _ _ result next)

theorem attempts_settle_over {tooFar : σ → Prop} {call : PendingCall} {made enough : Nat}
    {lastError : String} {state : σ}
    (ended : scene.stopping state = true ∨
      0 < made ∧ call.deadline.isExpired (scene.clock state) = true) :
    Run.Settles tooFar
      (fun fuel => session.attempts scene.surroundings call fuel made lastError) enough state := by
  by_cases stopping : scene.stopping state = true
  · exact .last fun fuel _ => attempts_play_stopping stopping fuel made lastError
  · obtain ⟨tried, expired⟩ := ended.resolve_left stopping
    exact .last fun fuel _ => attempts_play_late stopping tried expired fuel lastError

/-- A round takes time as well, unless it is the last one. -/
theorem attempts_settle (responsive : scene.Responsive) (call : PendingCall) (made : Nat)
    (lastError : String) (base : .zero < session.policy.baseDelay)
    (longest : .zero < session.policy.longestDelay) (restrained : session.linkOptions.IsRestrained)
    (state : σ) :
    Run.Settles (scene.TooFar session.linkOptions.connectWait)
      (fun fuel => session.attempts scene.surroundings call fuel made lastError)
      ((call.deadline.remaining (scene.clock state)).nanos + session.linkOptions.tries + 1)
      state := by
  generalize left : (call.deadline.remaining (scene.clock state)).nanos +
    session.linkOptions.tries + 1 = room
  -- The time that is left grows less with every round but the last.
  induction room using Nat.strongRecOn generalizing made lastError session state with
  | _ room ih =>
    by_cases ended : scene.stopping state = true ∨
      0 < made ∧ call.deadline.isExpired (scene.clock state) = true
    · exact attempts_settle_over ended
    rcases attempt_settles responsive restrained call state with
      @⟨⟨attempt, after⟩, middle, attempts⟩ | @⟨stop, far, overflows⟩
    case overflows =>
      refine .overflows far fun fuel beyond => ?_
      obtain ⟨less, rfl⟩ := Nat.exists_eq_add_of_lt beyond
      rw [attempts_play_begun ended, overflows _ (by omega)]
    have attempts : ∀ fuel, room ≤ fuel →
        (session.attempt scene.surroundings fuel call).play state =
          (.ok (attempt, after), middle) := fun fuel beyond => attempts fuel (by omega)
    obtain ⟨done, attempting⟩ := Attempting.of_attempt scene room call session state
    rw [attempts room (Nat.le_refl room)] at attempting
    cases attempt with
    | finished result =>
      apply Run.Settles.last
      intro fuel beyond
      rw [attempts_play_begun ended, attempts fuel beyond]
    | interrupted =>
      have next : ∀ fuel, room ≤ fuel →
          (session.attempts scene.surroundings call (fuel + 1) made lastError).play state =
            (after.attempts scene.surroundings call fuel (made + 1) lastError).play middle := by
        intro fuel beyond
        rw [attempts_play_begun ended, attempts fuel beyond]
      have stopped : scene.stopping middle = true := attempting.stopping_of_interrupted
      exact .step (attempts_settle_over (.inl stopped)) (show 0 < room by omega) next
    | transient reason =>
      have rests : ∀ fuel, room ≤ fuel →
          (session.attempts scene.surroundings call (fuel + 1) made lastError).play state =
            (after.attempts scene.surroundings call fuel (made + 1) reason).play
              (after.rested scene call (made + 1) middle) := by
        intro fuel beyond
        rw [attempts_play_begun ended, attempts fuel beyond]
      -- Without any time left there is no pause, but then the next round is the last one.
      by_cases spent : call.deadline.expiry ≤ scene.clock middle
      · rw [rested_late spent] at rests
        have expired := decide_eq_true (Deadline.remaining_eq_zero_iff.mpr spent)
        exact .step (attempts_settle_over (.inr ⟨Nat.succ_pos made, expired⟩))
          (show 0 < room by omega) rests
      · have passed : (call.deadline.remaining (scene.clock middle)).nanos ≤
            (call.deadline.remaining (scene.clock state)).nanos :=
          call.deadline.remaining_le_of_passes attempting.passes
        have remaining := rested_remaining scene call after (made + 1) middle
        rw [← Deadline.remaining_eq_zero_iff, Duration.eq_zero_iff_nanos] at spent
        rw [← attempting.linkOptions rfl] at restrained left ⊢
        have policy : session.policy = after.policy := by rw [attempting.frame]
        rw [policy] at base longest
        have pause := Policy.backoff_pos base longest (made + 1)
        exact .step (ih _ (by omega) _ _ base longest restrained _ rfl) (by omega) rests

end Session

/-! How often a call goes out. -/

namespace Policy

def leastDelay (policy : Policy) : Duration := min policy.baseDelay policy.longestDelay

def pausesIn (policy : Policy) (time : Duration) : Nat :=
  (time.nanos + (policy.leastDelay.nanos - 1)) / policy.leastDelay.nanos

/-- How often a call goes out at most. -/
def mostCalls (policy : Policy) : Nat := max 1 (policy.pausesIn policy.longestWait)

theorem pausesIn_zero (least : 0 < policy.leastDelay.nanos) {time : Duration}
    (spent : time.nanos = 0) : policy.pausesIn time = 0 := by
  rw [pausesIn, spent]
  exact Nat.div_eq_of_lt (by omega)

theorem pausesIn_pos (least : 0 < policy.leastDelay.nanos) {time : Duration}
    (left : 0 < time.nanos) : 0 < policy.pausesIn time :=
  Nat.div_pos (by omega) least

theorem pausesIn_mono {time longer : Duration} (within : time ≤ longer) :
    policy.pausesIn time ≤ policy.pausesIn longer :=
  Nat.div_le_div_right (Nat.add_le_add_right within _)

theorem pausesIn_pause (least : 0 < policy.leastDelay.nanos) {time pause later : Duration}
    (full : policy.leastDelay ≤ pause) (cut : pause ≤ time)
    (left : later.nanos ≤ time.nanos - pause.nanos) :
    policy.pausesIn later + 1 ≤ policy.pausesIn time := by
  rw [Duration.le_iff_nanos] at full cut
  rw [pausesIn, ← Nat.add_div_right _ least]
  exact Nat.div_le_div_right (by omega)

theorem leastDelay_le_pause {attempt : Nat} {remaining pause : Duration}
    (near : remaining ≤ Duration.longest)
    (pauses : policy.pause? attempt remaining = some pause) :
    pause = remaining ∨ policy.leastDelay ≤ pause := by
  have grows : policy.baseDelay.nanos ≤
      policy.baseDelay.nanos * Nat.pow 2 (min (attempt - 1) doublings) :=
    Nat.le_mul_of_pos_right _ (Nat.pow_pos (by decide))
  obtain ⟨-, rfl⟩ := pause?_eq_some.mp pauses
  rw [Duration.le_iff_nanos] at near
  by_cases cut : remaining.nanos ≤ (policy.backoff attempt).nanos
  · exact .inl (Duration.nanos_injective (Nat.min_eq_right cut))
  · have whole : (policy.backoff attempt).nanos =
        min (min (policy.baseDelay.nanos * Nat.pow 2 (min (attempt - 1) doublings))
          Duration.longest.nanos) policy.longestDelay.nanos := rfl
    right
    rw [Duration.le_iff_nanos, leastDelay, Duration.nanos_min, Duration.nanos_min]
    omega

end Policy

@[simp] theorem Log.calls_append (one other : Log) :
    calls (one ++ other) = one.calls ++ other.calls := List.filterMap_append

theorem Log.Callless.calls_eq_nil {log : Log} (callless : log.Callless) : log.calls = [] := by
  rw [calls, List.filterMap_eq_nil_iff]
  intro entry member
  have other := callless entry member
  cases entry with
  | called _ _ _ _ _ => cases other
  | _ => rfl

theorem Attempting.calls_le {call : PendingCall} {session : Session Nat} {state stop : σ}
    {done : Log} {outcome : Except Halt (Attempt × Session Nat)}
    (attempting : Attempting scene call session state done outcome stop) :
    done.calls.length ≤ 1 := by
  rcases attempting.call with callless | ⟨before, _, _, _, after, rfl, early, late, _⟩
  · rw [callless.calls_eq_nil]
    exact Nat.zero_le 1
  · rw [Log.calls_append, early.calls_eq_nil]
    change (List.nil ++ _ :: Log.calls after).length ≤ 1
    rw [late.calls_eq_nil]
    exact Nat.le_refl 1

theorem Attempting.calls_of_interrupted {call : PendingCall} {session after : Session Nat}
    {state stop : σ} {done : Log}
    (attempting : Attempting scene call session state done (.ok (.interrupted, after)) stop) :
    done.calls = [] := by
  generalize same : Attempt.interrupted = attempt at attempting
  cases attempting with
  | interrupted _ connecting => exact connecting.callless.calls_eq_nil
  | failed _ _ _ _ _ => exact absurd same.symm (Attempt.ofResult_ne_interrupted _ _ _)
  | _ => cases same

def Policy.Allows (policy : Policy) (made : Nat) (time : Duration) (calls : Nat) : Prop :=
  calls ≤ policy.pausesIn time ∨ made = 0 ∧ calls ≤ 1

namespace Policy.Allows

variable {made calls : Nat} {time : Duration}

theorem none : policy.Allows made time 0 := .inl (Nat.zero_le _)

theorem single (least : 0 < policy.leastDelay.nanos) (inTime : 0 < made → 0 < time.nanos)
    (few : calls ≤ 1) : policy.Allows made time calls := by
  by_cases tried : 0 < made
  · exact .inl (Nat.le_trans few (pausesIn_pos least (inTime tried)))
  · exact .inr ⟨Nat.eq_zero_of_not_pos tried, few⟩

theorem later (allows : policy.Allows (made + 1) time calls) : calls ≤ policy.pausesIn time :=
  allows.resolve_right (fun impossible => Nat.succ_ne_zero made impossible.1)

end Policy.Allows

/-- Every call but the last is followed by a pause, and after a pause that is cut there is none. -/
theorem Course.calls_allowed {call : PendingCall} {made : Nat} {lastError : String}
    {session : Session Nat} {state stop : σ} {done : Log}
    {outcome : Except Halt (Except SessionFailure Response × Session Nat)}
    (course : Course scene call made lastError session state done outcome stop)
    (least : 0 < session.policy.leastDelay.nanos)
    (near : call.deadline.remaining (scene.clock state) ≤ Duration.longest) :
    session.policy.Allows made (call.deadline.remaining (scene.clock state)) done.calls.length := by
  have time_of_inTime : ∀ {made : Nat} {state : σ},
      (0 < made → call.deadline.isExpired (scene.clock state) = false) →
      0 < made → 0 < (call.deadline.remaining (scene.clock state)).nanos := by
    intro made state inTime tried
    have left := inTime tried
    rw [Deadline.isExpired, decide_eq_false_iff_not, Duration.eq_zero_iff_nanos] at left
    omega
  -- What is left to the later rounds is told by the time that is left to them.
  induction course with
  | unfinished => exact .none
  | terminated _ => exact .none
  | timedOut _ _ _ => exact .none
  | halted _ inTime attempting =>
    exact .single least (time_of_inTime inTime) attempting.calls_le
  | finished _ inTime attempting =>
    exact .single least (time_of_inTime inTime) attempting.calls_le
  | interrupted _ _ attempting _ ih =>
    have policy := congrArg Session.policy attempting.frame
    have passed := call.deadline.remaining_le_of_passes attempting.passes
    rw [← policy] at least ⊢
    rw [Log.calls_append, attempting.calls_of_interrupted, List.nil_append]
    exact .inl (Nat.le_trans (ih least (Nat.le_trans passed near)).later
      (Policy.pausesIn_mono passed))
  | @paused _ _ _ _ after _ middle _ _ more pause _ _ inTime attempting pauses _ ih =>
    have policy := congrArg Session.policy attempting.frame
    have passed := call.deadline.remaining_le_of_passes attempting.passes
    have left := call.deadline.remaining_pause scene pause middle
    have one := attempting.calls_le
    rw [← policy] at least ⊢
    have near := Nat.le_trans passed near
    have later := (ih least (Nat.le_trans (by omega) near)).later
    have joined : Log.calls (.slept pause :: more) = Log.calls more := rfl
    rw [Log.calls_append, List.length_append, joined]
    rcases Policy.leastDelay_le_pause near pauses with rfl | full
    · -- No time is left.
      rw [Nat.sub_self] at left
      rw [Policy.pausesIn_zero least left] at later
      exact .single least (time_of_inTime inTime) (by omega)
    · have fewer := Policy.pausesIn_pause least full (Policy.pause?_le pauses) (Nat.le_of_eq left)
      have fits := after.policy.pausesIn_mono passed
      exact .inl (by omega)
  | @spent _ _ _ _ after _ middle _ _ more _ _ inTime attempting spent _ ih =>
    have policy := congrArg Session.policy attempting.frame
    have passed := call.deadline.remaining_le_of_passes attempting.passes
    have one := attempting.calls_le
    rw [← policy] at least ⊢
    have later := (ih least (Nat.le_trans passed near)).later
    have left : (call.deadline.remaining (scene.clock middle)).nanos = 0 := by
      rw [Policy.pause?_eq_none.mp spent]
      rfl
    rw [Policy.pausesIn_zero least left] at later
    rw [Log.calls_append, List.length_append]
    exact .single least (time_of_inTime inTime) (by omega)

theorem Deadline.remaining_of_after? {now budget : Duration} {deadline : Deadline}
    (inTime : Deadline.after? now budget = some deadline) : deadline.remaining now = budget := by
  have expiry := Deadline.nanos_expiry_of_after? inTime
  apply Duration.nanos_injective
  rw [remaining, Duration.nanos_sub]
  omega

theorem Deadline.le_longest_of_after? {now budget : Duration} {deadline : Deadline}
    (inTime : Deadline.after? now budget = some deadline) : budget ≤ Duration.longest := by
  obtain ⟨near, -⟩ := Deadline.after?_eq_some.mp inTime
  have second : 0 < Duration.second := by decide
  have below := (Nat.div_lt_iff_lt_mul second).mp (Nat.lt_succ_of_le near)
  have top : (secondsLimit + 1) * Duration.second ≤ Duration.longest.nanos := by decide
  have within : budget.nanos ≤ (now + budget).nanos := Nat.le_add_left _ _
  exact Nat.le_trans within (Nat.le_of_lt (Nat.lt_of_lt_of_le below top))

theorem Invoking.calls_le {session : Session Nat} {request : Request} {repeatable : Bool}
    {state stop : σ} {done : Log}
    {outcome : Except Halt (Except SessionFailure Response × Session Nat)}
    (invoking : Invoking scene session request repeatable state done outcome stop)
    (least : 0 < session.policy.leastDelay.nanos) :
    done.calls.length ≤ session.policy.mostCalls := by
  cases invoking with
  | misfit _ => exact Nat.zero_le _
  | overflow _ _ => exact Nat.zero_le _
  | @course _ deadline _ _ _ _ inTime course =>
    have whole := Deadline.remaining_of_after? inTime
    have allowed := course.calls_allowed least
      (by rw [whole]; exact Deadline.le_longest_of_after? inTime)
    rw [whole] at allowed
    rcases allowed with within | ⟨_, single⟩
    · exact Nat.le_trans within (Nat.le_max_right _ _)
    · exact Nat.le_trans single (Nat.le_max_left _ _)

def Session.steps (session : Session Nat) : Nat :=
  session.policy.longestWait.nanos + session.linkOptions.tries + 1

theorem Session.invoke_settles (responsive : scene.Responsive) (session : Session Nat)
    (request : Request) (repeatable : Bool) (base : .zero < session.policy.baseDelay)
    (longest : .zero < session.policy.longestDelay) (restrained : session.linkOptions.IsRestrained)
    {state : σ} (inReach : Deadline.InReach (scene.clock state) session.policy.longestWait) :
    Run.Settles (scene.TooFar session.linkOptions.connectWait)
      (fun fuel => session.invoke scene.surroundings fuel request repeatable) session.steps
      state := by
  cases fits : request.method.signature.fit request.arguments with
  | error error =>
    apply Run.Settles.last
    intro fuel _
    simp only [invoke_play, fits]
    rfl
  | ok arguments =>
    have inTime : Deadline.after? (scene.clock state) session.policy.longestWait =
        some ⟨scene.clock state + session.policy.longestWait⟩ :=
      Deadline.after?_eq_some.mpr ⟨inReach, rfl⟩
    let call : PendingCall :=
      ⟨request.method, arguments, repeatable, ⟨scene.clock state + session.policy.longestWait⟩⟩
    have begins : ∀ fuel, (session.invoke scene.surroundings fuel request repeatable).play state =
        (session.attempts scene.surroundings call fuel 0 "").play state := by
      intro fuel
      simp only [invoke_play, fits, inTime]
      rfl
    have settles := attempts_settle responsive call 0 "" base longest restrained state
    rw [Deadline.remaining_of_after? inTime] at settles
    cases settles with
    | ends plays => exact .ends fun fuel beyond => (begins fuel).trans (plays fuel beyond)
    | overflows far plays =>
      exact .overflows far fun fuel beyond => (begins fuel).trans (plays fuel beyond)

/-- Whatever the registries and schedulers of a scene answer, a call whose deadline there is ends,
and in the same way however many steps it is allowed beyond some number. It comes to a result, but
where it has to connect and no instant lies as far ahead as it may, it halts. It goes out as often at
most as the shortest of its pauses fits into its time, the last one being cut. -/
theorem every_call_ends (scene : Scene σ) (responsive : scene.Responsive) (session : Session Nat)
    (request : Request) (repeatable : Bool) (state : σ)
    (base : .zero < session.policy.baseDelay) (longest : .zero < session.policy.longestDelay)
    (restrained : session.linkOptions.IsRestrained)
    (inReach : Deadline.InReach (scene.clock state) session.policy.longestWait) :
    let performed fuel :=
      scene.perform (session.invoke scene.surroundings fuel request repeatable) state
    (∃ ending,
      ((∃ result after, ending.outcome = .ok (result, after)) ∨
        ¬ Deadline.InReach (scene.clock ending.stop) session.linkOptions.connectWait ∧
          ending.outcome = .error .overflow) ∧
      ∀ fuel, session.steps < fuel → performed fuel = ending) ∧
    ∀ fuel, (performed fuel).done.calls.length ≤ session.policy.mostCalls := by
  intro performed
  have same : ∀ {outcome stop}, (∀ fuel, session.steps < fuel →
      (session.invoke scene.surroundings fuel request repeatable).play state = (outcome, stop)) →
      performed (session.steps + 1) = ⟨outcome, stop, (performed (session.steps + 1)).done⟩ ∧
        ∀ fuel, session.steps < fuel → performed fuel = performed (session.steps + 1) := by
    intro outcome stop plays
    refine ⟨?_, fun fuel beyond => ?_⟩
    · simp only [performed, Scene.perform, plays _ (Nat.lt_succ_self _)]
    · simp only [performed, Scene.perform, plays _ beyond, plays _ (Nat.lt_succ_self _)]
  constructor
  · cases session.invoke_settles responsive request repeatable base longest restrained inReach with
    | @ends value stop plays =>
      obtain ⟨result, after⟩ := value
      obtain ⟨ends, steady⟩ := same plays
      exact ⟨_, .inl ⟨result, after, congrArg Performance.outcome ends⟩, steady⟩
    | overflows far plays =>
      obtain ⟨halts, steady⟩ := same plays
      refine ⟨_, .inr ⟨?_, congrArg Performance.outcome halts⟩, steady⟩
      rw [halts]
      exact far
  · intro fuel
    exact (Invoking.of_invoke scene fuel session request repeatable state).calls_le
      (Nat.lt_min.mpr ⟨base, longest⟩)

theorem Stage.responsive (stage : Stage) (login : String → Except LoginError Login) :
    (stage.scene login).Responsive := by
  constructor
  · intro target patience state
    exact ⟨_, _, rfl⟩
  · intro channel sequence method arguments state
    exact ⟨_, _, rfl⟩

theorem hasty_call_ends :
    let scene := Stage.busy.scene fun _ => .ok .anonymous
    let performed fuel :=
      scene.perform (Session.hasty.invoke scene.surroundings fuel ⟨.getJobs, [.null]⟩ false)
        Stage.busy
    (∃ ending, (∃ result after, ending.outcome = .ok (result, after)) ∧
      ∀ fuel, Session.hasty.steps < fuel → performed fuel = ending) ∧
    (∀ fuel, (performed fuel).done.calls.length ≤ 2) ∧
    (performed 9).done.calls.length = 2 := by
  intro scene performed
  obtain ⟨⟨ending, ends, steady⟩, most⟩ := every_call_ends scene (Stage.busy.responsive _)
    Session.hasty ⟨.getJobs, [.null]⟩ false Stage.busy (by decide) (by decide) (.inl (by decide))
    (by decide)
  have two : Session.hasty.policy.mostCalls = 2 := by decide
  rw [two] at most
  have whole : scene.clock Stage.busy + Session.hasty.policy.longestWait = .ofSeconds 4 := by
    decide
  have soon : ∀ fuel, scene.clock (performed fuel).stop ≤ .ofSeconds 4 := by
    intro fuel
    rw [← whole]
    exact (Invoking.of_invoke scene fuel Session.hasty _ false Stage.busy).clock_le
  have early : scene.clock ending.stop ≤ .ofSeconds 4 := by
    obtain ⟨fuel, beyond⟩ : ∃ fuel, Session.hasty.steps < fuel := ⟨_, Nat.lt_succ_self _⟩
    rw [← steady fuel beyond]
    exact soon fuel
  have near : Deadline.InReach (scene.clock ending.stop) Session.hasty.linkOptions.connectWait :=
    Deadline.InReach.mono (by decide) early (Nat.le_refl _)
  exact ⟨⟨ending, ends.resolve_right fun far => far.1 near, steady⟩, most, by decide +kernel⟩

end SchedulerLink
