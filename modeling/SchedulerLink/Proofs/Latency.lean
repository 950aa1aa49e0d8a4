import SchedulerLink.Proofs.Ending
import SchedulerLink.Proofs.Failover

/-!
How long a call may go on without asking who leads.

One attempt sleeps within one window for connecting, and every attempt after it begins by asking the
registry. So nothing but one window and the pause after it lies between two inquiries.
-/

namespace SchedulerLink

variable {σ : Type} {scene : Scene σ}

/-! Stretches of a log without an inquiry. -/

namespace Log

/-- No more than `bound` is slept in any stretch in which the registry is not asked. -/
def Brisk (bound : Duration) (log : Log) : Prop :=
  ∀ stretch : Log, stretch <:+: log → stretch.inquiries = [] → stretch.slept ≤ bound

/-- Logs that begin with an inquiry. -/
inductive AsksFirst : Log → Prop where
  | asks {path : String} {patience : Duration}
    {answer : Except Halt (Except DiscoveryFailure (List Member))} {rest : Log} :
    AsksFirst (.lookedUp path patience answer :: rest)

variable {bound : Duration} {one other stretch : Log}

theorem AsksFirst.append (asks : one.AsksFirst) : AsksFirst (one ++ other) := by
  cases asks
  exact .asks

theorem slept_le_of_isInfix (part : stretch <:+: one) : stretch.slept ≤ one.slept := by
  obtain ⟨before, after, rfl⟩ := part
  rw [Duration.le_iff_nanos, nanos_slept_append, nanos_slept_append]
  omega

theorem infix_of_silent {path : String} {patience : Duration}
    {answer : Except Halt (Except DiscoveryFailure (List Member))}
    (part : stretch <:+: one ++ .lookedUp path patience answer :: other)
    (silent : stretch.inquiries = []) : stretch <:+: one ∨ stretch <:+: other := by
  have without : ∀ first last, stretch ≠ first ++ .lookedUp path patience answer :: last := by
    rintro first last rfl
    rw [inquiries_append] at silent
    cases (List.append_eq_nil_iff.mp silent).2
  obtain ⟨before, after, whole⟩ := part
  rcases List.append_eq_append_iff.mp whole with ⟨between, rfl, -⟩ | ⟨between, left, right⟩
  · exact .inl (List.infix_append before stretch between)
  cases between with
  | nil =>
    rw [List.append_nil] at left
    exact .inl (left ▸ List.suffix_append before stretch).isInfix
  | cons entry between =>
    obtain ⟨rfl, rfl⟩ := List.cons_eq_cons.mp right
    rcases List.append_eq_append_iff.mp left with ⟨first, -, last⟩ | ⟨first, -, last⟩
    · exact absurd last (without first between)
    · cases first with
      | nil => exact absurd last.symm (without [] between)
      | cons entry first =>
        obtain ⟨-, rfl⟩ := List.cons_eq_cons.mp last
        exact .inr (List.infix_append first stretch after)

theorem Brisk.nil : Brisk bound [] := by
  intro stretch part _
  rw [List.infix_nil.mp part]
  exact Nat.zero_le _

theorem Brisk.of_slept (within : one.slept ≤ bound) : one.Brisk bound := fun _ part _ =>
  Nat.le_trans (slept_le_of_isInfix part) within

theorem Brisk.append (within : one.slept ≤ bound) (brisk : other.Brisk bound)
    (asks : other.AsksFirst) : Brisk bound (one ++ other) := by
  cases asks
  intro stretch part silent
  rcases infix_of_silent part silent with early | late
  · exact Brisk.of_slept within stretch early silent
  · exact brisk stretch (late.trans (List.suffix_cons _ _).isInfix) silent

end Log

/-! What an attempt sleeps. -/

theorem Opening.slept_le {options : LinkOptions} {uri : String} {window : Deadline}
    {channel failed : Nat} {state stop : σ} {done : Log}
    {outcome : Except Halt (Except LinkFailure Unit)}
    (opening : Opening scene options uri (some window) channel failed state done outcome stop) :
    done.slept ≤ window.remaining (scene.clock state) := by
  induction opening with
  | unfinished => exact Nat.zero_le _
  | opened _ => exact Nat.zero_le _
  | givenUp _ _ => exact Nat.zero_le _
  | @again _ state next _ _ pause rest _ fails verdict _ ih =>
    obtain ⟨-, -, -, -, cut⟩ := Connect.verdict_eq_ok verdict
    have within : pause ≤ window.remaining (scene.clock next) := by
      rw [cut]
      exact Duration.min_le_right _ _
    have left := window.remaining_pause scene pause next
    have slept := Log.nanos_slept_pause pause rest
    rw [← (Scene.open_passes fails).still rfl, Log.slept_cons_of_pauses _ rfl]
    rw [Duration.le_iff_nanos] at ih within ⊢
    omega

theorem Link.remaining_of_window? {link : Link Nat} {now : Duration} {deadline : Deadline}
    {window : Option Deadline} (opens : link.window? now (some deadline) = some window) :
    ∃ closing, window = some closing ∧ closing.remaining now ≤ link.options.connectWait := by
  obtain ⟨closing, capped, rfl⟩ := Option.map_eq_some_iff.mp opens
  obtain ⟨last, inTime, rfl⟩ := Option.map_eq_some_iff.mp capped
  have expiry := Deadline.nanos_expiry_of_after? inTime
  refine ⟨_, rfl, ?_⟩
  simp only [Duration.le_iff_nanos, Deadline.remaining, Deadline.earlier, Duration.nanos_sub,
    Duration.nanos_min]
  omega

theorem Reaching.slept_le {deadline : Deadline} {link : Link Nat} {base : String} {state stop : σ}
    {done : Log} {outcome : Except Halt (Except LinkFailure (Connection Nat) × Link Nat)}
    (reaching : Reaching scene (some deadline) link base state done outcome stop) :
    done.slept ≤ link.options.connectWait := by
  have opening_le : ∀ {uri : String} {window : Option Deadline} {channel : Nat} {next last : σ}
      {tried : Log} {result : Except Halt (Except LinkFailure Unit)},
      link.window? (scene.clock state) (some deadline) = some window →
      (scene.surroundings.create uri link.setup).run state = (channel, next) →
      Opening scene link.options uri window channel 0 next tried result last →
      tried.slept ≤ link.options.connectWait := by
    intro uri window channel next last tried result opens creates opening
    obtain ⟨closing, rfl, short⟩ := Link.remaining_of_window? opens
    rw [← (Scene.create_passes creates).still rfl] at short
    exact Nat.le_trans opening.slept_le short
  cases reaching with
  | misaddressed _ => exact Nat.zero_le _
  | overflow _ _ => exact Nat.zero_le _
  | halted _ opens creates opening =>
    rw [Log.slept_cons_of_pauses _ rfl]
    exact opening_le opens creates opening
  | unopened _ opens creates opening =>
    rw [Log.slept_cons_of_pauses _ rfl]
    exact opening_le opens creates opening
  | connected _ opens creates opening =>
    rw [Log.slept_cons_of_pauses _ rfl, Duration.le_iff_nanos, Log.nanos_slept_append]
    exact opening_le opens creates opening

theorem Connecting.slept_le {deadline : Deadline} {link : Link Nat} {state stop : σ} {done : Log}
    {outcome : Except Halt (Except LinkFailure (Connection Nat) × Link Nat)}
    (connecting : Connecting scene (some deadline) link state done outcome stop) :
    done.slept ≤ link.options.connectWait := by
  cases connecting with
  | held _ => exact Nat.zero_le _
  | halted _ locating => rw [locating.slept_eq]; exact Nat.zero_le _
  | unlocated _ locating => rw [locating.slept_eq]; exact Nat.zero_le _
  | reached _ locating reaching =>
    rw [Duration.le_iff_nanos, Log.nanos_slept_append, locating.slept_eq, Duration.nanos_zero,
      Nat.zero_add]
    exact reaching.slept_le

namespace Attempting

variable {call : PendingCall} {session : Session Nat} {state stop : σ} {done : Log}
  {outcome : Except Halt (Attempt × Session Nat)}

theorem slept_le (attempting : Attempting scene call session state done outcome stop) :
    done.slept ≤ session.linkOptions.connectWait := by
  have connecting_le : ∀ {link : Link Nat} {tried more : Log} {last : σ}
      {result : Except Halt (Except LinkFailure (Connection Nat) × Link Nat)},
      session.linkOf scene.surroundings = .ok link →
      Connecting scene (some call.deadline) link state tried result last →
      more.slept = .zero → Log.slept (tried ++ more) ≤ session.linkOptions.connectWait := by
    intro link tried more last result built connecting still
    rw [Duration.le_iff_nanos, Log.nanos_slept_append, still, ← Session.options_of_linkOf built]
    exact connecting.slept_le
  cases attempting with
  | unbuilt _ => exact Nat.zero_le _
  | halted built connecting =>
    rw [← List.append_nil done]
    exact connecting_le built connecting rfl
  | interrupted built connecting =>
    rw [← List.append_nil done]
    exact connecting_le built connecting rfl
  | tooLate built connecting =>
    rw [← List.append_nil done]
    exact connecting_le built connecting rfl
  | unreachable built _ connecting =>
    rw [← List.append_nil done]
    exact connecting_le built connecting rfl
  | callHalted built connecting _ => exact connecting_le built connecting rfl
  | answered built connecting _ _ => exact connecting_le built connecting rfl
  | failed built connecting _ _ releasing =>
    refine connecting_le built connecting ?_
    rw [Log.slept_cons_of_pauses _ rfl]
    exact releasing.slept_eq

theorem asksFirst {target : RegistryTarget} {wait : Duration}
    (attempting : Attempting scene call session state done outcome stop)
    (adrift : session.Adrift target wait) : done.AsksFirst := by
  obtain ⟨link, locator, linked, idle, located, unknown, -, -⟩ := adrift
  have asks : ∀ {known : Link Nat} {tried : Log} {last : σ}
      {result : Except Halt (Except LinkFailure (Connection Nat) × Link Nat)},
      session.linkOf scene.surroundings = .ok known →
      Connecting scene (some call.deadline) known state tried result last → tried.AsksFirst := by
    intro known tried last result built connecting
    rw [Session.linkOf, linked] at built
    cases built
    cases connecting.seeking idle located unknown <;> exact .asks
  cases attempting with
  | unbuilt unbuilt =>
    rw [Session.linkOf, linked] at unbuilt
    cases unbuilt
  | halted built connecting => exact asks built connecting
  | interrupted built connecting => exact asks built connecting
  | tooLate built connecting => exact asks built connecting
  | unreachable built _ connecting => exact asks built connecting
  | callHalted built connecting _ => exact (asks built connecting).append
  | answered built connecting _ _ => exact (asks built connecting).append
  | failed built connecting _ _ _ => exact (asks built connecting).append

end Attempting

/-! Whole calls. -/

theorem Policy.pause?_le_longestDelay {policy : Policy} {attempt : Nat} {remaining pause : Duration}
    (pauses : policy.pause? attempt remaining = some pause) : pause ≤ policy.longestDelay := by
  obtain ⟨-, rfl⟩ := pause?_eq_some.mp pauses
  exact Nat.le_trans (Nat.min_le_left _ _) (Duration.min_le_right _ _)

namespace Session.Registered

variable {target : RegistryTarget} {wait : Duration} {session : Session Nat}

theorem connectWait (registered : session.Registered scene target wait) :
    session.linkOptions.connectWait = wait := by
  unfold linkOptions
  cases linked : session.link with
  | none => exact registered.waits
  | some link =>
    obtain ⟨_, _, _, waits⟩ := registered.located linked
    exact waits

theorem slept_le (registered : session.Registered scene target wait) {call : PendingCall}
    {state stop : σ} {done : Log} {outcome : Except Halt (Attempt × Session Nat)}
    (attempting : Attempting scene call session state done outcome stop) : done.slept ≤ wait := by
  rw [← registered.connectWait]
  exact attempting.slept_le

theorem slept_le_bound (registered : session.Registered scene target wait) {call : PendingCall}
    {state stop : σ} {done : Log} {outcome : Except Halt (Attempt × Session Nat)}
    (attempting : Attempting scene call session state done outcome stop) (delay : Duration) :
    done.slept ≤ wait + delay :=
  Nat.le_trans (registered.slept_le attempting) (Nat.le_add_right _ _)

theorem adrift_of_transient {after : Session Nat} (registered : session.Registered scene target wait)
    {call : PendingCall} {state stop : σ} {done : Log} {reason : String}
    (attempting : Attempting scene call session state done (.ok (.transient reason, after)) stop) :
    after.Adrift target wait := by
  obtain ⟨link, linked, -⟩ := attempting.idle rfl
  exact (registered.next attempting).adrift linked (attempting.reset rfl)

end Session.Registered

namespace Course

variable {call : PendingCall} {made : Nat} {lastError : String} {session : Session Nat}
  {state stop : σ} {done : Log}
  {outcome : Except Halt (Except SessionFailure Response × Session Nat)}
  {target : RegistryTarget} {wait : Duration}

theorem done_of_stopping (course : Course scene call made lastError session state done outcome stop)
    (stopping : scene.stopping state = true) : done = [] := by
  cases course with
  | unfinished => rfl
  | terminated _ => rfl
  | timedOut _ _ _ => rfl
  | halted running _ _ => cases stopping.symm.trans running
  | finished running _ _ => cases stopping.symm.trans running
  | interrupted running _ _ _ => cases stopping.symm.trans running
  | paused running _ _ _ _ => cases stopping.symm.trans running
  | spent running _ _ _ _ => cases stopping.symm.trans running

theorem asksFirst (course : Course scene call made lastError session state done outcome stop)
    (adrift : session.Adrift target wait) : done = [] ∨ done.AsksFirst := by
  cases course with
  | unfinished => exact .inl rfl
  | terminated _ => exact .inl rfl
  | timedOut _ _ _ => exact .inl rfl
  | halted _ _ attempting => exact .inr (attempting.asksFirst adrift)
  | finished _ _ attempting => exact .inr (attempting.asksFirst adrift)
  | interrupted _ _ attempting _ => exact .inr (attempting.asksFirst adrift).append
  | paused _ _ attempting _ _ => exact .inr (attempting.asksFirst adrift).append
  | spent _ _ attempting _ _ => exact .inr (attempting.asksFirst adrift).append

/-- What a call does after an attempt that may be followed by another. -/
theorem brisk_after {one : Log} {bound : Duration}
    (later : Course scene call made lastError session state done outcome stop)
    (adrift : session.Adrift target wait) (within : one.slept ≤ bound)
    (brisk : done.Brisk bound) : Log.Brisk bound (one ++ done) := by
  rcases later.asksFirst adrift with rfl | asks
  · rw [List.append_nil]
    exact .of_slept within
  · exact .append within brisk asks

theorem brisk (course : Course scene call made lastError session state done outcome stop)
    (registered : session.Registered scene target wait) :
    done.Brisk (wait + session.policy.longestDelay) := by
  induction course with
  | unfinished => exact .nil
  | terminated _ => exact .nil
  | timedOut _ _ _ => exact .nil
  | halted _ _ attempting => exact .of_slept (registered.slept_le_bound attempting _)
  | finished _ _ attempting => exact .of_slept (registered.slept_le_bound attempting _)
  | interrupted _ _ attempting later _ =>
    rw [later.done_of_stopping attempting.stopping_of_interrupted, List.append_nil]
    exact .of_slept (registered.slept_le_bound attempting _)
  | @paused _ _ _ session after _ _ _ done more pause _ _ _ attempting pauses later ih =>
    have policy : after.policy = session.policy := by rw [attempting.frame]
    rw [policy] at ih pauses
    rw [List.append_cons]
    refine later.brisk_after (registered.adrift_of_transient attempting) ?_
      (ih (registered.next attempting))
    rw [Duration.le_iff_nanos, Log.nanos_slept_append]
    exact Nat.add_le_add (registered.slept_le attempting) (Policy.pause?_le_longestDelay pauses)
  | @spent _ _ _ session after _ _ _ _ _ _ _ _ attempting _ later ih =>
    have policy : after.policy = session.policy := by rw [attempting.frame]
    rw [policy] at ih
    exact later.brisk_after (registered.adrift_of_transient attempting)
      (registered.slept_le_bound attempting _) (ih (registered.next attempting))

end Course

theorem Invoking.brisk {session : Session Nat} {request : Request} {repeatable : Bool}
    {state stop : σ} {done : Log}
    {outcome : Except Halt (Except SessionFailure Response × Session Nat)}
    {target : RegistryTarget} {wait : Duration}
    (invoking : Invoking scene session request repeatable state done outcome stop)
    (registered : session.Registered scene target wait) :
    done.Brisk (wait + session.policy.longestDelay) := by
  cases invoking with
  | misfit _ => exact .nil
  | overflow _ _ => exact .nil
  | course _ _ course => exact course.brisk registered

/-- A moved leader is noticed in time. Whatever channels, schedulers and the registry do, and
whatever was done with the session before, a call never sleeps for longer than the time for
connecting and the longest delay together without asking the registry who leads: not before it asks
first, not between one inquiry and the next, and not after the last. All the time that passes is
slept. -/
theorem leader_is_asked_in_time (scene : Scene σ) {session : Session Nat} {before own : Log}
    {target : RegistryTarget} (history : Session.History scene session before own)
    (aims : session.cluster.target = .ok (.registry target)) (fuel : Nat) (request : Request)
    (repeatable : Bool) (state : σ) :
    let performed :=
      scene.perform (session.invoke scene.surroundings fuel request repeatable) state
    scene.clock performed.stop = scene.clock state + performed.done.slept ∧
      performed.done.Brisk (session.options.connectWait + session.policy.longestDelay) := by
  intro performed
  have invoking : Invoking scene session request repeatable state performed.done performed.outcome
    performed.stop := .of_invoke scene fuel session request repeatable state
  exact ⟨invoking.passes.clock, invoking.brisk (history.registered aims)⟩

def Session.wary : Session Nat where
  cluster := { name := "west", registry := some "registry" }
  options := { connectWait := .ofSeconds 3 }
  policy := {
    baseDelay := .ofSeconds 2, longestDelay := .ofSeconds 2, longestWait := .ofSeconds 20 }

def Stage.moving : Stage where
  registry := .queued [.ok [{ endpoint := ⟨"old", 8081⟩ }]] (.ok [{ endpoint := ⟨"new", 8081⟩ }])
  opens := List.replicate 4 (some (.notOpen "refused"))
  answers := [.ok (.ofCode .ok)]

theorem moved_leader_is_found_in_five_seconds :
    let scene := Stage.moving.scene fun _ => .ok .anonymous
    let performed :=
      scene.perform (Session.wary.invoke scene.surroundings 9 ⟨.getJobs, [.null]⟩ false)
        Stage.moving
    performed.done.inquiries.length = 2 ∧
      ∃ stretch : Log, stretch <:+: performed.done ∧ stretch.inquiries = [] ∧
        stretch.slept = .ofSeconds 5 ∧
        stretch.slept ≤ Session.wary.options.connectWait + Session.wary.policy.longestDelay := by
  intro scene performed
  have two : performed.done.inquiries.length = 2 := by
    decide +kernel
  have silent : Log.inquiries ((performed.done.drop 1).take 9) = [] := by
    decide +kernel
  have slept : Log.slept ((performed.done.drop 1).take 9) = .ofSeconds 5 := by
    decide +kernel
  have part : (performed.done.drop 1).take 9 <:+: performed.done :=
    (List.take_prefix _ _).isInfix.trans (List.drop_suffix _ _).isInfix
  have new : Session.History scene Session.wary [] [] := .made rfl
  have bound := (leader_is_asked_in_time scene new rfl 9 ⟨.getJobs, [.null]⟩ false Stage.moving).2
  exact ⟨two, _, part, silent, slept, bound _ part silent⟩

end SchedulerLink
