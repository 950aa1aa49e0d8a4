import Mathlib.Algebra.Group.Nat.Defs
import SchedulerLink.Proofs.Budget

/-!
How long a call waits from one attempt to the next.

Nothing is said here about how long an attempt takes. A pause is what the policy says of the number
of the attempt, cut to what is left of the call's time then. One that is cut uses that time up, so
no attempt follows it.
-/

namespace SchedulerLink

variable {σ α β : Type}

/-! The pauses of a policy. -/

/-- The base delay, doubled with every attempt but the first and eight times at most, up to the
longest delay. -/
def Policy.delay (policy : Policy) (attempt : Nat) : Duration :=
  ⟨min (policy.baseDelay.nanos * 2 ^ min (attempt - 1) 8) policy.longestDelay.nanos⟩

namespace Policy

variable {policy : Policy}

theorem backoff_eq_delay (near : policy.longestDelay ≤ .longest) (attempt : Nat) :
    policy.backoff attempt = policy.delay attempt := by
  apply Duration.nanos_injective
  rw [Duration.le_iff_nanos] at near
  simp only [backoff, delay, Duration.times, doublings, Duration.nanos_min, Nat.pow_eq]
  omega

theorem delay_mono {attempt next : Nat} (later : attempt ≤ next) :
    policy.delay attempt ≤ policy.delay next := by
  have exponent : min (attempt - 1) 8 ≤ min (next - 1) 8 := by omega
  have product := Nat.mul_le_mul_left policy.baseDelay.nanos
    (Nat.pow_le_pow_right Nat.two_pos exponent)
  rw [Duration.le_iff_nanos]
  simp only [delay]
  omega

theorem pause?_eq (attempt : Nat) (remaining : Duration) :
    policy.pause? attempt remaining =
      if remaining ≠ .zero then some (min (policy.backoff attempt) remaining) else none := by
  rw [pause?, ite_not]

end Policy

/-! The policy of a session outlasts every attempt. -/

/-- Whether a computation comes to values of a kind only. -/
def Run.ComesTo (program : Run (StateM σ) α) (kind : α → Prop) : Prop :=
  ∀ state value stop, program.play state = (.ok value, stop) → kind value

namespace Run.ComesTo

variable {program : Run (StateM σ) α} {next : α → Run (StateM σ) β} {kind : α → Prop}
  {last : β → Prop}

theorem of_pure {value : α} (is : kind value) :
    ComesTo (pure value : Run (StateM σ) α) kind := by
  rintro state _ stop ⟨⟩
  exact is

theorem bind (first : program.ComesTo kind) (second : ∀ value, kind value → (next value).ComesTo last) :
    ComesTo (program >>= next) last := by
  intro state value stop plays
  rw [Run.play_bind] at plays
  rcases began : program.play state with ⟨halt | middle, between⟩
  all_goals rw [began] at plays
  · cases plays
  · exact second middle (first state middle between began) between value stop plays

theorem after (second : ∀ value, (next value).ComesTo last) : ComesTo (program >>= next) last :=
  bind (fun _ _ _ _ => trivial : program.ComesTo fun _ => True) fun value _ => second value

end Run.ComesTo

namespace Session

variable {around : Surroundings (StateM σ) Nat} {call : PendingCall} {session : Session Nat}

theorem invalidate_policy : (session.invalidate around).ComesTo (·.policy = session.policy) := by
  unfold invalidate
  cases session.link with
  | none => exact .of_pure rfl
  | some link => exact .after fun _ => .of_pure rfl

theorem discard_policy : (session.discard around).ComesTo (·.policy = session.policy) := by
  unfold discard
  cases session.link with
  | none => exact .of_pure rfl
  | some link => exact .after fun _ => .of_pure rfl

theorem withoutConnection_policy (failure : LinkFailure) :
    (withoutConnection around call session failure).ComesTo (·.2.policy = session.policy) := by
  cases failure with
  | interrupted uri => exact .of_pure rfl
  | connectTimeout uri attempts reason => exact invalidate_policy.bind fun _ kept => .of_pure kept
  | _ => exact discard_policy.bind fun _ kept => .of_pure kept

theorem withResult_policy (advice : String) (result : Except CallFailure Response) :
    (withResult around call session advice result).ComesTo (·.2.policy = session.policy) := by
  unfold withResult
  split
  · exact .of_pure rfl
  all_goals exact invalidate_policy.bind fun _ kept => .of_pure kept

theorem attempt_policy (fuel : Nat) :
    (session.attempt around fuel call).ComesTo (·.2.policy = session.policy) := by
  unfold attempt
  cases session.linkOf around with
  | error failure => exact withoutConnection_policy failure
  | ok link =>
    refine .after fun ⟨connected, ready⟩ => ?_
    cases connected with
    | error failure => exact withoutConnection_policy failure
    | ok connection => exact .after fun ⟨result, sent⟩ => withResult_policy _ result

theorem attempt_of_connectTimeout {fuel attempts : Nat} {link idle : Link Nat}
    {uri reason : String} {state middle : σ} (built : session.linkOf around = .ok link)
    (late : (link.connect around fuel (some call.deadline)).play state =
      (.ok (.error (.connectTimeout uri attempts reason), idle), middle)) :
    ∃ after stop, (session.attempt around fuel call).play state =
      (.ok (.transient (LinkFailure.connectTimeout uri attempts reason).message, after), stop) := by
  unfold attempt
  simp only [built]
  rw [Run.play_bind_ok late]
  obtain ⟨locator, login, options, connection, epoch⟩ := idle
  cases connection <;> exact ⟨_, _, rfl⟩

end Session

/-! Attempts one by one. -/

/-- One attempt at a call and what followed it. -/
structure Trial (σ : Type) where
  outcome : Except Halt (Attempt × Session Nat)
  stop : σ
  pause : Option Duration

def Trial.isTransient (trial : Trial σ) : Bool :=
  match trial.outcome with
  | .ok (.transient _, _) => true
  | _ => false

def Trial.left (time : Timeline σ) (longestWait : Duration) (began : σ) (trial : Trial σ) :
    Duration :=
  time.clock began + longestWait - time.clock trial.stop

/-- How a session goes through attempts at a call. Each is made with the session that the one before
has left, in the state after the pause that followed it, and nothing else is done between them. -/
inductive Pursuit (time : Timeline σ) (call : PendingCall) :
    Session Nat → σ → List (Trial σ) → σ → Prop where
  | ended {session : Session Nat} {state : σ} : Pursuit time call session state [] state
  | last {session : Session Nat} {state : σ} {fuel : Nat} {trial : Trial σ}
    (attempts : (session.attempt time.surroundings fuel call).play state =
      (trial.outcome, trial.stop))
    (unpaused : trial.pause = none) : Pursuit time call session state [trial] trial.stop
  | next {session after : Session Nat} {state stop : σ} {fuel : Nat} {trial : Trial σ}
    {attempt : Attempt} {later : List (Trial σ)}
    (attempts : (session.attempt time.surroundings fuel call).play state =
      (trial.outcome, trial.stop))
    (leaves : trial.outcome = .ok (attempt, after))
    (rest : Pursuit time call after (time.rest trial.pause trial.stop) later stop) :
    Pursuit time call session state (trial :: later) stop

namespace Session

def trials (time : Timeline σ) (call : PendingCall) :
    (fuel made : Nat) → Session Nat → σ → List (Trial σ)
  | 0, _, _, _ => []
  | fuel + 1, made, session, state =>
    if time.stopping state || (0 < made && call.deadline.isExpired (time.clock state)) then []
    else
      match (session.attempt time.surroundings fuel call).play state with
      | (.ok (.transient reason, after), stop) =>
        let pause := after.policy.pause? (made + 1) (call.deadline.remaining (time.clock stop))
        ⟨.ok (.transient reason, after), stop, pause⟩ ::
          after.trials time call fuel (made + 1) (time.rest pause stop)
      | (.ok (.interrupted, after), stop) =>
        ⟨.ok (.interrupted, after), stop, none⟩ :: after.trials time call fuel (made + 1) stop
      | (outcome, stop) => [⟨outcome, stop, none⟩]

def trialsOf (time : Timeline σ) (fuel : Nat) (session : Session Nat) (request : Request)
    (repeatable : Bool) (state : σ) : List (Trial σ) :=
  match request.method.signature.fit request.arguments with
  | .error _ => []
  | .ok arguments =>
    match Deadline.after? (time.clock state) session.policy.longestWait with
    | none => []
    | some deadline =>
      session.trials time ⟨request.method, arguments, repeatable, deadline⟩ fuel 0 state

variable {time : Timeline σ} {call : PendingCall} {session : Session Nat}

theorem attempts_pursue (time : Timeline σ) (call : PendingCall) (fuel made : Nat)
    (lastError : String) (session : Session Nat) (state : σ) :
    Pursuit time call session state (session.trials time call fuel made state)
      ((session.attempts time.surroundings call fuel made lastError).play state).2 := by
  induction fuel generalizing made lastError session state with
  | zero => exact .ended
  | succ fuel ih =>
    rw [attempts_turn, trials]
    cases time.stopping state with
    | true => exact .ended
    | false =>
      rw [Bool.false_or, if_neg Bool.false_ne_true]
      by_cases late : (0 < made && call.deadline.isExpired (time.clock state)) = true
      · rw [if_pos late, if_pos late]
        exact .ended
      rw [if_neg late, if_neg late]
      rcases attempts : (session.attempt time.surroundings fuel call).play state with
        ⟨halt | ⟨result | reason | _, after⟩, middle⟩
      · exact .last attempts rfl
      · exact .last attempts rfl
      · exact .next attempts rfl (ih (made + 1) reason after _)
      · exact .next attempts rfl (ih (made + 1) lastError after middle)

theorem trials_cases (time : Timeline σ) (call : PendingCall) (fuel made : Nat)
    (session : Session Nat) (state : σ) :
    session.trials time call (fuel + 1) made state = [] ∨
    ∃ trial later, session.trials time call (fuel + 1) made state = trial :: later ∧
      (0 < made → call.deadline.isExpired (time.clock state) = false) ∧
      trial.pause = (if trial.isTransient then
        session.policy.pause? (made + 1) (call.deadline.remaining (time.clock trial.stop))
        else none) ∧
      (later = [] ∨ ∃ after : Session Nat, after.policy = session.policy ∧
        later = after.trials time call fuel (made + 1) (time.rest trial.pause trial.stop)) := by
  rw [trials]
  by_cases ended : (time.stopping state ||
    (0 < made && call.deadline.isExpired (time.clock state))) = true
  · exact .inl (if_pos ended)
  have inTime : 0 < made → call.deadline.isExpired (time.clock state) = false := by
    intro tried
    rw [Bool.not_eq_true, Bool.or_eq_false_iff, decide_eq_true tried, Bool.true_and] at ended
    exact ended.2
  rw [if_neg ended]
  refine .inr ?_
  rcases attempts : (session.attempt time.surroundings fuel call).play state with
    ⟨halt | ⟨result | reason | _, after⟩, middle⟩
  · exact ⟨_, _, rfl, inTime, rfl, .inl rfl⟩
  · exact ⟨_, _, rfl, inTime, rfl, .inl rfl⟩
  · have policy := attempt_policy fuel state _ middle attempts
    refine ⟨_, _, rfl, inTime, ?_, .inr ⟨after, policy, rfl⟩⟩
    exact congrArg (fun policy : Policy => policy.pause? _ _) policy
  · have policy := attempt_policy fuel state _ middle attempts
    exact ⟨_, _, rfl, inTime, rfl, .inr ⟨after, policy, rfl⟩⟩

/-- The pause after each attempt is the one that the policy says. -/
theorem trials_pause {fuel made k : Nat} {state : σ} {trial : Trial σ}
    (listed : (session.trials time call fuel made state)[k]? = some trial) :
    trial.pause = if trial.isTransient then
      session.policy.pause? (made + k + 1) (call.deadline.remaining (time.clock trial.stop))
      else none := by
  induction fuel generalizing made k session state with
  | zero => cases listed
  | succ fuel ih =>
    rcases session.trials_cases time call fuel made state with
      none | ⟨first, later, all, -, paused, follows⟩
    · rw [none] at listed
      cases listed
    rw [all] at listed
    cases k with
    | zero =>
      cases listed
      exact paused
    | succ k =>
      rw [List.getElem?_cons_succ] at listed
      rcases follows with rfl | ⟨after, policy, rfl⟩
      · cases listed
      · rw [← policy, ih listed, Nat.add_right_comm made 1 k, Nat.add_assoc made k 1]

theorem trials_inTime {fuel made : Nat} {state : σ} (tried : 0 < made)
    (some : session.trials time call fuel made state ≠ []) :
    call.deadline.isExpired (time.clock state) = false := by
  cases fuel with
  | zero => exact absurd rfl some
  | succ fuel =>
    rcases session.trials_cases time call fuel made state with none | ⟨_, _, _, inTime, _, _⟩
    · exact absurd none some
    · exact inTime tried

theorem backoff_of_inTime {deadline : Deadline} {policy : Policy} {attempt : Nat} {pause : Duration}
    {stop : σ} (pauses : policy.pause? attempt (deadline.remaining (time.clock stop)) = some pause)
    (inTime : deadline.isExpired (time.clock (time.rest (some pause) stop)) = false) :
    pause = policy.backoff attempt := by
  have passed := time.pause_clock pause stop
  rw [Policy.pause?_eq] at pauses
  split at pauses
  · cases pauses
    rw [Deadline.isExpired, decide_eq_false_iff_not, Deadline.remaining_eq_zero_iff] at inTime
    apply Duration.nanos_injective
    simp only [Duration.le_iff_nanos, Duration.nanos_add, Duration.nanos_min, Deadline.remaining,
      Duration.nanos_sub, Timeline.rest] at passed inTime ⊢
    omega
  · cases pauses

theorem trials_uncut {fuel made k : Nat} {state : σ} {trial : Trial σ} {pause : Duration}
    (listed : (session.trials time call fuel made state)[k]? = some trial)
    (paused : trial.pause = some pause)
    (another : k + 1 < (session.trials time call fuel made state).length) :
    pause = session.policy.backoff (made + k + 1) := by
  induction fuel generalizing made k session state with
  | zero => cases listed
  | succ fuel ih =>
    rcases session.trials_cases time call fuel made state with
      none | ⟨first, later, all, -, due, follows⟩
    · rw [none] at listed
      cases listed
    rw [all] at listed another
    rw [List.length_cons, Nat.add_lt_add_iff_right] at another
    -- The attempt listed is the first one, or the same one of the attempts that follow.
    rcases follows with rfl | ⟨after, policy, rfl⟩
    · cases another
    cases k with
    | zero =>
      cases listed
      rw [paused] at due another
      split at due
      · exact backoff_of_inTime due.symm (trials_inTime (Nat.succ_pos made)
          (List.ne_nil_of_length_pos another))
      · cases due
    | succ k =>
      rw [List.getElem?_cons_succ] at listed
      rw [← policy, ih listed another, Nat.add_right_comm made 1 k, Nat.add_assoc made k 1]

theorem trialsOf_cases (time : Timeline σ) (fuel : Nat) (session : Session Nat) (request : Request)
    (repeatable : Bool) (state : σ) :
    session.trialsOf time fuel request repeatable state = [] ∨
    ∃ call : PendingCall,
      call.deadline.expiry = time.clock state + session.policy.longestWait ∧
      session.trialsOf time fuel request repeatable state =
        session.trials time call fuel 0 state := by
  unfold trialsOf
  split
  · exact .inl rfl
  split
  · exact .inl rfl
  · rename_i deadline inTime
    exact .inr ⟨_, Duration.nanos_injective (Deadline.nanos_expiry_of_after? inTime), rfl⟩

theorem invoke_pursues (time : Timeline σ) (fuel : Nat) (session : Session Nat) (request : Request)
    (repeatable : Bool) (state : σ) :
    ∃ call, Pursuit time call session state
      (session.trialsOf time fuel request repeatable state)
      ((session.invoke time.surroundings fuel request repeatable).play state).2 := by
  rw [invoke_turn time.now_run, trialsOf]
  cases request.method.signature.fit request.arguments with
  | error error => exact ⟨⟨request.method, request.arguments, repeatable, ⟨.zero⟩⟩, .ended⟩
  | ok arguments =>
    cases Deadline.after? (time.clock state) session.policy.longestWait with
    | none => exact ⟨⟨request.method, arguments, repeatable, ⟨.zero⟩⟩, .ended⟩
    | some deadline => exact ⟨_, attempts_pursue time _ fuel 0 "" session state⟩

theorem trials_last {fuel i j : Nat} {state : σ} {one other : Trial σ} {longer shorter : Duration}
    (near : session.policy.longestDelay ≤ .longest) (sooner : i < j)
    (first : (session.trials time call fuel 0 state)[i]? = some one)
    (second : (session.trials time call fuel 0 state)[j]? = some other)
    (paused : one.pause = some longer) (rests : other.pause = some shorter)
    (less : shorter < longer) : (session.trials time call fuel 0 state).length = j + 1 := by
  obtain ⟨inside, -⟩ := List.getElem?_eq_some_iff.mp second
  refine Nat.le_antisymm (Nat.le_of_not_lt fun another => ?_) inside
  have uncut := trials_uncut second rests another
  have bounded := trials_uncut first paused (Nat.lt_of_le_of_lt sooner inside)
  rw [Policy.backoff_eq_delay near] at uncut bounded
  rw [uncut, bounded] at less
  have grows : session.policy.delay (0 + i + 1) ≤ session.policy.delay (0 + j + 1) :=
    Policy.delay_mono (by omega)
  exact absurd less (Nat.not_lt_of_le grows)

end Session

/-- The pauses of a call. Whatever attempts come to and however long they take, a call is a row of
attempts, and nothing but a pause lies between one and the next. An attempt after which another may
succeed, such as one that could not connect in time, is followed by a pause as long as any time is
left since the beginning of the call: the base delay, doubled for every attempt before this one but
eight times at most, cut to the longest delay and to what is left. No other attempt is followed by
one. So the pauses grow up to the longest delay, and only the last can be shorter than one before
it: no attempt comes after it. -/
theorem pauses_follow_the_policy (time : Timeline σ) (session : Session Nat)
    (near : session.policy.longestDelay ≤ .longest) (fuel : Nat) (request : Request)
    (repeatable : Bool) (state : σ) :
    let trials := session.trialsOf time fuel request repeatable state
    let policy := session.policy
    (∃ call, Pursuit time call session state trials
      ((session.invoke time.surroundings fuel request repeatable).play state).2) ∧
    (∀ k trial, trials[k]? = some trial →
      trial.pause =
        if trial.isTransient = true ∧ trial.left time policy.longestWait state ≠ .zero then
          some (min (policy.delay (k + 1)) (trial.left time policy.longestWait state))
        else none) ∧
    (∀ fuel call link idle uri attempts reason middle (session : Session Nat) (state : σ),
      session.linkOf time.surroundings = .ok link →
      (link.connect time.surroundings fuel (some call.deadline)).play state =
        (.ok (.error (.connectTimeout uri attempts reason), idle), middle) →
      ∀ trial : Trial σ, (session.attempt time.surroundings fuel call).play state =
        (trial.outcome, trial.stop) → trial.isTransient = true) ∧
    (∀ attempt next, attempt ≤ next → policy.backoff attempt ≤ policy.backoff next) ∧
    (∀ attempt, policy.backoff attempt ≤ policy.longestDelay) ∧
    ∀ i j one other longer shorter, i < j → trials[i]? = some one → trials[j]? = some other →
      one.pause = some longer → other.pause = some shorter → shorter < longer →
        trials.length = j + 1 := by
  intro trials policy
  refine ⟨session.invoke_pursues time fuel request repeatable state, ?_, ?_, ?_, ?_, ?_⟩
  · intro k trial listed
    rcases session.trialsOf_cases time fuel request repeatable state with
      none | ⟨call, expiry, all⟩
    · simp only [trials, none, List.getElem?_nil, reduceCtorEq] at listed
    · simp only [trials, all] at listed
      rw [Session.trials_pause listed, Policy.pause?_eq, Policy.backoff_eq_delay near,
        Deadline.remaining, expiry, Nat.zero_add]
      cases trial.isTransient with
      | true => simp only [↓reduceIte, true_and, Trial.left, policy]
      | false => simp only [Bool.false_eq_true, ↓reduceIte, false_and]
  · intro fuel call link idle uri attempts reason middle session state built late trial plays
    obtain ⟨after, stop, fails⟩ := Session.attempt_of_connectTimeout built late
    rw [plays] at fails
    simp only [Trial.isTransient, (Prod.mk.inj fails).1]
  · intro attempt next later
    simp only [policy, Policy.backoff_eq_delay near]
    exact Policy.delay_mono later
  · intro attempt
    exact Duration.min_le_right _ _
  · intro i j one other longer shorter sooner first second paused rests less
    rcases session.trialsOf_cases time fuel request repeatable state with
      none | ⟨call, -, all⟩
    · simp only [trials, none, List.getElem?_nil, reduceCtorEq] at first
    · simp only [trials, all] at first second ⊢
      exact Session.trials_last near sooner first second paused rests less

theorem busy_call_pauses_twice :
    let time := (Stage.busy.scene fun _ => .ok .anonymous).timeline _ rfl rfl
    let trials := Session.hasty.trialsOf time 9 ⟨.getJobs, [.null]⟩ false Stage.busy
    trials.map (·.pause) = [some (.ofSeconds 2), some (.ofSeconds 1)] ∧
      (∀ k trial, trials[k]? = some trial →
        trial.pause =
          if trial.isTransient = true ∧ trial.left time (.ofSeconds 4) Stage.busy ≠ .zero then
            some (min (Session.hasty.policy.delay (k + 1))
              (trial.left time (.ofSeconds 4) Stage.busy))
          else none) ∧
      trials.length = 2 := by
  intro time trials
  have pauses : trials.map (·.pause) = [some (.ofSeconds 2), some (.ofSeconds 1)] := by
    decide +kernel
  obtain ⟨-, formula, -, -, -, shorter⟩ := pauses_follow_the_policy time Session.hasty
    (by decide +kernel) 9 ⟨.getJobs, [.null]⟩ false Stage.busy
  have listed : ∀ (k : Nat) (pause : Option Duration),
      [some (Duration.ofSeconds 2), some (.ofSeconds 1)][k]? = some pause →
      ∃ trial : Trial Stage, trials[k]? = some trial ∧ trial.pause = pause := by
    intro k pause at_k
    rw [← pauses, List.getElem?_map, Option.map_eq_some_iff] at at_k
    exact at_k
  obtain ⟨first, begins, longer⟩ := listed 0 _ rfl
  obtain ⟨second, ends, short⟩ := listed 1 _ rfl
  exact ⟨pauses, formula,
    shorter 0 1 first second _ _ Nat.one_pos begins ends longer short (by decide +kernel)⟩

end SchedulerLink
