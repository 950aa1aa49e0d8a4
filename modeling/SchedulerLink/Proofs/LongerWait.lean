import SchedulerLink.Proofs.Ending
import SchedulerLink.Proofs.Timeless

/-!
A call that may take longer comes to the same.

Two runs go side by side, each with a deadline of its own. At every step the second has at least as
much time left as the first. The clocks of the two agree until a pause of the first is cut where one
of the second is not; the first run has no time left then, and says so in the end.
-/

namespace SchedulerLink

variable {σ α β γ δ : Type} {scene : Scene σ} {alike : σ → σ → Prop} {deadline longer : Deadline}

/-- States alike, where the second run has at least as much time left as the first one. The clocks
agree until the first has none left. -/
structure Ahead (scene : Scene σ) (alike : σ → σ → Prop) (deadline longer : Deadline)
    (one other : σ) : Prop where
  alike : alike one other
  time : deadline.remaining (scene.clock one) ≤ longer.remaining (scene.clock other)
  level : deadline.isExpired (scene.clock one) = true ∨ scene.clock one = scene.clock other

/-- After a pause in both: the same one, or all that was left in the first. -/
theorem Ahead.pause (timeless : scene.Timeless alike) {one other : σ} {short long : Duration}
    (ahead : Ahead scene alike deadline longer one other)
    (pauses : short = long ∨ deadline.remaining (scene.clock one) ≤ short) :
    Ahead scene alike deadline longer ((scene.surroundings.pause short).run one).2
      ((scene.surroundings.pause long).run other).2 := by
  have left := deadline.remaining_pause scene short one
  have beside := longer.remaining_pause scene long other
  have time := ahead.time
  rw [Duration.le_iff_nanos] at time
  refine ⟨timeless.pause _ _ ahead.alike, ?_, ?_⟩
  · rw [Duration.le_iff_nanos, left, beside]
    rcases pauses with rfl | all
    · omega
    · rw [Duration.le_iff_nanos] at all
      omega
  · simp only [Deadline.isExpired, decide_eq_true_eq, Duration.eq_zero_iff_nanos, left]
    rcases pauses with rfl | all
    · rcases ahead.level with expired | level
      · simp only [Deadline.isExpired, decide_eq_true_eq, Duration.eq_zero_iff_nanos] at expired
        omega
      · rw [scene.pause_clock, scene.pause_clock, level]
        exact .inr rfl
    · exact .inl (Nat.sub_eq_zero_of_le all)

theorem Duration.min_eq_min_or_le (interval : Duration) {left more : Duration} (less : left ≤ more) :
    min interval left = min interval more ∨ left ≤ min interval left := by
  rw [Duration.le_iff_nanos] at less
  rcases Nat.le_total interval.nanos left.nanos with short | all
  · apply Or.inl
    apply Duration.nanos_injective
    simp only [Duration.nanos_min]
    omega
  · apply Or.inr
    simp only [Duration.le_iff_nanos, Duration.nanos_min]
    omega

/-- Ends of two runs. Unless the first was cut short, or has come too late with such a result as
says so, their results are related and the second run is ahead. -/
inductive Outlasting (scene : Scene σ) (alike : σ → σ → Prop) (deadline longer : Deadline)
    (late : α → Prop) (related : α → β → Prop) :
    Except Halt α × σ → Except Halt β × σ → Prop where
  | halted {halt : Halt} {stop : σ} {ends : Except Halt β × σ} :
    Outlasting scene alike deadline longer late related (.error halt, stop) ends
  | late {value : α} {stop : σ} {ends : Except Halt β × σ} (tooLate : late value)
    (expired : deadline.isExpired (scene.clock stop) = true) :
    Outlasting scene alike deadline longer late related (.ok value, stop) ends
  | ended {value : α} {result : β} {one other : σ} (same : related value result)
    (ahead : Ahead scene alike deadline longer one other) :
    Outlasting scene alike deadline longer late related (.ok value, one) (.ok result, other)

namespace Outlasting

variable {late : α → Prop} {later : γ → Prop} {related : α → β → Prop} {last : γ → δ → Prop}
  {one other : σ}

theorem bind {first : Run (StateM σ) α} {second : Run (StateM σ) β} {next : α → Run (StateM σ) γ}
    {onward : β → Run (StateM σ) δ}
    (begins : Outlasting scene alike deadline longer late related (first.play one)
      (second.play other))
    (goes : ∀ value result middle beside, related value result →
      Ahead scene alike deadline longer middle beside →
        Outlasting scene alike deadline longer later last ((next value).play middle)
          ((onward result).play beside))
    (misses : ∀ value middle ends, late value →
      deadline.isExpired (scene.clock middle) = true →
        Outlasting scene alike deadline longer later last ((next value).play middle) ends) :
    Outlasting scene alike deadline longer later last ((first >>= next).play one)
      ((second >>= onward).play other) := by
  rw [Run.play_bind]
  generalize plays : first.play one = left at begins ⊢
  generalize runs : second.play other = right at begins
  cases begins with
  | halted => exact .halted
  | late tooLate expired => exact misses _ _ _ tooLate expired
  | ended same ahead =>
    rw [Run.play_bind_ok runs]
    exact goes _ _ _ _ same ahead

theorem common {program : Run (StateM σ) α} {next : α → Run (StateM σ) γ}
    {onward : α → Run (StateM σ) δ} (steady : scene.IsSteady alike program)
    (ahead : Ahead scene alike deadline longer one other)
    (goes : ∀ value middle beside, Ahead scene alike deadline longer middle beside →
      scene.clock middle = scene.clock one → scene.clock beside = scene.clock other →
        Outlasting scene alike deadline longer later last ((next value).play middle)
          ((onward value).play beside)) :
    Outlasting scene alike deadline longer later last ((program >>= next).play one)
      ((program >>= onward).play other) := by
  obtain ⟨outcome, middle, beside, plays, runs, same, still, stays⟩ := steady.plays ahead.alike
  obtain ⟨-, time, level⟩ := ahead
  rw [← still, ← stays] at time level
  cases outcome with
  | error halt =>
    rw [Run.play_bind_error plays]
    exact .halted
  | ok value =>
    rw [Run.play_bind_ok plays, Run.play_bind_ok runs]
    exact goes value middle beside ⟨same, time, level⟩ still stays

end Outlasting

/-! Connecting. -/

/-- How the windows for connecting of the two runs fit: the same time is left until they close, or
the first closes with its call and the second later than that. -/
inductive Windows (scene : Scene σ) (deadline longer window wider : Deadline) (one other : σ) :
    Prop where
  | equal (same : window.remaining (scene.clock one) = wider.remaining (scene.clock other))
  | cut (whole : window.expiry = deadline.expiry)
    (within : window.remaining (scene.clock one) ≤ wider.remaining (scene.clock other))
    (bounded : wider.expiry ≤ longer.expiry)

theorem Windows.still {window wider : Deadline} {one other middle beside : σ}
    (windows : Windows scene deadline longer window wider one other)
    (still : scene.clock middle = scene.clock one)
    (stays : scene.clock beside = scene.clock other) :
    Windows scene deadline longer window wider middle beside := by
  cases windows with
  | equal same =>
    rw [← still, ← stays] at same
    exact .equal same
  | cut whole within bounded =>
    rw [← still, ← stays] at within
    exact .cut whole within bounded

theorem Windows.of_capped {one other : σ} {wait : Duration} {window : Deadline}
    (ahead : Ahead scene alike deadline longer one other)
    (level : scene.clock one = scene.clock other)
    (capped : deadline.capped? (scene.clock one) wait = some window) : ∃ wider,
    longer.capped? (scene.clock other) wait = some wider ∧
      Windows scene deadline longer window wider one other := by
  have time := ahead.time
  obtain ⟨inReach, rfl⟩ := Deadline.capped?_eq_some.mp capped
  refine ⟨_, Deadline.capped?_eq_some.mpr ⟨level ▸ inReach, rfl⟩, ?_⟩
  rw [Duration.le_iff_nanos] at time
  simp only [Deadline.remaining, Duration.nanos_sub] at time
  by_cases cut : deadline.expiry.nanos ≤ (scene.clock one).nanos + wait.nanos
  · have whole : min deadline.expiry (scene.clock one + wait) = deadline.expiry :=
      Duration.nanos_injective (Nat.min_eq_left cut)
    refine .cut whole ?_ (Duration.le_iff_nanos.mpr (Nat.min_le_left _ _))
    simp only [Duration.le_iff_nanos, Deadline.remaining, Duration.nanos_sub, Duration.nanos_min,
      Duration.nanos_add]
    omega
  · apply Windows.equal
    apply Duration.nanos_injective
    simp only [Deadline.remaining, Duration.nanos_sub, Duration.nanos_min, Duration.nanos_add]
    omega

theorem Windows.pause (timeless : scene.Timeless alike) {window wider : Deadline} {one other : σ}
    (windows : Windows scene deadline longer window wider one other)
    (ahead : Ahead scene alike deadline longer one other) (interval : Duration) :
    let next := ((scene.surroundings.pause
      (min interval (window.remaining (scene.clock one)))).run one).2
    let beside := ((scene.surroundings.pause
      (min interval (wider.remaining (scene.clock other)))).run other).2
    Windows scene deadline longer window wider next beside ∧
      Ahead scene alike deadline longer next beside := by
  intro next beside
  have paused := window.remaining_pause scene
    (min interval (window.remaining (scene.clock one))) one
  have waited := wider.remaining_pause scene
    (min interval (wider.remaining (scene.clock other))) other
  rw [Duration.nanos_min] at paused waited
  cases windows with
  | equal same =>
    refine ⟨.equal (Duration.nanos_injective ?_), ahead.pause timeless (.inl (by rw [same]))⟩
    rw [paused, waited, same]
  | cut whole within bounded =>
    have all : deadline.remaining (scene.clock one) = window.remaining (scene.clock one) := by
      rw [Deadline.remaining, Deadline.remaining, whole]
    refine ⟨.cut whole ?_ bounded, ahead.pause timeless ?_⟩
    · rw [Duration.le_iff_nanos] at within ⊢
      rw [paused, waited]
      omega
    · rw [all]
      exact Duration.min_eq_min_or_le interval within

def IsBelated (result : Except LinkFailure α) : Prop :=
  ∃ uri attempts reason, result = .error (.connectTimeout uri attempts reason)

/-- What both runs decide after a failure: the same, unless the first has no time left. -/
theorem Windows.verdict {window wider : Deadline} {one other : σ}
    (windows : Windows scene deadline longer window wider one other) (options : LinkOptions)
    (uri : String) (attempts : Nat) (failure : ChannelFailure) :
    let decides (limit : Deadline) (state : σ) :=
      Connect.verdict options uri (some limit) attempts failure false (scene.clock state)
    (∃ reason, decides window one = .error reason ∧ decides wider other = .error reason) ∨
      (∃ reason, decides window one = .error (.connectTimeout uri attempts reason) ∧
        deadline.isExpired (scene.clock one) = true) ∨
      decides window one =
          .ok (min options.connectInterval (window.remaining (scene.clock one))) ∧
        decides wider other =
          .ok (min options.connectInterval (wider.remaining (scene.clock other))) := by
  intro decides
  simp only [decides, Connect.verdict]
  by_cases network : (!failure.isNetwork) = true
  · simp only [if_pos network]
    exact .inl ⟨_, rfl, rfl⟩
  by_cases enough : options.connectAttempts.any (· ≤ attempts) = true
  · simp only [if_neg network, if_pos enough]
    exact .inl ⟨_, rfl, rfl⟩
  simp only [if_neg network, if_neg enough, Bool.false_eq_true, ↓reduceIte]
  cases windows with
  | equal left =>
    by_cases spent : window.remaining (scene.clock one) = .zero
    · rw [left] at spent
      simp only [left, if_pos spent]
      exact .inl ⟨_, rfl, rfl⟩
    · rw [left] at spent
      simp only [left, if_neg spent]
      exact .inr (.inr ⟨trivial, trivial⟩)
  | cut whole within bounded =>
    by_cases spent : window.remaining (scene.clock one) = .zero
    · have expired : deadline.isExpired (scene.clock one) = true := by
        rw [Deadline.isExpired, decide_eq_true_eq, Deadline.remaining, ← whole]
        exact spent
      simp only [if_pos spent]
      exact .inr (.inl ⟨_, rfl, expired⟩)
    · have open' : ¬wider.remaining (scene.clock other) = .zero := by
        rw [Duration.eq_zero_iff_nanos] at spent ⊢
        rw [Duration.le_iff_nanos] at within
        omega
      simp only [if_neg spent, if_neg open']
      exact .inr (.inr ⟨trivial, trivial⟩)

namespace Connect

theorem openUntil_outlasts (timeless : scene.Timeless alike) (options : LinkOptions) (uri : String)
    {window wider : Deadline} (channel fuel failed : Nat) {one other : σ}
    (ahead : Ahead scene alike deadline longer one other)
    (windows : Windows scene deadline longer window wider one other) :
    Outlasting scene alike deadline longer IsBelated Eq
      ((openUntil scene.surroundings options uri (some window) channel fuel failed).play one)
      ((openUntil scene.surroundings options uri (some wider) channel fuel failed).play other) := by
  -- Both make the same attempts until the first is too late.
  induction fuel generalizing failed one other with
  | zero => exact .halted
  | succ fuel ih =>
    apply Outlasting.common (timeless.open_steady channel) ahead
    rintro (failure | _) middle beside ahead still stays
    · have windows := windows.still still stays
      simp only [Run.play_bind, pauseAfter_play, timeless.running]
      rcases windows.verdict options uri (failed + 1) failure with
        ⟨reason, decided, beside⟩ | ⟨reason, decided, expired⟩ | ⟨decided, beside⟩
      · simp only [decided, beside]
        exact .ended rfl ahead
      · simp only [decided]
        exact .late ⟨_, _, _, rfl⟩ expired
      · simp only [decided, beside, Run.play_bind, Run.play_lift]
        obtain ⟨windows, ahead⟩ := windows.pause timeless ahead options.connectInterval
        exact ih (failed + 1) ahead windows
    · exact .ended rfl ahead

theorem openChannel_outlasts (timeless : scene.Timeless alike) (fuel : Nat) (options : LinkOptions)
    (login : Login) (uri : String) {window wider : Deadline} {one other : σ}
    (ahead : Ahead scene alike deadline longer one other)
    (windows : Windows scene deadline longer window wider one other) :
    Outlasting scene alike deadline longer IsBelated Eq
      ((openChannel scene.surroundings fuel options login uri (some window)).play one)
      ((openChannel scene.surroundings fuel options login uri (some wider)).play other) := by
  apply Outlasting.common (timeless.create_steady _ _) ahead
  intro channel middle beside ahead still stays
  apply (openUntil_outlasts timeless options uri channel fuel 0 ahead
    (windows.still still stays)).bind
  · rintro result _ middle beside rfl ahead
    exact .ended rfl ahead
  · rintro _ middle ends ⟨uri, attempts, reason, rfl⟩ expired
    exact .late ⟨uri, attempts, reason, rfl⟩ expired

end Connect

namespace Link

theorem connectTo_outlasts (timeless : scene.Timeless alike) (fuel : Nat) (link : Link Nat)
    (base : String) {one other : σ} (ahead : Ahead scene alike deadline longer one other)
    (level : scene.clock one = scene.clock other) :
    Outlasting scene alike deadline longer (fun result => IsBelated result.1) Eq
      ((link.connectTo scene.surroundings fuel (some deadline) base).play one)
      ((link.connectTo scene.surroundings fuel (some longer) base).play other) := by
  unfold connectTo
  cases Connect.interfaceUri base with
  | error failure => exact .ended rfl ahead
  | ok uri =>
    have opens := link.connectDeadline_play scene (some deadline) one
    have widens := link.connectDeadline_play scene (some longer) other
    simp only [window?] at opens widens
    cases capped : deadline.capped? (scene.clock one) link.options.connectWait with
    | none =>
      rw [capped] at opens
      rw [Run.play_bind_error opens]
      exact .halted
    | some window =>
      obtain ⟨wider, capped', windows⟩ := Windows.of_capped ahead level capped
      rw [capped] at opens
      rw [capped'] at widens
      rw [Run.play_bind_ok opens, Run.play_bind_ok widens]
      apply (Connect.openChannel_outlasts timeless fuel link.options link.login uri ahead
        windows).bind
      · rintro (failure | channel) _ middle beside rfl ahead
        · exact .ended rfl ahead
        · apply Outlasting.common (timeless.adopt_steady channel) ahead
          intro _ middle beside ahead _ _
          exact .ended rfl ahead
      · rintro _ middle ends ⟨uri, attempts, reason, rfl⟩ expired
        exact .late ⟨uri, attempts, reason, rfl⟩ expired

theorem connect_outlasts (timeless : scene.Timeless alike) (fuel : Nat) (link : Link Nat)
    {one other : σ} (ahead : Ahead scene alike deadline longer one other)
    (level : scene.clock one = scene.clock other) :
    Outlasting scene alike deadline longer (fun result => IsBelated result.1) Eq
      ((link.connect scene.surroundings fuel (some deadline)).play one)
      ((link.connect scene.surroundings fuel (some longer)).play other) := by
  unfold connect
  cases link.connection with
  | some connection => exact .ended rfl ahead
  | none =>
    apply Outlasting.common (link.locator.rawUrl_steady timeless) ahead
    rintro ⟨failure | base, locator⟩ middle beside ahead still stays
    · exact .ended rfl ahead
    · rw [← still, ← stays] at level
      exact connectTo_outlasts timeless fuel _ base ahead level

end Link

/-! Attempts. -/

def PendingCall.until (call : PendingCall) (deadline : Deadline) : PendingCall :=
  { call with deadline }

namespace Session

def waitingFor (session : Session Nat) (longestWait : Duration) : Session Nat :=
  { session with policy := { session.policy with longestWait } }

/-- The same answer, and sessions that differ in how long their calls may take. -/
def Matches (wait : Duration) (one other : α × Session Nat) : Prop :=
  other = (one.1, one.2.waitingFor wait)

def IsPassing (result : Attempt × Session Nat) : Prop := ∃ reason, result.1 = .transient reason

variable {call : PendingCall} {session : Session Nat} {wait : Duration} {one other : σ}

theorem invalidate_outlasts (timeless : scene.Timeless alike) (wait : Duration)
    (session : Session Nat) (ahead : Ahead scene alike deadline longer one other) :
    Outlasting scene alike deadline longer (fun _ => False)
      (fun before after => after = before.waitingFor wait)
      ((session.invalidate scene.surroundings).play one)
      (((session.waitingFor wait).invalidate scene.surroundings).play other) := by
  obtain ⟨cluster, options, policy, link⟩ := session
  cases link with
  | none => exact .ended rfl ahead
  | some link =>
    apply Outlasting.common (link.invalidate_steady timeless) ahead
    intro after middle beside ahead _ _
    exact .ended rfl ahead

theorem discard_outlasts (timeless : scene.Timeless alike) (wait : Duration)
    (session : Session Nat) (ahead : Ahead scene alike deadline longer one other) :
    Outlasting scene alike deadline longer (fun _ => False)
      (fun before after => after = before.waitingFor wait)
      ((session.discard scene.surroundings).play one)
      (((session.waitingFor wait).discard scene.surroundings).play other) := by
  obtain ⟨cluster, options, policy, link⟩ := session
  cases link with
  | none => exact .ended rfl ahead
  | some link =>
    apply Outlasting.common (link.close_steady timeless) ahead
    intro after middle beside ahead _ _
    exact .ended rfl ahead

theorem withoutConnection_outlasts (timeless : scene.Timeless alike) (call : PendingCall)
    (wait : Duration) (session : Session Nat) (failure : LinkFailure)
    (ahead : Ahead scene alike deadline longer one other) :
    Outlasting scene alike deadline longer IsPassing (Matches wait)
      ((withoutConnection scene.surroundings call session failure).play one)
      ((withoutConnection scene.surroundings (call.until longer) (session.waitingFor wait)
        failure).play other) := by
  have final : ∀ reason : LinkFailure, Outlasting scene alike deadline longer IsPassing
      (Matches wait)
      (Run.play (do
        let after ← session.discard scene.surroundings
        pure (Attempt.finished (.error (.unreachable call.method after.cluster.name reason)),
          after)) one)
      (Run.play (do
        let after ← (session.waitingFor wait).discard scene.surroundings
        pure (Attempt.finished (.error (.unreachable call.method after.cluster.name reason)),
          after)) other) := by
    intro reason
    apply (discard_outlasts timeless wait session ahead).bind
    · rintro after _ middle beside rfl ahead
      exact .ended rfl ahead
    · exact fun _ _ _ impossible => impossible.elim
  cases failure with
  | interrupted uri => exact .ended rfl ahead
  | connectTimeout uri attempts reason =>
    apply (invalidate_outlasts timeless wait session ahead).bind
    · rintro after _ middle beside rfl ahead
      exact .ended rfl ahead
    · exact fun _ _ _ impossible => impossible.elim
  | configuration detail => exact final _
  | noScheduler cluster waited => exact final _
  | discovery cluster failure => exact final _
  | notConnected uri reason => exact final _

theorem withoutConnection_late (call : PendingCall) (session : Session Nat) (link : Link Nat)
    (uri : String) (attempts : Nat) (reason : String) {middle : σ}
    {ends : Except Halt (Attempt × Session Nat) × σ}
    (expired : deadline.isExpired (scene.clock middle) = true) :
    Outlasting scene alike deadline longer IsPassing (Matches wait)
      ((withoutConnection scene.surroundings call { session with link := some link }
        (.connectTimeout uri attempts reason)).play middle) ends := by
  obtain ⟨_, stop, releasing, invalidates⟩ :=
    invalidate_play scene { session with link := some link } rfl middle
  rw [← releasing.still] at expired
  have plays : (withoutConnection scene.surroundings call { session with link := some link }
      (.connectTimeout uri attempts reason)).play middle = _ := Run.play_bind_ok invalidates
  rw [plays]
  exact .late ⟨_, rfl⟩ expired

theorem withResult_outlasts (timeless : scene.Timeless alike) (call : PendingCall)
    (wait : Duration) (session : Session Nat) (advice : String)
    (result : Except CallFailure Response) (ahead : Ahead scene alike deadline longer one other) :
    Outlasting scene alike deadline longer IsPassing (Matches wait)
      ((withResult scene.surroundings call session advice result).play one)
      ((withResult scene.surroundings (call.until longer) (session.waitingFor wait) advice
        result).play other) := by
  have final : ∀ attempt : Attempt, Outlasting scene alike deadline longer IsPassing
      (Matches wait)
      (Run.play (do
        let after ← session.invalidate scene.surroundings
        pure (attempt, after)) one)
      (Run.play (do
        let after ← (session.waitingFor wait).invalidate scene.surroundings
        pure (attempt, after)) other) := by
    intro attempt
    apply (invalidate_outlasts timeless wait session ahead).bind
    · rintro after _ middle beside rfl ahead
      exact .ended rfl ahead
    · exact fun _ _ _ impossible => impossible.elim
  unfold withResult PendingCall.until
  cases Outcome.ofResult result call.repeatable with
  | success response => exact .ended rfl ahead
  | transient reason => exact final _
  | refused reason => exact final _
  | permanent failure =>
    cases failure with
    | channel failure => exact final _
    | protocol fault => exact final _
    | application kind detail => exact final _

theorem attempt_outlasts (timeless : scene.Timeless alike) (fuel : Nat) (call : PendingCall)
    (wait : Duration) (session : Session Nat)
    (ahead : Ahead scene alike call.deadline longer one other)
    (level : scene.clock one = scene.clock other) :
    Outlasting scene alike call.deadline longer IsPassing (Matches wait)
      ((session.attempt scene.surroundings fuel call).play one)
      (((session.waitingFor wait).attempt scene.surroundings fuel (call.until longer)).play
        other) := by
  have same : (session.waitingFor wait).linkOf scene.surroundings =
      session.linkOf scene.surroundings := rfl
  unfold attempt
  rw [same]
  cases session.linkOf scene.surroundings with
  | error failure => exact withoutConnection_outlasts timeless call wait session failure ahead
  | ok link =>
    apply (Link.connect_outlasts timeless fuel link ahead level).bind
    · rintro ⟨failure | connection, ready⟩ _ middle beside rfl ahead
      · exact withoutConnection_outlasts timeless call wait _ failure ahead
      · apply Outlasting.common (ready.send_steady timeless _ _ _) ahead
        rintro ⟨result, sent⟩ middle beside ahead _ _
        exact withResult_outlasts timeless call wait _ _ result ahead
    · rintro ⟨_, idle⟩ middle ends ⟨uri, attempts, reason, rfl⟩ expired
      exact withoutConnection_late call session idle uri attempts reason expired

/-! Whole calls. -/

def IsOverdue (result : Except SessionFailure Response × Session Nat) : Prop :=
  ∃ method cluster lastError, result.1 = .error (.timedOut method cluster lastError)

theorem attempts_overdue (running : ∀ state, scene.stopping state = false) (fuel made : Nat)
    (lastError : String) (session : Session Nat) {middle : σ}
    {ends : Except Halt (Except SessionFailure Response × Session Nat) × σ} (tried : 0 < made)
    (expired : call.deadline.isExpired (scene.clock middle) = true) :
    Outlasting scene alike call.deadline longer IsOverdue (Matches wait)
      ((session.attempts scene.surroundings call fuel made lastError).play middle) ends := by
  cases fuel with
  | zero => exact .halted
  | succ fuel =>
    rw [attempts_play_late (Bool.eq_false_iff.mp (running middle)) tried expired]
    exact .late ⟨_, _, _, rfl⟩ expired

theorem rested_ahead (timeless : scene.Timeless alike) (session : Session Nat) (made : Nat)
    (ahead : Ahead scene alike call.deadline longer one other)
    (inTime : call.deadline.isExpired (scene.clock one) = false) :
    Ahead scene alike call.deadline longer (session.rested scene call made one)
      ((session.waitingFor wait).rested scene (call.until longer) made other) := by
  rw [Deadline.isExpired, decide_eq_false_iff_not] at inTime
  have left : ¬(call.until longer).deadline.remaining (scene.clock other) = .zero := by
    have time := ahead.time
    rw [Duration.le_iff_nanos] at time
    rw [Duration.eq_zero_iff_nanos] at inTime ⊢
    change ¬(longer.remaining (scene.clock other)).nanos = 0
    omega
  rw [rested, rested, Policy.pause?_eq_some.mpr ⟨inTime, rfl⟩, Policy.pause?_eq_some.mpr ⟨left, rfl⟩]
  exact ahead.pause timeless (Duration.min_eq_min_or_le _ ahead.time)

theorem attempts_outlasts (timeless : scene.Timeless alike) (call : PendingCall) (wait : Duration)
    (fuel made : Nat) (lastError : String) (session : Session Nat)
    (ahead : Ahead scene alike call.deadline longer one other)
    (starts : made = 0 → scene.clock one = scene.clock other) :
    Outlasting scene alike call.deadline longer IsOverdue (Matches wait)
      ((session.attempts scene.surroundings call fuel made lastError).play one)
      (((session.waitingFor wait).attempts scene.surroundings (call.until longer) fuel made
        lastError).play other) := by
  -- Each round begins at the same instant in both runs, unless the first run is over.
  induction fuel generalizing made lastError session one other with
  | zero => exact .halted
  | succ fuel ih =>
    by_cases late : 0 < made ∧ call.deadline.isExpired (scene.clock one) = true
    · exact attempts_overdue timeless.running _ _ _ _ late.1 late.2
    have begun : ¬(scene.stopping one = true ∨
        0 < made ∧ call.deadline.isExpired (scene.clock one) = true) := by
      simpa only [timeless.running, Bool.false_eq_true, false_or] using late
    -- The second run has at least as much time left, so it goes on whenever the first does.
    have begun' : ¬(scene.stopping other = true ∨
        0 < made ∧ (call.until longer).deadline.isExpired (scene.clock other) = true) := by
      have time := ahead.time
      simp only [timeless.running, Bool.false_eq_true, false_or, Deadline.isExpired,
        decide_eq_true_eq, Duration.eq_zero_iff_nanos, PendingCall.until] at late ⊢
      rw [Duration.le_iff_nanos] at time
      omega
    have level : scene.clock one = scene.clock other := by
      rcases Nat.eq_zero_or_pos made with new | tried
      · exact starts new
      · exact ahead.level.resolve_left (fun expired => late ⟨tried, expired⟩)
    rw [attempts_play_begun begun, attempts_play_begun begun']
    have attempt := attempt_outlasts timeless fuel call wait session ahead level
    generalize (session.attempt scene.surroundings fuel call).play one = left at attempt ⊢
    generalize ((session.waitingFor wait).attempt scene.surroundings fuel
      (call.until longer)).play other = right at attempt ⊢
    cases attempt with
    | halted => exact .halted
    | @late result middle _ passing expired =>
      obtain ⟨attempt, after⟩ := result
      obtain ⟨reason, rfl⟩ := passing
      have spent := Deadline.expiry_le_of_isExpired expired
      simp only [rested_late spent]
      exact attempts_overdue timeless.running _ _ _ _ (Nat.succ_pos made) expired
    | @ended result _ middle beside same ahead =>
      obtain ⟨attempt, after⟩ := result
      cases same
      cases attempt with
      | finished result => exact .ended rfl ahead
      | interrupted => exact ih (made + 1) lastError after ahead fun none => absurd none made.succ_ne_zero
      | transient reason =>
        cases expired : call.deadline.isExpired (scene.clock middle) with
        | true =>
          have spent := Deadline.expiry_le_of_isExpired expired
          simp only [rested_late spent]
          exact attempts_overdue timeless.running _ _ _ _ (Nat.succ_pos made) expired
        | false =>
          exact ih (made + 1) reason after
            (rested_ahead timeless after (made + 1) ahead expired)
            fun none => absurd none made.succ_ne_zero

/-- A call that does not take too long, and one that may take longer. -/
theorem invoke_outlasts (timeless : scene.Timeless alike) (fuel : Nat) (session : Session Nat)
    (request : Request) (repeatable : Bool) {state stop : σ}
    (within : session.policy.longestWait ≤ wait)
    (inReach : Deadline.InReach (scene.clock state) wait)
    {result : Except SessionFailure Response} {after : Session Nat}
    (ends : (session.invoke scene.surroundings fuel request repeatable).play state =
      (.ok (result, after), stop))
    (inTime : ¬IsOverdue (result, after)) : ∃ beside,
      ((session.waitingFor wait).invoke scene.surroundings fuel request repeatable).play state =
        (.ok (result, after.waitingFor wait), beside) ∧ alike stop beside := by
  rw [invoke_play] at ends ⊢
  cases fits : request.method.signature.fit request.arguments with
  | error error =>
    rw [fits] at ends
    cases ends
    exact ⟨state, rfl, timeless.refl state⟩
  | ok arguments =>
    simp only [fits] at ends ⊢
    cases begins : Deadline.after? (scene.clock state) session.policy.longestWait with
    | none =>
      rw [begins] at ends
      cases ends
    | some deadline =>
      have reaches : Deadline.after? (scene.clock state)
          (session.waitingFor wait).policy.longestWait = some ⟨scene.clock state + wait⟩ :=
        Deadline.after?_eq_some.mpr ⟨inReach, rfl⟩
      have ahead : Ahead scene alike deadline ⟨scene.clock state + wait⟩ state state := by
        refine ⟨timeless.refl state, ?_, .inr rfl⟩
        rw [Deadline.remaining_of_after? begins, Deadline.remaining_of_after? reaches]
        exact within
      have outlasts := attempts_outlasts timeless
        ⟨request.method, arguments, repeatable, deadline⟩ wait fuel 0 "" session ahead
        (fun _ => rfl)
      simp only [begins] at ends
      simp only [reaches]
      rw [ends] at outlasts
      generalize runs : ((session.waitingFor wait).attempts scene.surroundings _ fuel 0 "").play
        state = right at outlasts
      cases outlasts with
      | late overdue _ => exact absurd overdue inTime
      | ended same ahead =>
        cases same
        exact ⟨_, runs, ahead.alike⟩

end Session

/-- Where the time makes no difference, a call that does not take too long comes to the same if it
may take longer: with the same lookups, channels, attempts to open them and calls in the same
order, and the same session but for the time that was allowed. -/
theorem longer_wait_keeps_result (scene : Scene σ) (alike : σ → σ → Prop)
    (timeless : scene.Timeless alike) (session : Session Nat) (wait : Duration)
    (within : session.policy.longestWait ≤ wait) (fuel : Nat) (request : Request)
    (repeatable : Bool) (state : σ) (inReach : Deadline.InReach (scene.clock state) wait)
    (result : Except SessionFailure Response) (after : Session Nat) :
    let performed :=
      scene.perform (session.invoke scene.surroundings fuel request repeatable) state
    let longer := scene.perform
      ((session.waitingFor wait).invoke scene.surroundings fuel request repeatable) state
    performed.outcome = .ok (result, after) →
      (∀ method cluster lastError, result ≠ .error (.timedOut method cluster lastError)) →
        longer.outcome = .ok (result, after.waitingFor wait) ∧
          longer.done.deeds = performed.done.deeds := by
  intro performed longer ended inTime
  have ends : (session.invoke scene.surroundings fuel request repeatable).play state =
      (.ok (result, after), performed.stop) := Prod.ext ended rfl
  obtain ⟨beside, runs, same⟩ := session.invoke_outlasts timeless fuel request repeatable within
    inReach ends (fun ⟨method, cluster, lastError, late⟩ => inTime method cluster lastError late)
  have outcome : longer.outcome = .ok (result, after.waitingFor wait) := congrArg Prod.fst runs
  have stop : longer.stop = beside := congrArg Prod.snd runs
  have one := (Invoking.of_invoke scene fuel session request repeatable state).passes.log
  have other :=
    (Invoking.of_invoke scene fuel (session.waitingFor wait) request repeatable state).passes.log
  have deeds : (scene.log performed.stop).deeds = (scene.log longer.stop).deeds := by
    rw [stop]
    exact timeless.deeds same
  refine ⟨outcome, ?_⟩
  rw [one, other, Log.deeds_append, Log.deeds_append] at deeds
  exact (List.append_cancel_left deeds).symm

def Script.waking : Script where
  hasRegistry := false
  login _ := .ok .anonymous
  lookups _ := .ok []
  opens attempt := if attempt = 0 then .error (.notOpen "refused") else .ok ()
  answers call := if call = 0 then .ok (.transient ["busy"]) else .ok (.ofCode .ok)

/-- Three of four seconds are enough for two calls, so a minute changes nothing. -/
theorem waking_scheduler_answers_in_four_seconds :
    let scene := Script.waking.scene
    let performed := scene.perform
      (Session.hasty.invoke scene.surroundings 9 ⟨.getJobs, [.null]⟩ false) []
    let longer := scene.perform ((Session.hasty.waitingFor (.ofSeconds 60)).invoke
      scene.surroundings 9 ⟨.getJobs, [.null]⟩ false) []
    ∃ response after, performed.outcome = .ok (.ok response, after) ∧
      performed.done.calls.length = 2 ∧
      longer.outcome = .ok (.ok response, after.waitingFor (.ofSeconds 60)) ∧
      longer.done.deeds = performed.done.deeds := by
  intro scene performed longer
  have answers : performed.response?.isSome = true := by
    decide +kernel
  obtain ⟨response, answers⟩ := Option.isSome_iff_exists.mp answers
  obtain ⟨after, ended⟩ := Performance.response?_eq_some.mp answers
  exact ⟨response, after, ended, by decide +kernel,
    longer_wait_keeps_result scene _ Script.waking.timeless Session.hasty (.ofSeconds 60)
      (by decide) 9 ⟨.getJobs, [.null]⟩ false [] (by decide) (.ok response) after ended nofun⟩

end SchedulerLink
