import SchedulerLink.Proofs.Restart

/-!
When a call is cut short.

The steps that a call may take are limited, because nothing in its definition says that it ends.
Between any two of its steps there is a pause, unless the call is over with the second. So a call
that has used up its steps has paused as many times but one, and nobody who allows more steps than
there are pauses will see it.
-/

namespace SchedulerLink

variable {σ : Type} {scene : Scene σ}

@[simp] theorem Log.pauses_append (one other : Log) :
    pauses (one ++ other) = one.pauses ++ other.pauses := List.filterMap_append

def Entry.Halts (halt : Halt) : Entry → Prop
  | .lookedUp _ _ answer => answer = .error halt
  | .called _ _ _ _ answer => answer = .error halt
  | _ => False

/-- Why something is cut short that did the entries `done` and was allowed so many pauses. -/
inductive CutShort (allowed : Nat) (done : Log) : Halt → Prop where
  | spent (paused : allowed ≤ done.pauses.length) : CutShort allowed done .unfinished
  | overflow : CutShort allowed done .overflow
  | last {halt : Halt} {entry : Entry} (last : done.getLast? = some entry)
    (halts : entry.Halts halt) : CutShort allowed done halt

namespace CutShort

variable {allowed : Nat} {done : Log} {halt : Halt}

theorem after (before : Log) (short : CutShort allowed done halt) :
    CutShort (before.pauses.length + allowed) (before ++ done) halt := by
  cases short with
  | spent paused =>
    apply spent
    rw [Log.pauses_append, List.length_append]
    omega
  | overflow => exact .overflow
  | last last halts =>
    refine .last ?_ halts
    rw [List.getLast?_append, last, Option.some_or]

theorem mono {less : Nat} (within : less ≤ allowed) (short : CutShort allowed done halt) :
    CutShort less done halt := by
  cases short with
  | spent paused => exact .spent (Nat.le_trans within paused)
  | overflow => exact .overflow
  | last last halts => exact .last last halts

end CutShort

theorem Connect.openUntil_cutShort (options : LinkOptions) (uri : String)
    (limit : Option Deadline) (channel fuel failed : Nat) {state stop : σ} {halt : Halt}
    (halts : (openUntil scene.surroundings options uri limit channel fuel failed).play state =
      (.error halt, stop)) :
    ∃ done, scene.Passes state done stop ∧ CutShort fuel done halt := by
  -- Each step that is used up has made a pause.
  induction fuel generalizing failed state with
  | zero =>
    cases halts
    exact ⟨[], .refl scene _, .spent (Nat.le_refl 0)⟩
  | succ fuel ih =>
    rw [openUntil, Run.play_bind, Run.play_lift] at halts
    rcases opens : (scene.surroundings.openChannel channel).run state with ⟨failure | _, next⟩
    all_goals
      rw [opens] at halts
    · simp only [Run.play_bind, pauseAfter_play] at halts
      cases verdict : verdict options uri limit (failed + 1) failure (scene.stopping next)
        (scene.clock next) with
      | error reason =>
        rw [verdict] at halts
        cases halts
      | ok pause =>
        simp only [verdict, Run.play_bind, Run.play_lift] at halts
        obtain ⟨rest, passes, short⟩ := ih (failed + 1) halts
        have passed := (Scene.open_passes opens).trans (scene.pause_passes pause next)
        refine ⟨_, passed.trans passes, (short.after _).mono ?_⟩
        rw [Nat.add_comm fuel 1]
        exact Nat.le_refl _
    · cases halts

theorem Locating.cutShort {locator : Locator} {state stop : σ} {done : Log} {halt : Halt}
    (locating : Locating scene state locator done (.error halt) stop) (allowed : Nat) :
    CutShort allowed done halt := by
  cases locating with
  | halted _ _ => exact .last rfl rfl

namespace Link

theorem connectTo_cutShort (fuel : Nat) (limit : Option Deadline) (link : Link Nat) (base : String)
    {state stop : σ} {halt : Halt}
    (halts : (link.connectTo scene.surroundings fuel limit base).play state =
      (.error halt, stop)) :
    ∃ done, scene.Passes state done stop ∧ CutShort fuel done halt := by
  unfold connectTo at halts
  cases address : Connect.interfaceUri base with
  | error failure =>
    rw [address] at halts
    cases halts
  | ok uri =>
    simp only [address, Run.play_bind, connectDeadline_play] at halts
    cases inTime : link.window? (scene.clock state) limit with
    | none =>
      rw [inTime] at halts
      cases halts
      exact ⟨[], .refl scene state, .overflow⟩
    | some window =>
      simp only [inTime, Connect.openChannel, Run.play_bind, Run.play_lift] at halts
      rcases creates : (scene.surroundings.create uri link.setup).run state with ⟨channel, next⟩
      rw [setup] at creates
      simp only [creates] at halts
      rcases opens : (Connect.openUntil scene.surroundings link.options uri window channel fuel
        0).play next with ⟨cut | failure | _, last⟩
      all_goals
        simp only [opens] at halts
        cases halts
      obtain ⟨tried, passes, short⟩ :=
        Connect.openUntil_cutShort link.options uri window channel fuel 0 opens
      refine ⟨_, (Scene.create_passes creates).trans passes, (short.after _).mono ?_⟩
      exact Nat.le_add_left _ _

theorem connect_cutShort (fuel : Nat) (limit : Option Deadline) (link : Link Nat) {state stop : σ}
    {halt : Halt}
    (halts : (link.connect scene.surroundings fuel limit).play state = (.error halt, stop)) :
    ∃ done, scene.Passes state done stop ∧ CutShort fuel done halt := by
  unfold connect at halts
  cases holds : link.connection with
  | some connection =>
    rw [holds] at halts
    cases halts
  | none =>
    obtain ⟨done, locating⟩ := Locating.of_rawUrl scene link.locator state
    simp only [holds, Run.play_bind] at halts
    rcases located : (link.locator.rawUrl scene.surroundings).play state with
      ⟨cut | ⟨failure | base, locator⟩, middle⟩
    all_goals
      rw [located] at locating
      simp only [located] at halts
    · cases halts
      exact ⟨done, locating.passes, locating.cutShort fuel⟩
    · cases halts
    · obtain ⟨more, passes, short⟩ := connectTo_cutShort fuel limit _ base halts
      refine ⟨_, locating.passes.trans passes, (short.after done).mono ?_⟩
      exact Nat.le_add_left _ _

end Link

namespace Session

theorem invalidate_ends (scene : Scene σ) (session : Session Nat) (state : σ) : ∃ after stop,
    (session.invalidate scene.surroundings).play state = (.ok after, stop) := by
  cases has : session.link with
  | none =>
    rw [invalidate, has]
    exact ⟨_, _, rfl⟩
  | some link =>
    obtain ⟨_, stop, _, invalidates⟩ := session.invalidate_play scene has state
    exact ⟨_, stop, invalidates⟩

theorem withoutConnection_ends (scene : Scene σ) (call : PendingCall) (session : Session Nat)
    (failure : LinkFailure) (state : σ) : ∃ result stop,
    (withoutConnection scene.surroundings call session failure).play state =
      (.ok result, stop) := by
  obtain ⟨_, _, invalidates⟩ := session.invalidate_ends scene state
  obtain ⟨_, _, _, discards⟩ := session.discard_play scene state
  cases failure with
  | interrupted uri => exact ⟨_, _, rfl⟩
  | connectTimeout uri attempts reason => exact ⟨_, _, Run.play_bind_ok invalidates⟩
  | configuration detail => exact ⟨_, _, Run.play_bind_ok discards⟩
  | noScheduler cluster waited => exact ⟨_, _, Run.play_bind_ok discards⟩
  | discovery cluster failure => exact ⟨_, _, Run.play_bind_ok discards⟩
  | notConnected uri reason => exact ⟨_, _, Run.play_bind_ok discards⟩

theorem withResult_ends (scene : Scene σ) (call : PendingCall) (session : Session Nat)
    (advice : String) (result : Except CallFailure Response) (state : σ) : ∃ value stop,
    (withResult scene.surroundings call session advice result).play state = (.ok value, stop) := by
  obtain ⟨_, _, invalidates⟩ := session.invalidate_ends scene state
  unfold withResult
  cases Outcome.ofResult result call.repeatable with
  | success response => exact ⟨_, _, rfl⟩
  | transient reason => exact ⟨_, _, Run.play_bind_ok invalidates⟩
  | refused reason => exact ⟨_, _, Run.play_bind_ok invalidates⟩
  | permanent failure =>
    cases failure with
    | channel failure => exact ⟨_, _, Run.play_bind_ok invalidates⟩
    | protocol fault => exact ⟨_, _, Run.play_bind_ok invalidates⟩
    | application kind detail => exact ⟨_, _, Run.play_bind_ok invalidates⟩

/-- An attempt is cut short while it connects or by the call itself. -/
theorem attempt_cutShort (fuel : Nat) (call : PendingCall) (session : Session Nat) {state stop : σ}
    {halt : Halt}
    (halts : (session.attempt scene.surroundings fuel call).play state = (.error halt, stop)) :
    ∃ done, scene.Passes state done stop ∧ CutShort fuel done halt := by
  have never : ∀ {α : Type} {program : Run (StateM σ) α} {middle : σ},
      (∃ value last, program.play middle = (.ok value, last)) →
      program.play middle ≠ (.error halt, stop) := by
    rintro α program middle ⟨value, last, ends⟩ halts
    rw [ends] at halts
    cases halts
  unfold attempt at halts
  cases built : session.linkOf scene.surroundings with
  | error failure =>
    rw [built] at halts
    exact absurd halts (never (withoutConnection_ends scene call session failure state))
  | ok link =>
    simp only [built] at halts
    rcases connects : (link.connect scene.surroundings fuel (some call.deadline)).play state with
      ⟨cut | ⟨failure | connection, ready⟩, middle⟩
    · rw [Run.play_bind_error connects] at halts
      cases halts
      exact Link.connect_cutShort fuel _ link connects
    · rw [Run.play_bind_ok connects] at halts
      exact absurd halts (never (withoutConnection_ends scene call _ failure middle))
    rw [Run.play_bind_ok connects] at halts
    obtain ⟨done, connecting⟩ := Connecting.of_connect scene fuel (some call.deadline) link state
    rw [connects] at connecting
    have sends := ready.send_play scene connection call.method call.arguments middle
    rcases calls : (scene.surroundings.call connection.channel connection.next.sequence call.method
      call.arguments).play middle with ⟨cut | result, next⟩
    all_goals
      rw [calls] at sends
    · simp only [Run.play_bind_error sends] at halts
      cases halts
      refine ⟨_, connecting.passes.trans (Scene.call_passes calls), ?_⟩
      exact .last (List.getLast?_concat) rfl
    · simp only [Run.play_bind_ok sends] at halts
      exact absurd halts (never (withResult_ends scene call _ _ result next))

theorem attempts_over {call : PendingCall} {fuel made : Nat} {lastError : String}
    {session : Session Nat} {state stop : σ} {halt : Halt}
    (ended : scene.stopping state = true ∨
      0 < made ∧ call.deadline.isExpired (scene.clock state) = true)
    (halts : (session.attempts scene.surroundings call fuel made lastError).play state =
      (.error halt, stop)) : fuel = 0 ∧ halt = .unfinished ∧ stop = state := by
  cases fuel with
  | zero =>
    cases halts
    exact ⟨rfl, rfl, rfl⟩
  | succ fuel =>
    by_cases stopping : scene.stopping state = true
    · rw [attempts_play_stopping stopping] at halts
      cases halts
    · obtain ⟨tried, expired⟩ := ended.resolve_left stopping
      rw [attempts_play_late stopping tried expired] at halts
      cases halts

/-- One step more is needed than there are pauses, so that the call can say what it came to. -/
theorem attempts_cutShort (call : PendingCall) (fuel made : Nat) (lastError : String)
    (session : Session Nat) {state stop : σ} {halt : Halt}
    (halts : (session.attempts scene.surroundings call fuel made lastError).play state =
      (.error halt, stop)) :
    ∃ done, scene.Passes state done stop ∧ CutShort (fuel - 1) done halt := by
  induction fuel generalizing made lastError session state with
  | zero =>
    cases halts
    exact ⟨[], .refl scene _, .spent (Nat.le_refl 0)⟩
  | succ fuel ih =>
    rw [attempts_play] at halts
    split at halts
    · cases halts
    split at halts
    · cases halts
    obtain ⟨done, attempting⟩ := Attempting.of_attempt scene fuel call session state
    have passes := attempting.passes
    -- What is done after an attempt that ends the call leaves no room for a pause.
    have ended : ∀ {after : Session Nat} {middle : σ} {reason : String},
        scene.Passes state done middle →
        scene.stopping middle = true ∨
          0 < made + 1 ∧ call.deadline.isExpired (scene.clock middle) = true →
        (after.attempts scene.surroundings call fuel (made + 1) reason).play middle =
          (.error halt, stop) →
        ∃ done, scene.Passes state done stop ∧ CutShort fuel done halt := by
      intro after middle reason passes late halts
      obtain ⟨rfl, rfl, rfl⟩ := attempts_over late halts
      exact ⟨done, passes, .spent (Nat.zero_le _)⟩
    rcases attempts : (session.attempt scene.surroundings fuel call).play state with
      ⟨cut | ⟨result | reason | _, after⟩, middle⟩
    all_goals
      rw [attempts] at passes attempting
      simp only [attempts] at halts
    · cases halts
      exact attempt_cutShort fuel call session attempts
    · cases halts
    · cases pauses : after.policy.pause? (made + 1)
        (call.deadline.remaining (scene.clock middle)) with
      | some pause =>
        simp only [rested, pauses] at halts
        obtain ⟨more, later, short⟩ := ih (made + 1) reason after halts
        have passed := passes.trans (scene.pause_passes pause middle)
        refine ⟨_, passed.trans later, (short.after _).mono ?_⟩
        simp only [Log.pauses_append, List.length_append]
        change fuel ≤ _ + 1 + _
        omega
      | none =>
        simp only [rested, pauses] at halts
        have expired : call.deadline.isExpired (scene.clock middle) = true :=
          decide_eq_true (Policy.pause?_eq_none.mp pauses)
        exact ended passes (.inr ⟨Nat.succ_pos made, expired⟩) halts
    · exact ended passes (.inl attempting.stopping_of_interrupted) halts

theorem invoke_cutShort (scene : Scene σ) (fuel : Nat) (session : Session Nat) (request : Request)
    (repeatable : Bool) (state : σ) {halt : Halt} :
    let performed :=
      scene.perform (session.invoke scene.surroundings fuel request repeatable) state
    performed.outcome = .error halt → CutShort (fuel - 1) performed.done halt := by
  intro performed halts
  have plays : (session.invoke scene.surroundings fuel request repeatable).play state =
      (.error halt, performed.stop) := Prod.ext halts rfl
  rw [invoke_play] at plays
  have short : ∃ done, scene.Passes state done performed.stop ∧
      CutShort (fuel - 1) done halt := by
    split at plays
    · cases plays
    split at plays
    · obtain ⟨overflow, unmoved⟩ := Prod.mk.inj plays
      cases overflow
      rw [← unmoved]
      exact ⟨[], .refl scene state, .overflow⟩
    · exact attempts_cutShort _ fuel 0 "" session plays
  obtain ⟨done, passes, short⟩ := short
  rwa [← Scene.perform_done passes] at short

end Session

end SchedulerLink
