import SchedulerLink.Proofs.Attempting

/-!
What a session's call does on a scene: attempts until the call is over.
-/

namespace SchedulerLink

variable {σ : Type}

/-- Surroundings with a clock, in which everything may take time. A pause takes at least as long as
it should. -/
structure Timeline (σ : Type) where
  surroundings : Surroundings (StateM σ) Nat
  clock : σ → Duration
  stopping : σ → Bool
  now_run (state : σ) : surroundings.now.run state = (clock state, state)
  isStopping_run (state : σ) : surroundings.isStopping.run state = (stopping state, state)
  pause_clock (span : Duration) (state : σ) :
    clock state + span ≤ clock ((surroundings.pause span).run state).2

/-- The state after a pause, if there is one. -/
def Timeline.rest (time : Timeline σ) : Option Duration → σ → σ
  | some pause, state => ((time.surroundings.pause pause).run state).2
  | none, state => state

def Scene.timeline (scene : Scene σ) (surroundings : Surroundings (StateM σ) Nat)
    (clock : surroundings.toClock = scene.surroundings.toClock)
    (abandons : surroundings.isStopping = scene.surroundings.isStopping) : Timeline σ where
  surroundings := surroundings
  clock := scene.clock
  stopping := scene.stopping
  now_run state := by rw [clock, scene.now_run]
  isStopping_run state := by rw [abandons, scene.isStopping_run]
  pause_clock span state := by
    rw [clock, scene.pause_clock]
    exact Nat.le_refl _

namespace Session

theorem attempts_turn (time : Timeline σ) (call : PendingCall) (fuel made : Nat)
    (lastError : String) (session : Session Nat) (state : σ) :
    (session.attempts time.surroundings call (fuel + 1) made lastError).play state =
      if time.stopping state then
        (.ok (.error (.terminated call.method session.cluster.name), session), state)
      else if 0 < made && call.deadline.isExpired (time.clock state) then
        (.ok (.error (.timedOut call.method session.cluster.name lastError), session), state)
      else
        match (session.attempt time.surroundings fuel call).play state with
        | (.error halt, stop) => (.error halt, stop)
        | (.ok (.finished result, after), stop) => (.ok (result, after), stop)
        | (.ok (.interrupted, after), middle) =>
          (after.attempts time.surroundings call fuel (made + 1) lastError).play middle
        | (.ok (.transient reason, after), middle) =>
          (after.attempts time.surroundings call fuel (made + 1) reason).play
            (time.rest (after.policy.pause? (made + 1)
              (call.deadline.remaining (time.clock middle))) middle) := by
  rw [attempts]
  simp only [Run.play_bind, Run.play_lift, time.isStopping_run]
  split
  · rfl
  simp only [Run.play_bind, Run.play_lift, time.now_run]
  split
  · rfl
  simp only [Run.play_bind]
  rcases (session.attempt time.surroundings fuel call).play state with
    ⟨halt | ⟨result | reason | _, after⟩, middle⟩
  · rfl
  · rfl
  · simp only [Run.play_bind, Run.play_lift, time.now_run]
    cases after.policy.pause? (made + 1) (call.deadline.remaining (time.clock middle)) with
    | some pause => simp only [Run.play_bind, Run.play_lift, Timeline.rest]
    | none => rfl
  · rfl

def rested (scene : Scene σ) (call : PendingCall) (session : Session Nat) (made : Nat) (state : σ) :
    σ :=
  match session.policy.pause? made (call.deadline.remaining (scene.clock state)) with
  | some pause => ((scene.surroundings.pause pause).run state).2
  | none => state

theorem attempts_round (scene : Scene σ) (surroundings : Surroundings (StateM σ) Nat)
    (clock : surroundings.toClock = scene.surroundings.toClock)
    (abandons : surroundings.isStopping = scene.surroundings.isStopping) (call : PendingCall)
    (fuel made : Nat) (lastError : String) (session : Session Nat) (state : σ) :
    (session.attempts surroundings call (fuel + 1) made lastError).play state =
      if scene.stopping state then
        (.ok (.error (.terminated call.method session.cluster.name), session), state)
      else if 0 < made && call.deadline.isExpired (scene.clock state) then
        (.ok (.error (.timedOut call.method session.cluster.name lastError), session), state)
      else
        match (session.attempt surroundings fuel call).play state with
        | (.error halt, stop) => (.error halt, stop)
        | (.ok (.finished result, after), stop) => (.ok (result, after), stop)
        | (.ok (.interrupted, after), middle) =>
          (after.attempts surroundings call fuel (made + 1) lastError).play middle
        | (.ok (.transient reason, after), middle) =>
          (after.attempts surroundings call fuel (made + 1) reason).play
            (after.rested scene call (made + 1) middle) := by
  have rests : ∀ (after : Session Nat) (middle : σ),
      (scene.timeline surroundings clock abandons).rest (after.policy.pause? (made + 1)
        (call.deadline.remaining (scene.clock middle))) middle =
        after.rested scene call (made + 1) middle := by
    intro after middle
    rw [rested]
    cases after.policy.pause? (made + 1) (call.deadline.remaining (scene.clock middle)) with
    | some pause => simp only [Timeline.rest, Scene.timeline, clock]
    | none => rfl
  simp only [← rests]
  exact attempts_turn (scene.timeline surroundings clock abandons) call fuel made lastError session
    state

theorem attempts_play (scene : Scene σ) (call : PendingCall) (fuel made : Nat) (lastError : String)
    (session : Session Nat) (state : σ) :
    (session.attempts scene.surroundings call (fuel + 1) made lastError).play state =
      if scene.stopping state then
        (.ok (.error (.terminated call.method session.cluster.name), session), state)
      else if 0 < made && call.deadline.isExpired (scene.clock state) then
        (.ok (.error (.timedOut call.method session.cluster.name lastError), session), state)
      else
        match (session.attempt scene.surroundings fuel call).play state with
        | (.error halt, stop) => (.error halt, stop)
        | (.ok (.finished result, after), stop) => (.ok (result, after), stop)
        | (.ok (.interrupted, after), middle) =>
          (after.attempts scene.surroundings call fuel (made + 1) lastError).play middle
        | (.ok (.transient reason, after), middle) =>
          (after.attempts scene.surroundings call fuel (made + 1) reason).play
            (after.rested scene call (made + 1) middle) :=
  attempts_round scene _ rfl rfl call fuel made lastError session state

section

variable {scene : Scene σ} {call : PendingCall} {session : Session Nat} {made : Nat} {state : σ}

theorem attempts_play_stopping (stopping : scene.stopping state = true) (fuel made : Nat)
    (lastError : String) :
    (session.attempts scene.surroundings call (fuel + 1) made lastError).play state =
      (.ok (.error (.terminated call.method session.cluster.name), session), state) := by
  rw [attempts_play, if_pos stopping]

theorem attempts_play_late (running : ¬scene.stopping state = true) (tried : 0 < made)
    (expired : call.deadline.isExpired (scene.clock state) = true) (fuel : Nat)
    (lastError : String) :
    (session.attempts scene.surroundings call (fuel + 1) made lastError).play state =
      (.ok (.error (.timedOut call.method session.cluster.name lastError), session), state) := by
  rw [attempts_play, if_neg running, expired, Bool.and_true, if_pos (decide_eq_true tried)]

theorem attempts_play_begun
    (begun : ¬(scene.stopping state = true ∨
      0 < made ∧ call.deadline.isExpired (scene.clock state) = true))
    (fuel : Nat) (lastError : String) :
    (session.attempts scene.surroundings call (fuel + 1) made lastError).play state =
      match (session.attempt scene.surroundings fuel call).play state with
      | (.error halt, stop) => (.error halt, stop)
      | (.ok (.finished result, after), stop) => (.ok (result, after), stop)
      | (.ok (.interrupted, after), middle) =>
        (after.attempts scene.surroundings call fuel (made + 1) lastError).play middle
      | (.ok (.transient reason, after), middle) =>
        (after.attempts scene.surroundings call fuel (made + 1) reason).play
          (after.rested scene call (made + 1) middle) := by
  rw [not_or] at begun
  have inTime : ¬(0 < made && call.deadline.isExpired (scene.clock state)) = true := by
    simpa using begun.2
  have plays := attempts_play scene call fuel made lastError session state
  rw [if_neg begun.1, if_neg inTime] at plays
  exact plays

end

end Session

/-- How a call goes on of which `made` attempts have been made, the last of which failed for
`lastError`. -/
inductive Course (scene : Scene σ) (call : PendingCall) :
    (made : Nat) → (lastError : String) → Session Nat → σ → Log →
    Except Halt (Except SessionFailure Response × Session Nat) → σ → Prop where
  | unfinished {made : Nat} {lastError : String} {session : Session Nat} {state : σ} :
    Course scene call made lastError session state [] (.error .unfinished) state
  | terminated {made : Nat} {lastError : String} {session : Session Nat} {state : σ}
    (stopping : scene.stopping state = true) :
    Course scene call made lastError session state []
      (.ok (.error (.terminated call.method session.cluster.name), session)) state
  | timedOut {made : Nat} {lastError : String} {session : Session Nat} {state : σ}
    (running : scene.stopping state = false) (tried : 0 < made)
    (expired : call.deadline.isExpired (scene.clock state) = true) :
    Course scene call made lastError session state []
      (.ok (.error (.timedOut call.method session.cluster.name lastError), session)) state
  | halted {made : Nat} {lastError : String} {session : Session Nat} {state stop : σ} {done : Log}
    {halt : Halt} (running : scene.stopping state = false)
    (inTime : 0 < made → call.deadline.isExpired (scene.clock state) = false)
    (attempting : Attempting scene call session state done (.error halt) stop) :
    Course scene call made lastError session state done (.error halt) stop
  | finished {made : Nat} {lastError : String} {session after : Session Nat} {state stop : σ}
    {done : Log} {result : Except SessionFailure Response} (running : scene.stopping state = false)
    (inTime : 0 < made → call.deadline.isExpired (scene.clock state) = false)
    (attempting : Attempting scene call session state done (.ok (.finished result, after)) stop) :
    Course scene call made lastError session state done (.ok (result, after)) stop
  | interrupted {made : Nat} {lastError : String} {session after : Session Nat}
    {state middle stop : σ} {done more : Log}
    {outcome : Except Halt (Except SessionFailure Response × Session Nat)}
    (running : scene.stopping state = false)
    (inTime : 0 < made → call.deadline.isExpired (scene.clock state) = false)
    (attempting : Attempting scene call session state done (.ok (.interrupted, after)) middle)
    (later : Course scene call (made + 1) lastError after middle more outcome stop) :
    Course scene call made lastError session state (done ++ more) outcome stop
  | paused {made : Nat} {lastError reason : String} {session after : Session Nat}
    {state middle stop : σ} {done more : Log} {pause : Duration}
    {outcome : Except Halt (Except SessionFailure Response × Session Nat)}
    (running : scene.stopping state = false)
    (inTime : 0 < made → call.deadline.isExpired (scene.clock state) = false)
    (attempting : Attempting scene call session state done (.ok (.transient reason, after)) middle)
    (pauses : after.policy.pause? (made + 1) (call.deadline.remaining (scene.clock middle)) =
      some pause)
    (later : Course scene call (made + 1) reason after
      ((scene.surroundings.pause pause).run middle).2 more outcome stop) :
    Course scene call made lastError session state (done ++ .slept pause :: more) outcome stop
  | spent {made : Nat} {lastError reason : String} {session after : Session Nat}
    {state middle stop : σ} {done more : Log}
    {outcome : Except Halt (Except SessionFailure Response × Session Nat)}
    (running : scene.stopping state = false)
    (inTime : 0 < made → call.deadline.isExpired (scene.clock state) = false)
    (attempting : Attempting scene call session state done (.ok (.transient reason, after)) middle)
    (spent : after.policy.pause? (made + 1) (call.deadline.remaining (scene.clock middle)) = none)
    (later : Course scene call (made + 1) reason after middle more outcome stop) :
    Course scene call made lastError session state (done ++ more) outcome stop

namespace Course

variable {scene : Scene σ} {call : PendingCall} {made : Nat} {lastError : String}
  {session : Session Nat} {state stop : σ} {done : Log}
  {outcome : Except Halt (Except SessionFailure Response × Session Nat)}

theorem of_attempts (scene : Scene σ) (call : PendingCall) (fuel made : Nat) (lastError : String)
    (session : Session Nat) (state : σ) :
    ∃ done, Course scene call made lastError session state done
      ((session.attempts scene.surroundings call fuel made lastError).play state).1
      ((session.attempts scene.surroundings call fuel made lastError).play state).2 := by
  -- One round is one of the constructors, and the others follow from the state that it leaves.
  induction fuel generalizing made lastError session state with
  | zero => exact ⟨[], .unfinished⟩
  | succ fuel ih =>
    rw [Session.attempts_play]
    cases running : scene.stopping state with
    | true => exact ⟨[], .terminated running⟩
    | false =>
      simp only [Bool.false_eq_true, ↓reduceIte]
      by_cases late : (0 < made && call.deadline.isExpired (scene.clock state)) = true
      · rw [if_pos late]
        rw [Bool.and_eq_true, decide_eq_true_eq] at late
        exact ⟨[], .timedOut running late.1 late.2⟩
      rw [if_neg late]
      have inTime : 0 < made → call.deadline.isExpired (scene.clock state) = false := by
        intro tried
        simpa [tried] using late
      obtain ⟨done, attempting⟩ := Attempting.of_attempt scene fuel call session state
      rcases attempts : (session.attempt scene.surroundings fuel call).play state with
        ⟨halt | ⟨result | reason | _, after⟩, middle⟩
      all_goals
        rw [attempts] at attempting
      · exact ⟨done, .halted running inTime attempting⟩
      · exact ⟨done, .finished running inTime attempting⟩
      · simp only [Session.rested]
        cases pauses : after.policy.pause? (made + 1)
          (call.deadline.remaining (scene.clock middle)) with
        | some pause =>
          obtain ⟨more, later⟩ := ih (made + 1) reason after
            ((scene.surroundings.pause pause).run middle).2
          exact ⟨_, .paused running inTime attempting pauses later⟩
        | none =>
          obtain ⟨more, later⟩ := ih (made + 1) reason after middle
          exact ⟨_, .spent running inTime attempting pauses later⟩
      · obtain ⟨more, later⟩ := ih (made + 1) lastError after middle
        exact ⟨_, .interrupted running inTime attempting later⟩

theorem passes (course : Course scene call made lastError session state done outcome stop) :
    scene.Passes state done stop := by
  induction course with
  | unfinished => exact .refl scene _
  | terminated _ => exact .refl scene _
  | timedOut _ _ _ => exact .refl scene _
  | halted _ _ attempting => exact attempting.passes
  | finished _ _ attempting => exact attempting.passes
  | interrupted _ _ attempting _ ih => exact attempting.passes.trans ih
  | paused _ _ attempting _ _ ih =>
    exact attempting.passes.trans ((scene.pause_passes _ _).trans ih)
  | spent _ _ attempting _ _ ih => exact attempting.passes.trans ih

end Course

/-- How a request is treated. -/
inductive Invoking (scene : Scene σ) (session : Session Nat) (request : Request) (repeatable : Bool)
    (state : σ) : Log → Except Halt (Except SessionFailure Response × Session Nat) → σ → Prop where
  | misfit {error : ArgumentError}
    (misfit : request.method.signature.fit request.arguments = .error error) :
    Invoking scene session request repeatable state [] (.ok (.error (.arguments error), session))
      state
  | overflow {arguments : List Json}
    (fits : request.method.signature.fit request.arguments = .ok arguments)
    (tooFar : Deadline.after? (scene.clock state) session.policy.longestWait = none) :
    Invoking scene session request repeatable state [] (.error .overflow) state
  | course {arguments : List Json} {deadline : Deadline} {done : Log}
    {outcome : Except Halt (Except SessionFailure Response × Session Nat)} {stop : σ}
    (fits : request.method.signature.fit request.arguments = .ok arguments)
    (inTime : Deadline.after? (scene.clock state) session.policy.longestWait = some deadline)
    (course : Course scene ⟨request.method, arguments, repeatable, deadline⟩ 0 "" session state done
      outcome stop) :
    Invoking scene session request repeatable state done outcome stop

theorem Session.invoke_turn {surroundings : Surroundings (StateM σ) Nat} {clock : σ → Duration}
    (now_run : ∀ state, surroundings.now.run state = (clock state, state)) (fuel : Nat)
    (session : Session Nat) (request : Request) (repeatable : Bool) (state : σ) :
    (session.invoke surroundings fuel request repeatable).play state =
      match request.method.signature.fit request.arguments with
      | .error error => (.ok (.error (.arguments error), session), state)
      | .ok arguments =>
        match Deadline.after? (clock state) session.policy.longestWait with
        | none => (.error .overflow, state)
        | some deadline =>
          (session.attempts surroundings ⟨request.method, arguments, repeatable, deadline⟩
            fuel 0 "").play state := by
  unfold Session.invoke
  cases request.method.signature.fit request.arguments with
  | error error => rfl
  | ok arguments =>
    simp only [Surroundings.deadline, Run.play_bind, Run.play_lift, now_run]
    cases Deadline.after? (clock state) session.policy.longestWait <;> rfl

theorem Session.invoke_begins (scene : Scene σ) (surroundings : Surroundings (StateM σ) Nat)
    (clock : surroundings.toClock = scene.surroundings.toClock) (fuel : Nat) (session : Session Nat)
    (request : Request) (repeatable : Bool) (state : σ) :
    (session.invoke surroundings fuel request repeatable).play state =
      match request.method.signature.fit request.arguments with
      | .error error => (.ok (.error (.arguments error), session), state)
      | .ok arguments =>
        match Deadline.after? (scene.clock state) session.policy.longestWait with
        | none => (.error .overflow, state)
        | some deadline =>
          (session.attempts surroundings ⟨request.method, arguments, repeatable, deadline⟩
            fuel 0 "").play state := by
  apply invoke_turn
  intro state
  rw [clock, scene.now_run]

theorem Session.invoke_play (scene : Scene σ) (fuel : Nat) (session : Session Nat)
    (request : Request) (repeatable : Bool) (state : σ) :
    (session.invoke scene.surroundings fuel request repeatable).play state =
      match request.method.signature.fit request.arguments with
      | .error error => (.ok (.error (.arguments error), session), state)
      | .ok arguments =>
        match Deadline.after? (scene.clock state) session.policy.longestWait with
        | none => (.error .overflow, state)
        | some deadline =>
          (session.attempts scene.surroundings ⟨request.method, arguments, repeatable, deadline⟩
            fuel 0 "").play state :=
  invoke_begins scene _ rfl fuel session request repeatable state

namespace Invoking

variable {scene : Scene σ} {session : Session Nat} {request : Request} {repeatable : Bool}
  {state stop : σ} {done : Log}
  {outcome : Except Halt (Except SessionFailure Response × Session Nat)}

theorem passes (invoking : Invoking scene session request repeatable state done outcome stop) :
    scene.Passes state done stop := by
  cases invoking with
  | misfit _ => exact .refl scene state
  | overflow _ _ => exact .refl scene state
  | course _ _ course => exact course.passes

theorem of_invoke (scene : Scene σ) (fuel : Nat) (session : Session Nat) (request : Request)
    (repeatable : Bool) (state : σ) :
    let performed :=
      scene.perform (session.invoke scene.surroundings fuel request repeatable) state
    Invoking scene session request repeatable state performed.done performed.outcome
      performed.stop := by
  intro performed
  have some : ∃ done, Invoking scene session request repeatable state done performed.outcome
      performed.stop := by
    simp only [performed, Scene.perform, Session.invoke_play]
    cases fits : request.method.signature.fit request.arguments with
    | error error => exact ⟨[], .misfit fits⟩
    | ok arguments =>
      cases inTime : Deadline.after? (scene.clock state) session.policy.longestWait with
      | none => exact ⟨[], .overflow fits inTime⟩
      | some deadline =>
        obtain ⟨done, course⟩ := Course.of_attempts scene
          ⟨request.method, arguments, repeatable, deadline⟩ fuel 0 "" session state
        exact ⟨done, .course fits inTime course⟩
  obtain ⟨done, invoking⟩ := some
  rwa [Scene.perform_done invoking.passes]

end Invoking

/-- The failure that a call comes to, if it comes to one. -/
def Performance.failure?
    (performed : Performance σ (Except SessionFailure Response × Session Nat)) :
    Option SessionFailure :=
  match performed.outcome with
  | .ok (.error failure, _) => some failure
  | _ => none

theorem Performance.failure?_eq_some
    {performed : Performance σ (Except SessionFailure Response × Session Nat)}
    {failure : SessionFailure} :
    performed.failure? = some failure ↔
      ∃ after, performed.outcome = .ok (.error failure, after) := by
  constructor
  · intro fails
    unfold failure? at fails
    split at fails
    · rename_i _ after ends
      cases fails
      exact ⟨after, ends⟩
    · cases fails
  · rintro ⟨after, ends⟩
    rw [failure?, ends]

def Performance.response?
    (performed : Performance σ (Except SessionFailure Response × Session Nat)) : Option Response :=
  match performed.outcome with
  | .ok (.ok response, _) => some response
  | _ => none

theorem Performance.response?_eq_some
    {performed : Performance σ (Except SessionFailure Response × Session Nat)}
    {response : Response} :
    performed.response? = some response ↔
      ∃ after, performed.outcome = .ok (.ok response, after) := by
  constructor
  · intro answers
    unfold response? at answers
    split at answers
    · rename_i _ after ends
      cases answers
      exact ⟨after, ends⟩
    · cases answers
  · rintro ⟨after, ends⟩
    rw [response?, ends]

end SchedulerLink
