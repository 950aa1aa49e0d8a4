import SchedulerLink.Proofs.Holding

/-!
The attempts of a call one by one.

`Session.rounds` lists what each attempt of a call does. Between two of them there is a pause at
most, so the whole call does what its attempts do and pauses.
-/

namespace SchedulerLink

variable {σ : Type}

namespace Session

def rounds (scene : Scene σ) (call : PendingCall) :
    (fuel made : Nat) → Session Nat → σ → List (Performance σ (Attempt × Session Nat))
  | 0, _, _, _ => []
  | fuel + 1, made, session, state =>
    if scene.stopping state || (0 < made && call.deadline.isExpired (scene.clock state)) then []
    else
      let round := scene.perform (session.attempt scene.surroundings fuel call) state
      round ::
        match round.outcome with
        | .ok (.transient _, after) =>
          after.rounds scene call fuel (made + 1) (after.rested scene call (made + 1) round.stop)
        | .ok (.interrupted, after) => after.rounds scene call fuel (made + 1) round.stop
        | _ => []

def roundsOf (scene : Scene σ) (fuel : Nat) (session : Session Nat) (request : Request)
    (repeatable : Bool) (state : σ) : List (Performance σ (Attempt × Session Nat)) :=
  match request.method.signature.fit request.arguments with
  | .error _ => []
  | .ok arguments =>
    match Deadline.after? (scene.clock state) session.policy.longestWait with
    | none => []
    | some deadline =>
      session.rounds scene ⟨request.method, arguments, repeatable, deadline⟩ fuel 0 state

end Session

/-- What is done in rounds, each of which may be followed by a pause. -/
inductive Paced : List Log → Log → Prop where
  | nil : Paced [] []
  | next {round later : Log} {rounds : List Log} (rest : Paced rounds later) :
    Paced (round :: rounds) (round ++ later)
  | pause {round later : Log} {rounds : List Log} (span : Duration) (rest : Paced rounds later) :
    Paced (round :: rounds) (round ++ .slept span :: later)

namespace Session

variable {scene : Scene σ} {call : PendingCall} {session : Session Nat} {state : σ}

theorem attempt_performs (scene : Scene σ) (fuel : Nat) (call : PendingCall)
    (session : Session Nat) (state : σ) :
    Attempting scene call session state
      (scene.perform (session.attempt scene.surroundings fuel call) state).done
      (scene.perform (session.attempt scene.surroundings fuel call) state).outcome
      (scene.perform (session.attempt scene.surroundings fuel call) state).stop := by
  obtain ⟨done, attempting⟩ := Attempting.of_attempt scene fuel call session state
  rwa [← Scene.perform_done attempting.passes] at attempting

theorem rounds_head? {fuel made : Nat} {first : Performance σ (Attempt × Session Nat)}
    (leads : first ∈ (session.rounds scene call fuel made state).head?) :
    ∃ less, first = scene.perform (session.attempt scene.surroundings less call) state := by
  cases fuel with
  | zero => cases leads
  | succ fuel =>
    rw [rounds] at leads
    split at leads
    · cases leads
    · cases leads
      exact ⟨fuel, rfl⟩

theorem rounds_of_stopping (stopping : scene.stopping state = true) (fuel made : Nat) :
    session.rounds scene call fuel made state = [] := by
  cases fuel with
  | zero => rfl
  | succ fuel => rw [rounds, if_pos (by rw [stopping, Bool.true_or])]

theorem attempts_paced (scene : Scene σ) (call : PendingCall) (fuel made : Nat)
    (lastError : String) (session : Session Nat) (state : σ) :
    ∃ done, scene.Passes state done
        ((session.attempts scene.surroundings call fuel made lastError).play state).2 ∧
      Paced ((session.rounds scene call fuel made state).map (·.done)) done := by
  -- What is done in a call is split into rounds where its recursion goes on.
  induction fuel generalizing made lastError session state with
  | zero => exact ⟨[], .refl scene state, .nil⟩
  | succ fuel ih =>
    rw [attempts_play, rounds]
    cases scene.stopping state with
    | true => exact ⟨[], .refl scene state, .nil⟩
    | false =>
      rw [Bool.false_or, if_neg Bool.false_ne_true]
      by_cases late : (0 < made && call.deadline.isExpired (scene.clock state)) = true
      · rw [if_pos late, if_pos late]
        exact ⟨[], .refl scene state, .nil⟩
      rw [if_neg late, if_neg late]
      obtain ⟨done, attempting⟩ := Attempting.of_attempt scene fuel call session state
      have passes := attempting.passes
      simp only [List.map_cons, Scene.perform_done passes]
      rcases attempts : (session.attempt scene.surroundings fuel call).play state with
        ⟨halt | ⟨result | reason | _, after⟩, middle⟩
      all_goals
        rw [attempts] at passes
        simp only [Scene.perform, attempts]
      · exact ⟨done ++ [], passes.trans (.refl scene middle), .next .nil⟩
      · exact ⟨done ++ [], passes.trans (.refl scene middle), .next .nil⟩
      · simp only [rested]
        cases after.policy.pause? (made + 1) (call.deadline.remaining (scene.clock middle)) with
        | some pause =>
          obtain ⟨more, later, paced⟩ := ih (made + 1) reason after
            ((scene.surroundings.pause pause).run middle).2
          exact ⟨_, passes.trans ((scene.pause_passes pause middle).trans later),
            .pause pause paced⟩
        | none =>
          obtain ⟨more, later, paced⟩ := ih (made + 1) reason after middle
          exact ⟨_, passes.trans later, .next paced⟩
      · obtain ⟨more, later, paced⟩ := ih (made + 1) lastError after middle
        exact ⟨_, passes.trans later, .next paced⟩

/-- A call does what its attempts do, with a pause after each at most. -/
theorem invoke_paced (scene : Scene σ) (fuel : Nat) (session : Session Nat) (request : Request)
    (repeatable : Bool) (state : σ) :
    Paced ((session.roundsOf scene fuel request repeatable state).map (·.done))
      (scene.perform (session.invoke scene.surroundings fuel request repeatable) state).done := by
  have paced : ∃ done, scene.Passes state done
      ((session.invoke scene.surroundings fuel request repeatable).play state).2 ∧
      Paced ((session.roundsOf scene fuel request repeatable state).map (·.done)) done := by
    rw [invoke_play, roundsOf]
    cases request.method.signature.fit request.arguments with
    | error error => exact ⟨[], .refl scene state, .nil⟩
    | ok arguments =>
      cases Deadline.after? (scene.clock state) session.policy.longestWait with
      | none => exact ⟨[], .refl scene state, .nil⟩
      | some deadline =>
        exact attempts_paced scene ⟨request.method, arguments, repeatable, deadline⟩ fuel 0 ""
          session state
  obtain ⟨done, passes, paced⟩ := paced
  rwa [Scene.perform_done passes]

end Session

end SchedulerLink
