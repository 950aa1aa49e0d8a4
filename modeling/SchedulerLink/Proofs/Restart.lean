import SchedulerLink.Proofs.Alike
import SchedulerLink.Proofs.Holding

/-!
A call that fails leaves nothing behind.

Its session does from then on what a new session would. A link may be left, but without a connection
and without an address, and nothing depends on how many connections it has made. Only a call that is
abandoned while it connects may leave an address, and after it no call is made at all.
-/

namespace SchedulerLink

variable {σ : Type} {scene : Scene σ} {origin : Except LinkFailure (Link Nat)}

/-! What a failed call leaves. -/

namespace Session

def renewed (session : Session Nat) : Session Nat := { session with link := none }

def Reset (session : Session Nat) : Prop :=
  ∀ link, session.link = some link →
    link.connection = none ∧ link.locator.forget = link.locator

variable {session : Session Nat}

theorem Reset.of_unlinked (unlinked : session.link = none) : session.Reset := by
  intro link has
  rw [unlinked] at has
  cases has

theorem Reset.of_released (link : Link Nat) :
    Reset { session with link := some link.released } := by
  intro same has
  cases has
  exact ⟨rfl, link.locator.forget_forget⟩

theorem Reset.heldBy_eq_none (reset : session.Reset) : heldBy session.link = none := by
  cases has : session.link with
  | none => rfl
  | some link => exact SchedulerLink.heldBy_eq_none (reset link has).1

/-- Nothing tells such a session from a new one. -/
theorem Reset.alike (reset : session.Reset) (sound : session.Sound scene origin) :
    Alike scene session session.renewed := by
  cases has : session.link with
  | none =>
    have same : session.renewed = session := by
      rw [renewed, ← has]
    rw [same]
    exact .refl session
  | some link =>
    obtain ⟨idle, forgetful⟩ := reset link has
    have built : session.linkOf scene.surroundings = .ok link := by
      rw [linkOf, has]
    have anew : linkOf scene.surroundings { session with link := none } = .ok link.bare :=
      sound.makes.trans (sound.owned link has).bare
    refine .linked built anew ⟨0, ?_⟩
    rw [Link.bare, forgetful, idle]

end Session

theorem Connect.stopping_of_verdict {options : LinkOptions} {uri other : String}
    {limit : Option Deadline} {attempts : Nat} {failure : ChannelFailure} {stopping : Bool}
    {now : Duration}
    (interrupted : verdict options uri limit attempts failure stopping now =
      .error (.interrupted other)) : stopping = true := by
  unfold verdict at interrupted
  split at interrupted
  · cases interrupted
  split at interrupted
  · cases interrupted
  split at interrupted
  · cases interrupted
  split at interrupted
  · assumption
  split at interrupted <;> cases interrupted

theorem Opening.stopping_of_interrupted {options : LinkOptions} {uri other : String}
    {limit : Option Deadline} {channel failed : Nat} {state stop : σ} {done : Log}
    (opening : Opening scene options uri limit channel failed state done
      (.ok (.error (.interrupted other))) stop) : scene.stopping stop = true := by
  generalize same : (Except.ok (Except.error (.interrupted other)) :
    Except Halt (Except LinkFailure Unit)) = outcome at opening
  induction opening with
  | unfinished => cases same
  | opened _ => cases same
  | givenUp _ verdict =>
    cases same
    exact Connect.stopping_of_verdict verdict
  | again _ _ _ ih => exact ih same

theorem Connecting.stopping_of_interrupted {limit : Option Deadline} {link idle : Link Nat}
    {state stop : σ} {done : Log} {uri : String}
    (connecting : Connecting scene limit link state done (.ok (.error (.interrupted uri), idle))
      stop) : scene.stopping stop = true := by
  cases connecting with
  | unlocated _ locating =>
    have final := locating.isFinal
    cases final
  | reached _ _ reaching =>
    cases reaching with
    | misaddressed misaddressed =>
      have final := Connect.interfaceUri_isFinal misaddressed
      cases final
    | unopened _ _ _ opening => exact opening.stopping_of_interrupted

def Attempt.isFailure : Attempt → Bool
  | .finished (.error _) => true
  | .transient _ => true
  | _ => false

theorem Attempt.ofResult_ne_interrupted (call : PendingCall) (advice : String)
    (result : Except CallFailure Response) :
    Attempt.ofResult call advice result ≠ .interrupted := by
  intro interrupted
  unfold ofResult at interrupted
  split at interrupted <;> cases interrupted

namespace Attempting

variable {call : PendingCall} {session after : Session Nat} {state stop : σ} {done : Log}

theorem stopping_of_interrupted
    (attempting : Attempting scene call session state done (.ok (.interrupted, after)) stop) :
    scene.stopping stop = true := by
  generalize same : Attempt.interrupted = attempt at attempting
  cases attempting with
  | interrupted _ connecting => exact connecting.stopping_of_interrupted
  | failed _ _ _ _ _ => exact absurd same.symm (Attempt.ofResult_ne_interrupted _ _ _)
  | _ => cases same

theorem reset {attempt : Attempt}
    (attempting : Attempting scene call session state done (.ok (attempt, after)) stop)
    (failed : attempt.isFailure = true) : after.Reset := by
  cases attempting with
  | unbuilt unbuilt => exact .of_unlinked (Session.unbuilt_of_linkOf unbuilt).1
  | interrupted _ _ => cases failed
  | tooLate _ _ => exact .of_released _
  | unreachable _ _ _ => exact .of_unlinked rfl
  | answered _ _ _ _ => cases failed
  | failed _ _ _ _ _ => exact .of_released _

end Attempting

/-- What a call that fails leaves: nothing to tell its session from a new one, unless calls are to
be abandoned. One that is abandoned at once has done nothing. -/
theorem Course.leaves {call : PendingCall} {made : Nat} {lastError : String}
    {session after : Session Nat} {state stop : σ} {done : Log} {failure : SessionFailure}
    (course : Course scene call made lastError session state done
      (.ok (.error failure, after)) stop)
    (ready : 0 < made →
      session.Reset ∨ scene.stopping state = true ∧ heldBy session.link = none) :
    (made = 0 ∧ scene.stopping state = true ∧
        failure = .terminated call.method session.cluster.name) ∨
      after.Reset ∨ scene.stopping stop = true ∧ heldBy after.link = none := by
  generalize same : (Except.ok (Except.error failure, after) :
    Except Halt (Except SessionFailure Response × Session Nat)) = outcome at course
  induction course with
  | unfinished => cases same
  | @terminated made _ _ _ stopping =>
    cases same
    cases made with
    | zero => exact .inl ⟨rfl, stopping, rfl⟩
    | succ made => exact .inr (ready (Nat.succ_pos made))
  | timedOut running tried _ =>
    cases same
    rcases ready tried with reset | ⟨stopping, _⟩
    · exact .inr (.inl reset)
    · rw [running] at stopping
      cases stopping
  | halted _ _ _ => cases same
  | finished _ _ attempting =>
    cases same
    exact .inr (.inl (attempting.reset rfl))
  | @interrupted _ _ _ after _ middle _ _ _ _ _ _ attempting _ ih =>
    -- The address may still be known, but the next round ends the call.
    have left : scene.stopping middle = true ∧ heldBy after.link = none := by
      obtain ⟨link, linked, idle⟩ := attempting.idle rfl
      rw [linked]
      exact ⟨attempting.stopping_of_interrupted, heldBy_eq_none idle⟩
    rcases ih (fun _ => .inr left) same with ⟨impossible, _⟩ | left
    · cases impossible
    · exact .inr left
  | paused _ _ attempting _ _ ih =>
    have reset := attempting.reset rfl
    rcases ih (fun _ => .inl reset) same with ⟨impossible, _⟩ | left
    · cases impossible
    · exact .inr left
  | spent _ _ attempting _ _ ih =>
    have reset := attempting.reset rfl
    rcases ih (fun _ => .inl reset) same with ⟨impossible, _⟩ | left
    · cases impossible
    · exact .inr left

theorem Course.of_stopping {call : PendingCall} {made : Nat} {lastError : String}
    {session after : Session Nat} {state stop : σ} {done : Log}
    {result : Except SessionFailure Response} (stopping : scene.stopping state = true)
    (course : Course scene call made lastError session state done (.ok (result, after)) stop) :
    done = [] ∧ stop = state ∧ after = session := by
  have never : ∀ {answer : Prop}, scene.stopping state = false → answer := by
    intro answer running
    rw [stopping] at running
    cases running
  cases course with
  | terminated _ => exact ⟨rfl, rfl, rfl⟩
  | timedOut running _ _ => exact never running
  | finished running _ _ => exact never running
  | interrupted running _ _ _ => exact never running
  | paused running _ _ _ _ => exact never running
  | spent running _ _ _ _ => exact never running

theorem Course.ne_arguments {call : PendingCall} {made : Nat} {lastError : String}
    {session after : Session Nat} {state stop : σ} {done : Log} {failure : SessionFailure}
    (course : Course scene call made lastError session state done
      (.ok (.error failure, after)) stop)
    (error : ArgumentError) : failure ≠ .arguments error := by
  generalize same : (Except.ok (Except.error failure, after) :
    Except Halt (Except SessionFailure Response × Session Nat)) = outcome at course
  induction course with
  | unfinished => cases same
  | terminated _ =>
    cases same
    intro same
    cases same
  | timedOut _ _ _ =>
    cases same
    intro same
    cases same
  | halted _ _ _ => cases same
  | finished _ _ attempting =>
    cases same
    rintro rfl
    cases attempting.isOfAttempt
  | interrupted _ _ _ _ ih => exact ih same
  | paused _ _ _ _ _ ih => exact ih same
  | spent _ _ _ _ _ ih => exact ih same

def SessionFailure.isAtOnce (scene : Scene σ) (state : σ) : SessionFailure → Bool
  | .arguments _ => true
  | .terminated _ _ => scene.stopping state
  | _ => false

namespace Invoking

variable {session after : Session Nat} {request : Request} {repeatable : Bool} {state stop : σ}
  {done : Log} {failure : SessionFailure}

theorem atOnce
    (invoking : Invoking scene session request repeatable state done (.ok (.error failure, after))
      stop)
    (soon : failure.isAtOnce scene state = true) : done = [] ∧ stop = state ∧ after = session := by
  cases invoking with
  | misfit _ => exact ⟨rfl, rfl, rfl⟩
  | course _ _ course =>
    cases failure with
    | arguments error => exact absurd rfl (course.ne_arguments error)
    | terminated method cluster => exact course.of_stopping soon
    | _ => cases soon

theorem leaves
    (invoking : Invoking scene session request repeatable state done (.ok (.error failure, after))
      stop)
    (later : failure.isAtOnce scene state = false) :
    after.Reset ∨ scene.stopping stop = true ∧ heldBy after.link = none := by
  cases invoking with
  | misfit _ => cases later
  | course _ _ course =>
    rcases course.leaves (fun begun => by cases begun) with ⟨_, stopping, rfl⟩ | left
    · have running : scene.stopping state = false := later
      rw [stopping] at running
      cases running
    · exact left

end Invoking

/-! Calls that come later. -/

/-- A call that is made later, when the surroundings may be others. Calls that are to be abandoned
stay so. -/
structure LaterCall (scene : Scene σ) where
  request : Request
  repeatable : Bool
  fuel : Nat
  change : σ → σ
  stays (state : σ) (stopping : scene.stopping state = true) :
    scene.stopping (change state) = true

namespace Session

def invokeAll (scene : Scene σ) (session : Session Nat) :
    List (LaterCall scene) → Run (StateM σ) (List (Except SessionFailure Response) × Session Nat)
  | [] => pure ([], session)
  | call :: rest => do
    modify call.change
    let (result, session) ←
      session.invoke scene.surroundings call.fuel call.request call.repeatable
    let (results, session) ← session.invokeAll scene rest
    pure (result :: results, session)

theorem invokeAll_alike (later : List (LaterCall scene)) {one other : Session Nat}
    (alike : Alike scene one other) (state : σ) :
    Matching (Agreeing (Alike scene)) ((one.invokeAll scene later).play state)
      ((other.invokeAll scene later).play state) := by
  induction later generalizing one other state with
  | nil => exact .ended ⟨rfl, alike⟩
  | cons call rest ih =>
    apply Matching.common
    intro _ middle
    apply (invoke_alike call.fuel call.request call.repeatable alike middle).bind
    rintro ⟨result, left⟩ ⟨_, right⟩ last ⟨rfl, alike⟩
    apply (ih alike last).bind
    rintro ⟨results, left⟩ ⟨_, right⟩ stop ⟨rfl, alike⟩
    exact .ended ⟨rfl, alike⟩

theorem invoke_stopping {state : σ} (stopping : scene.stopping state = true) (fuel : Nat)
    (request : Request) (repeatable : Bool) (session : Session Nat) :
    ∃ outcome : Except Halt (Except SessionFailure Response), ∀ owner : Option (Link Nat),
      (invoke scene.surroundings fuel { session with link := owner } request repeatable).play
        state = (outcome.map fun result => (result, { session with link := owner }), state) := by
  simp only [invoke_play]
  cases request.method.signature.fit request.arguments with
  | error error => exact ⟨.ok (.error (.arguments error)), fun _ => rfl⟩
  | ok arguments =>
    cases Deadline.after? (scene.clock state) session.policy.longestWait with
    | none => exact ⟨.error .overflow, fun _ => rfl⟩
    | some deadline =>
      cases fuel with
      | zero => exact ⟨.error .unfinished, fun _ => rfl⟩
      | succ fuel =>
        refine ⟨.ok (.error (.terminated request.method session.cluster.name)), ?_⟩
        intro owner
        simp only [attempts_play_stopping stopping]
        rfl

theorem invokeAll_stopping (later : List (LaterCall scene)) (session : Session Nat)
    (owner : Option (Link Nat)) {state : σ} (stopping : scene.stopping state = true) :
    Matching (Agreeing fun _ _ => True) ((session.invokeAll scene later).play state)
      ((invokeAll scene { session with link := owner } later).play state) := by
  induction later generalizing state with
  | nil => exact .ended ⟨rfl, trivial⟩
  | cons call rest ih =>
    have stays := call.stays state stopping
    have changes : Run.play (modify call.change : Run (StateM σ) PUnit) state =
        (.ok ⟨⟩, call.change state) := rfl
    obtain ⟨outcome, invokes⟩ :=
      invoke_stopping stays call.fuel call.request call.repeatable session
    have first : (session.invoke scene.surroundings call.fuel call.request call.repeatable).play
        (call.change state) = _ := invokes session.link
    have second := invokes owner
    rw [invokeAll, invokeAll, Run.play_bind_ok changes, Run.play_bind_ok changes]
    cases outcome with
    | error halt =>
      rw [Run.play_bind_error first, Run.play_bind_error second]
      exact .halted
    | ok result =>
      rw [Run.play_bind_ok first, Run.play_bind_ok second]
      apply (ih stays).bind
      rintro ⟨results, left⟩ ⟨_, right⟩ stop ⟨rfl, _⟩
      exact .ended ⟨rfl, trivial⟩

end Session

/-- A call that fails at once has done nothing. One that fails later leaves no channel open, and
calls that come after it do what those of a new session would, on any surroundings. -/
theorem failed_invoke_leaves_nothing (scene : Scene σ) (session : Session Nat) (done own : Log)
    (history : Session.History scene session done own) (fuel : Nat) (request : Request)
    (repeatable : Bool) (state : σ) (failure : SessionFailure) (after : Session Nat) :
    let performed :=
      scene.perform (session.invoke scene.surroundings fuel request repeatable) state
    performed.outcome = .ok (.error failure, after) →
      (failure.isAtOnce scene state = true →
        performed.done = [] ∧ performed.stop = state ∧ after = session) ∧
      (failure.isAtOnce scene state = false →
        heldBy after.link = none ∧ Log.Custody (done ++ performed.done) none ∧
        ∀ later : List (LaterCall scene),
          let next := scene.perform (after.invokeAll scene later) performed.stop
          let anew := scene.perform (session.renewed.invokeAll scene later) performed.stop
          next.outcome.map Prod.fst = anew.outcome.map Prod.fst ∧ next.done = anew.done ∧
            next.stop = anew.stop) := by
  intro performed failed
  have invoking : Invoking scene session request repeatable state performed.done performed.outcome
    performed.stop := .of_invoke scene fuel session request repeatable state
  rw [failed] at invoking
  refine ⟨invoking.atOnce, ?_⟩
  intro begun
  obtain ⟨custody, _, sound⟩ := history.kept
  obtain ⟨_, keeps⟩ := session.invoke_keeps sound fuel request repeatable state
  have tended := keeps.tended failed
  have renewed : session.renewed = after.renewed := by
    rw [Session.renewed, Session.renewed, invoking.frame]
  have origin : after.freshLink scene = session.freshLink scene := by
    rw [Session.freshLink, Session.freshLink, invoking.frame]
  have left := invoking.leaves begun
  have idle : heldBy after.link = none := by
    rcases left with reset | ⟨_, idle⟩
    · exact reset.heldBy_eq_none
    · exact idle
  have extended := custody.extend tended.handover
  rw [idle] at extended
  refine ⟨idle, extended, ?_⟩
  intro later
  rw [renewed]
  rcases left with reset | ⟨stopping, _⟩
  · have alike := reset.alike ⟨origin, tended.owned⟩
    exact (after.invokeAll_alike later alike performed.stop).observed
  · exact (after.invokeAll_stopping later none stopping).observed

/-- A call that loses its connection leaves none, and the next one is as if it were the first. On a
stage where calls are abandoned one does nothing at all. -/
theorem lost_call_leaves_nothing :
    let scene := Stage.scene {} fun _ => .ok .anonymous
    let lost : Stage := { answers := [.error (.channel (.notOpen "lost"))] }
    let request : Request := ⟨.getJobs, [.null]⟩
    let invoke := Session.hasty.invoke scene.surroundings 9 request false
    let again : LaterCall scene := ⟨request, false, 9, id, fun _ stopping => stopping⟩
    let performed := scene.perform invoke lost
    let refused := scene.perform invoke { stopping := true }
    (∃ failure after, performed.outcome = .ok (.error failure, after) ∧
      heldBy after.link = none ∧ performed.done.Custody none ∧
      (scene.perform (after.invokeAll scene [again]) performed.stop).done =
        (scene.perform (Session.hasty.renewed.invokeAll scene [again]) performed.stop).done) ∧
    ∃ failure after, refused.outcome = .ok (.error failure, after) ∧ refused.done = [] ∧
      after = Session.hasty := by
  intro scene lost request invoke again performed refused
  have fails : performed.failure?.map (·.isAtOnce scene lost) = some false := by
    decide +kernel
  have refuses : refused.failure?.map (·.isAtOnce scene { stopping := true }) = some true := by
    decide +kernel
  obtain ⟨failure, fails, begun⟩ := Option.map_eq_some_iff.mp fails
  obtain ⟨after, failed⟩ := Performance.failure?_eq_some.mp fails
  obtain ⟨refusal, refuses, atOnce⟩ := Option.map_eq_some_iff.mp refuses
  obtain ⟨same, stopped⟩ := Performance.failure?_eq_some.mp refuses
  have new : Session.History scene Session.hasty [] [] := .made rfl
  have leaves := failed_invoke_leaves_nothing scene Session.hasty [] [] new 9 request false lost
    failure after failed
  have nothing := failed_invoke_leaves_nothing scene Session.hasty [] [] new 9 request false
    { stopping := true } refusal same stopped
  obtain ⟨idle, custody, alike⟩ := leaves.2 begun
  rw [List.nil_append] at custody
  obtain ⟨quiet, _, unchanged⟩ := nothing.1 atOnce
  exact ⟨⟨failure, after, failed, idle, custody, (alike [again]).2.1⟩, refusal, same, stopped,
    quiet, unchanged⟩

end SchedulerLink
