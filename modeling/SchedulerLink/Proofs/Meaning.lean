import SchedulerLink.Proofs.Ending
import SchedulerLink.Proofs.Rounds

/-!
What the result of a call means.

A call may be answered, refused, cut off or left without a connection in any of its attempts, and
only its last attempt decides what the caller is told. `Evidence` says what stands behind the end of
one attempt, `Conclusion` what stands behind the result of a call.
-/

namespace SchedulerLink

variable {σ : Type} {scene : Scene σ} {call : PendingCall}

/-! The last answer. -/

def Log.lastAnswer? (log : Log) : Option (Except Halt (Except CallFailure Response)) :=
  (log.filterMap fun
    | .called _ _ _ _ answer => some answer
    | _ => none).getLast?

namespace Log

theorem lastAnswer?_append (one other : Log) :
    lastAnswer? (one ++ other) = other.lastAnswer?.or one.lastAnswer? := by
  simp only [lastAnswer?, List.filterMap_append, List.getLast?_append]

theorem Callless.lastAnswer? {log : Log} (callless : log.Callless) : log.lastAnswer? = none := by
  rw [Log.lastAnswer?, List.getLast?_eq_none_iff, List.filterMap_eq_nil_iff]
  intro entry member
  have other := callless entry member
  cases entry with
  | called _ _ _ _ _ => cases other
  | _ => rfl

theorem lastAnswer?_called {before after : Log} (early : before.Callless) (late : after.Callless)
    (channel : Nat) (sequence : Int32) (method : Method) (arguments : List Json)
    (answer : Except Halt (Except CallFailure Response)) :
    lastAnswer? (before ++ .called channel sequence method arguments answer :: after) =
      some answer := by
  have whole : before ++ .called channel sequence method arguments answer :: after =
      before ++ ([.called channel sequence method arguments answer] ++ after) := rfl
  rw [whole, lastAnswer?_append, lastAnswer?_append, early.lastAnswer?, late.lastAnswer?]
  rfl

end Log

theorem Paced.lastAnswer?_cons {round done : Log} {rounds : List Log}
    (paced : Paced (round :: rounds) done) :
    ∃ later, Paced rounds later ∧
      done.lastAnswer? = (later.lastAnswer?).or round.lastAnswer? := by
  cases paced with
  | next rest => exact ⟨_, rest, Log.lastAnswer?_append _ _⟩
  | pause span rest => exact ⟨_, rest, Log.lastAnswer?_append _ _⟩

/-! The login of a session. -/

def Session.login (scene : Scene σ) (session : Session Nat) : Except LinkFailure Login :=
  (session.linkOf scene.surroundings).map (·.login)

theorem Connecting.login_of_linkOf {limit : Option Deadline} {session : Session Nat}
    {link after : Link Nat} {state stop : σ} {done : Log}
    {result : Except LinkFailure (Connection Nat)}
    (connecting : Connecting scene limit link state done (.ok (result, after)) stop)
    (built : session.linkOf scene.surroundings = .ok link) :
    session.login scene = .ok after.login := by
  rw [Session.login, built, connecting.login]
  rfl

structure Session.Resumes (scene : Scene σ) (origin session : Session Nat) : Prop where
  cluster : session.cluster = origin.cluster
  login : session.login scene = origin.login scene

namespace Session.Resumes

variable {origin between session : Session Nat}

theorem refl (scene : Scene σ) (session : Session Nat) : session.Resumes scene session := ⟨rfl, rfl⟩

theorem trans (first : origin.Resumes scene between) (second : between.Resumes scene session) :
    origin.Resumes scene session :=
  ⟨second.cluster.trans first.cluster, second.login.trans first.login⟩

end Session.Resumes

theorem Attempting.resumes {session after : Session Nat} {state stop : σ} {done : Log}
    {attempt : Attempt}
    (attempting : Attempting scene call session state done (.ok (attempt, after)) stop)
    (unfinished : attempt.isFinished = false) : session.Resumes scene after := by
  cases attempting with
  | unbuilt _ => cases unfinished
  | interrupted built connecting => exact ⟨rfl, (connecting.login_of_linkOf built).symm⟩
  | tooLate built connecting => exact ⟨rfl, (connecting.login_of_linkOf built).symm⟩
  | unreachable _ _ _ => cases unfinished
  | answered _ _ _ _ => cases unfinished
  | failed built connecting _ _ _ => exact ⟨rfl, (connecting.login_of_linkOf built).symm⟩

/-! What stands behind the end of an attempt. -/

/-- How an attempt gets no connection. -/
inductive Unconnected (scene : Scene σ) (call : PendingCall) (session : Session Nat) (state : σ) :
    Log → LinkFailure → σ → Prop where
  | unbuilt {failure : LinkFailure}
    (unbuilt : session.linkOf scene.surroundings = .error failure) :
    Unconnected scene call session state [] failure state
  | connecting {link idle : Link Nat} {done : Log} {failure : LinkFailure} {stop : σ}
    (built : session.linkOf scene.surroundings = .ok link)
    (connecting : Connecting scene (some call.deadline) link state done
      (.ok (.error failure, idle)) stop) :
    Unconnected scene call session state done failure stop

/-- What stands behind the end of an attempt, where `answer` is what the last call was answered. An
attempt that was abandoned has nothing to show. -/
inductive Evidence (scene : Scene σ) (call : PendingCall)
    (answer : Option (Except Halt (Except CallFailure Response))) (session : Session Nat)
    (state : σ) (done : Log) (stop : σ) : Attempt → Prop where
  | answered {response : Response} (answered : answer = some (.ok (.ok response)))
    (code : response.code ≠ .errorTransient) :
    Evidence scene call answer session state done stop (.finished (.ok response))
  | refused {status : Nat} {login : Login}
    (answered : answer = some (.ok (.error (.channel (.unauthorized status)))))
    (provided : session.login scene = .ok login) :
    Evidence scene call answer session state done stop
      (.finished (.error (.refused call.method login.advice)))
  | disconnected {failure : ChannelFailure}
    (answered : answer = some (.ok (.error (.channel failure))))
    (authorized : ∀ status, failure ≠ .unauthorized status)
    (inTime : ∀ detail, failure ≠ .timedOut detail)
    (final : call.repeatable = false ∨ ∃ address, failure = .badAddress address) :
    Evidence scene call answer session state done stop
      (.finished (.error (.disconnected call.method failure)))
  | undecoded {fault : MessageFault}
    (answered : answer = some (.ok (.error (.protocol fault)))) :
    Evidence scene call answer session state done stop
      (.finished (.error (.failed call.method (.protocol fault))))
  | exception {kind : Int32} {detail : String}
    (answered : answer = some (.ok (.error (.application kind detail)))) :
    Evidence scene call answer session state done stop
      (.finished (.error (.failed call.method (.application kind detail))))
  | unreachable {failure : LinkFailure}
    (unconnected : Unconnected scene call session state done failure stop)
    (final : failure.isFinal = true) :
    Evidence scene call answer session state done stop
      (.finished (.error (.unreachable call.method session.cluster.name failure)))
  | busy {response : Response} (answered : answer = some (.ok (.ok response)))
    (code : response.code = .errorTransient) :
    Evidence scene call answer session state done stop
      (.transient (", ".intercalate response.details))
  | late {detail : String}
    (answered : answer = some (.ok (.error (.channel (.timedOut detail))))) :
    Evidence scene call answer session state done stop (.transient s!"timed out: {detail}")
  | lost {failure : ChannelFailure} (answered : answer = some (.ok (.error (.channel failure))))
    (authorized : ∀ status, failure ≠ .unauthorized status)
    (inTime : ∀ detail, failure ≠ .timedOut detail) (network : failure.isNetwork = true)
    (safe : call.repeatable = true) :
    Evidence scene call answer session state done stop (.transient failure.message)
  | tooLate {uri reason : String} {attempts : Nat}
    (unconnected : Unconnected scene call session state done
      (.connectTimeout uri attempts reason) stop) :
    Evidence scene call answer session state done stop
      (.transient (LinkFailure.connectTimeout uri attempts reason).message)

namespace Evidence

variable {answer whole : Option (Except Halt (Except CallFailure Response))}
  {session : Session Nat} {state stop : σ} {done : Log} {attempt : Attempt}

theorem mono (evidence : Evidence scene call answer session state done stop attempt)
    (last : ∀ found, answer = some found → whole = some found) :
    Evidence scene call whole session state done stop attempt := by
  cases evidence with
  | answered answered code => exact .answered (last _ answered) code
  | refused answered provided => exact .refused (last _ answered) provided
  | disconnected answered authorized inTime final =>
    exact .disconnected (last _ answered) authorized inTime final
  | undecoded answered => exact .undecoded (last _ answered)
  | exception answered => exact .exception (last _ answered)
  | unreachable unconnected final => exact .unreachable unconnected final
  | busy answered code => exact .busy (last _ answered) code
  | late answered => exact .late (last _ answered)
  | lost answered authorized inTime network safe =>
    exact .lost (last _ answered) authorized inTime network safe
  | tooLate unconnected => exact .tooLate unconnected

theorem of_lost {advice : String} {failure : ChannelFailure}
    (answered : answer = some (.ok (.error (.channel failure))))
    (authorized : ∀ status, failure ≠ .unauthorized status)
    (inTime : ∀ detail, failure ≠ .timedOut detail)
    (address : failure.isNetwork = false → ∃ address, failure = .badAddress address) :
    Evidence scene call answer session state done stop
      (Attempt.ofResult call advice (.error (.channel failure))) := by
  have outcome : Outcome.ofResult (.error (.channel failure)) call.repeatable =
      if call.repeatable && failure.isNetwork then .transient failure.message
      else .permanent (.channel failure) := by
    cases failure with
    | timedOut detail => exact absurd rfl (inTime detail)
    | unauthorized status => exact absurd rfl (authorized status)
    | _ => rfl
  rw [Attempt.ofResult, outcome]
  by_cases again : (call.repeatable && failure.isNetwork) = true
  · rw [if_pos again]
    rw [Bool.and_eq_true] at again
    exact .lost answered authorized inTime again.2 again.1
  · rw [if_neg again]
    rw [Bool.not_eq_true, Bool.and_eq_false_iff] at again
    exact .disconnected answered authorized inTime (again.imp id address)

theorem of_result {login : Login} {result : Except CallFailure Response}
    (answered : answer = some (.ok result)) (provided : session.login scene = .ok login) :
    Evidence scene call answer session state done stop
      (Attempt.ofResult call login.advice result) := by
  rcases result with (failure | fault | ⟨kind, detail⟩) | response
  · cases failure with
    | notOpen detail => exact .of_lost answered nofun nofun nofun
    | timedOut detail => exact .late answered
    | unauthorized status => exact .refused answered provided
    | badAddress address => exact .of_lost answered nofun nofun fun _ => ⟨address, rfl⟩
    | unknown detail => exact .of_lost answered nofun nofun nofun
  · exact .undecoded answered
  · exact .exception answered
  · have outcome : Outcome.ofResult (.ok response) call.repeatable =
        if response.isTransient then .transient (", ".intercalate response.details)
        else .success response := rfl
    rw [Attempt.ofResult, outcome]
    by_cases busy : response.isTransient = true
    · rw [if_pos busy]
      exact .busy answered (of_decide_eq_true busy)
    · rw [if_neg busy]
      exact .answered answered (mt decide_eq_true busy)

end Evidence

theorem Attempting.evidence {session after : Session Nat} {state stop : σ} {done : Log}
    {attempt : Attempt}
    (attempting : Attempting scene call session state done (.ok (attempt, after)) stop)
    (heeded : attempt ≠ .interrupted) :
    Evidence scene call done.lastAnswer? session state done stop attempt := by
  cases attempting with
  | unbuilt unbuilt =>
    obtain ⟨-, detail, rfl⟩ := Session.unbuilt_of_linkOf unbuilt
    exact .unreachable (.unbuilt unbuilt) rfl
  | interrupted _ _ => exact absurd rfl heeded
  | tooLate built connecting => exact .tooLate (.connecting built connecting)
  | unreachable built final connecting => exact .unreachable (.connecting built connecting) final
  | @answered _ ready _ _ result response _ _ built connecting calls success =>
    have answered := Log.lastAnswer?_called connecting.callless .nil
    have came : Attempt.ofResult call ready.login.advice result = .finished (.ok response) := by
      rw [Attempt.ofResult, success]
    rw [← came]
    exact .of_result (answered _ _ _ _ _) (connecting.login_of_linkOf built)
  | failed built connecting calls failure releasing =>
    have answered := Log.lastAnswer?_called connecting.callless releasing.callless
    exact .of_result (answered _ _ _ _ _) (connecting.login_of_linkOf built)

/-! What stands behind the result of a call. -/

def Performance.IsTransient (round : Performance σ (Attempt × Session Nat)) : Prop :=
  ∃ reason after, round.outcome = .ok (.transient reason, after)

/-- What stands behind the result of a call, in terms of its attempts and of what the last call was
answered. Every attempt but the last one was transient, and so was the last one of a call that took
too long. -/
inductive Conclusion (scene : Scene σ) (call : PendingCall)
    (answer : Option (Except Halt (Except CallFailure Response))) (origin : Session Nat) :
    List (Performance σ (Attempt × Session Nat)) → Except SessionFailure Response → σ → Prop where
  | finished {earlier : List (Performance σ (Attempt × Session Nat))} {fuel : Nat}
    {session after : Session Nat} {state : σ} {last : Performance σ (Attempt × Session Nat)}
    {result : Except SessionFailure Response}
    (transient : ∀ round ∈ earlier, round.IsTransient) (resumes : origin.Resumes scene session)
    (performs : last = scene.perform (session.attempt scene.surroundings fuel call) state)
    (ends : last.outcome = .ok (.finished result, after))
    (evidence : Evidence scene call answer session state last.done last.stop (.finished result)) :
    Conclusion scene call answer origin (earlier ++ [last]) result last.stop
  | timedOut {earlier : List (Performance σ (Attempt × Session Nat))} {fuel : Nat}
    {session after : Session Nat} {state stop : σ}
    {last : Performance σ (Attempt × Session Nat)} {reason : String}
    (transient : ∀ round ∈ earlier, round.IsTransient) (resumes : origin.Resumes scene session)
    (performs : last = scene.perform (session.attempt scene.surroundings fuel call) state)
    (ends : last.outcome = .ok (.transient reason, after))
    (evidence : Evidence scene call answer session state last.done last.stop (.transient reason)) :
    Conclusion scene call answer origin (earlier ++ [last])
      (.error (.timedOut call.method origin.cluster.name reason)) stop
  | terminated {rounds : List (Performance σ (Attempt × Session Nat))} {stop : σ}
    (stopping : scene.stopping stop = true) :
    Conclusion scene call answer origin rounds
      (.error (.terminated call.method origin.cluster.name)) stop

namespace Conclusion

variable {answer whole : Option (Except Halt (Except CallFailure Response))}
  {origin session : Session Nat} {rounds : List (Performance σ (Attempt × Session Nat))}
  {result : Except SessionFailure Response} {stop : σ}

theorem methodName {failure : SessionFailure}
    (conclusion : Conclusion scene call answer origin rounds (.error failure) stop) :
    failure.methodName = call.method.name := by
  cases conclusion with
  | finished _ _ _ _ evidence => cases evidence <;> rfl
  | timedOut _ _ _ _ _ => rfl
  | terminated _ => rfl

/-- The conclusion of a call that began with one more transient attempt. -/
theorem cons {round : Performance σ (Attempt × Session Nat)}
    (conclusion : Conclusion scene call answer session rounds result stop)
    (transient : round.IsTransient) (resumes : origin.Resumes scene session)
    (last : ∀ found, answer = some found → whole = some found) :
    Conclusion scene call whole origin (round :: rounds) result stop := by
  cases conclusion with
  | finished earlier resumed performs ends evidence =>
    exact .finished (List.forall_mem_cons.mpr ⟨transient, earlier⟩) (resumes.trans resumed) performs
      ends (evidence.mono last)
  | timedOut earlier resumed performs ends evidence =>
    rw [resumes.cluster]
    exact .timedOut (List.forall_mem_cons.mpr ⟨transient, earlier⟩) (resumes.trans resumed) performs
      ends (evidence.mono last)
  | terminated stopping =>
    rw [resumes.cluster]
    exact .terminated stopping

end Conclusion

namespace Session

theorem rounds_begun {made : Nat} {state : σ}
    (begun : ¬(scene.stopping state = true ∨
      0 < made ∧ call.deadline.isExpired (scene.clock state) = true))
    (fuel : Nat) (session : Session Nat) :
    session.rounds scene call (fuel + 1) made state =
      let round := scene.perform (session.attempt scene.surroundings fuel call) state
      round ::
        match round.outcome with
        | .ok (.transient _, after) =>
          after.rounds scene call fuel (made + 1) (after.rested scene call (made + 1) round.stop)
        | .ok (.interrupted, after) => after.rounds scene call fuel (made + 1) round.stop
        | _ => [] := by
  rw [rounds]
  exact if_neg (by simpa using begun)

theorem terminated_of_stopping {fuel made : Nat} {lastError : String} {session after : Session Nat}
    {state stop : σ} {result : Except SessionFailure Response}
    (stopping : scene.stopping state = true)
    (plays : (session.attempts scene.surroundings call fuel made lastError).play state =
      (.ok (result, after), stop)) :
    result = .error (.terminated call.method session.cluster.name) ∧ stop = state := by
  cases fuel with
  | zero => cases plays
  | succ fuel =>
    rw [attempts_play_stopping stopping] at plays
    cases plays
    exact ⟨rfl, rfl⟩

theorem attempts_conclude_over {fuel made : Nat} {lastError : String} {session after : Session Nat}
    {state stop : σ} {result : Except SessionFailure Response}
    {answer : Option (Except Halt (Except CallFailure Response))}
    (ended : scene.stopping state = true ∨
      0 < made ∧ call.deadline.isExpired (scene.clock state) = true)
    (plays : (session.attempts scene.surroundings call (fuel + 1) made lastError).play state =
      (.ok (result, after), stop)) :
    (session.rounds scene call (fuel + 1) made state = [] ∧ 0 < made ∧
      result = .error (.timedOut call.method session.cluster.name lastError)) ∨
    Conclusion scene call answer session (session.rounds scene call (fuel + 1) made state)
      result stop := by
  by_cases stopping : scene.stopping state = true
  · obtain ⟨rfl, rfl⟩ := terminated_of_stopping stopping plays
    exact .inr (.terminated stopping)
  · obtain ⟨tried, expired⟩ := ended.resolve_left stopping
    have late : (0 < made && call.deadline.isExpired (scene.clock state)) = true := by
      simp only [tried, expired, decide_true, Bool.and_self]
    rw [attempts_play_late stopping tried expired] at plays
    cases plays
    rw [rounds, late, Bool.or_true, if_pos rfl]
    exact .inl ⟨rfl, tried, rfl⟩

theorem attempts_conclude (fuel made : Nat) (lastError : String) (session : Session Nat) (state : σ)
    {result : Except SessionFailure Response} {after : Session Nat} {stop : σ}
    (plays : (session.attempts scene.surroundings call fuel made lastError).play state =
      (.ok (result, after), stop)) {done : Log}
    (paced : Paced ((session.rounds scene call fuel made state).map (·.done)) done) :
    (session.rounds scene call fuel made state = [] ∧ 0 < made ∧
      result = .error (.timedOut call.method session.cluster.name lastError)) ∨
    Conclusion scene call done.lastAnswer? session (session.rounds scene call fuel made state)
      result stop := by
  -- The last answer of the whole call is that of the later attempts, if they have one.
  induction fuel generalizing made lastError session state done with
  | zero => cases plays
  | succ fuel ih =>
    by_cases ended : scene.stopping state = true ∨
      0 < made ∧ call.deadline.isExpired (scene.clock state) = true
    · exact attempts_conclude_over ended plays
    have parts : (session.attempt scene.surroundings fuel call).play state =
        ((scene.perform (session.attempt scene.surroundings fuel call) state).outcome,
          (scene.perform (session.attempt scene.surroundings fuel call) state).stop) := rfl
    have attempting := attempt_performs scene fuel call session state
    rw [attempts_play_begun ended, parts] at plays
    rw [rounds_begun ended] at paced ⊢
    generalize performs : scene.perform (session.attempt scene.surroundings fuel call) state = round
      at plays paced attempting ⊢
    right
    rcases ends : round.outcome with halt | ⟨last | reason | _, next⟩
    all_goals
      rw [ends] at attempting plays
      simp only [ends, List.map_cons] at paced ⊢
      obtain ⟨later, paced, answers⟩ := paced.lastAnswer?_cons
    · cases plays
    · cases plays
      have evidence := attempting.evidence nofun
      cases paced
      rw [answers]
      exact .finished (List.forall_mem_nil _) (.refl scene session) performs.symm ends evidence
    · have evidence := attempting.evidence nofun
      have resumes := attempting.resumes rfl
      rcases ih _ _ _ _ plays paced with ⟨last, -, rfl⟩ | conclusion
      · rw [last] at paced ⊢
        cases paced
        rw [answers, resumes.cluster]
        exact .timedOut (List.forall_mem_nil _) (.refl scene session) performs.symm ends evidence
      · apply conclusion.cons ⟨reason, next, ends⟩ resumes
        intro found answered
        rw [answers, answered, Option.some_or]
    · have stopping := attempting.stopping_of_interrupted
      obtain ⟨rfl, rfl⟩ := terminated_of_stopping stopping plays
      rw [(attempting.resumes rfl).cluster]
      exact .terminated stopping

end Session

/-- What the caller is told follows from the last attempt alone, however many failed before it. A
response is the last answer. Refused credentials, a lost connection and a failure of the call are
the last answer as well, and the advice is that of the session's login. Where the scheduler is
called unreachable, the last attempt had no connection. A call that took too long had transient
failures only, and gives the reason of the last one. Every failure names the call. -/
theorem result_follows_from_last_attempt (scene : Scene σ) (fuel : Nat) (session : Session Nat)
    (request : Request) (repeatable : Bool) (state : σ) {arguments : List Json}
    (fits : request.method.signature.fit request.arguments = .ok arguments)
    {result : Except SessionFailure Response} {after : Session Nat} :
    let performed :=
      scene.perform (session.invoke scene.surroundings fuel request repeatable) state
    performed.outcome = .ok (result, after) →
      (∃ deadline, Deadline.after? (scene.clock state) session.policy.longestWait = some deadline ∧
        Conclusion scene ⟨request.method, arguments, repeatable, deadline⟩
          performed.done.lastAnswer? session
          (session.roundsOf scene fuel request repeatable state) result performed.stop) ∧
      ∀ failure, result = .error failure → failure.methodName = request.method.name := by
  intro performed ends
  have paced := session.invoke_paced scene fuel request repeatable state
  have plays : (session.invoke scene.surroundings fuel request repeatable).play state =
      (.ok (result, after), performed.stop) := by
    rw [← ends]
    rfl
  rw [Session.invoke_play, fits] at plays
  cases inTime : Deadline.after? (scene.clock state) session.policy.longestWait with
  | none =>
    rw [inTime] at plays
    cases plays
  | some deadline =>
    rw [inTime] at plays
    have rounds : session.roundsOf scene fuel request repeatable state = session.rounds scene
        ⟨request.method, arguments, repeatable, deadline⟩ fuel 0 state := by
      simp only [Session.roundsOf, fits, inTime]
    rw [rounds] at paced ⊢
    have conclusion := (Session.attempts_conclude fuel 0 "" session state plays paced).resolve_left
      fun none => Nat.lt_irrefl 0 none.2.1
    refine ⟨⟨deadline, rfl, conclusion⟩, ?_⟩
    rintro failure rfl
    exact conclusion.methodName

def SessionFailure.advice? : SessionFailure → Option String
  | .refused _ advice => some advice
  | _ => none

def Stage.souring : Stage where
  answers := [.error (.channel (.notOpen "reset")), .ok (.transient ["busy"]),
    .error (.channel (.unauthorized 401))]

theorem souring_scheduler_refuses :
    let scene := Stage.souring.scene fun _ => .ok (.fixed ⟨"caller", "secret"⟩ "ask for an account")
    let session := { Session.hasty with policy := { longestWait := .ofSeconds 60 } }
    let performed :=
      scene.perform (session.invoke scene.surroundings 9 ⟨.getJobs, [.null]⟩ true) Stage.souring
    ∃ failure after, performed.outcome = .ok (.error failure, after) ∧
      failure.methodName = "getJobs" ∧ failure.advice? = some "ask for an account" ∧
      (∃ status, performed.done.lastAnswer? =
        some (.ok (.error (.channel (.unauthorized status))))) ∧
      ∃ earlier last, session.roundsOf scene 9 ⟨.getJobs, [.null]⟩ true Stage.souring =
        earlier ++ [last] ∧ earlier.length = 2 ∧ ∀ round ∈ earlier, round.IsTransient := by
  intro scene session performed
  have refuses : performed.failure?.bind SessionFailure.advice? = some "ask for an account" := by
    decide +kernel
  have three : (session.roundsOf scene 9 ⟨.getJobs, [.null]⟩ true Stage.souring).length = 3 := by
    decide +kernel
  have fits : Method.getJobs.signature.fit [.null] = .ok [.null] := rfl
  obtain ⟨failure, failed, advises⟩ := Option.bind_eq_some_iff.mp refuses
  obtain ⟨after, ends⟩ := Performance.failure?_eq_some.mp failed
  obtain ⟨⟨deadline, -, conclusion⟩, names⟩ := result_follows_from_last_attempt scene 9 session
    ⟨.getJobs, [.null]⟩ true Stage.souring fits ends
  refine ⟨failure, after, ends, names _ rfl, advises, ?_⟩
  generalize session.roundsOf scene 9 ⟨.getJobs, [.null]⟩ true Stage.souring = rounds
    at conclusion three
  generalize performed.stop = stop at conclusion
  cases conclusion with
  | @finished earlier _ _ _ _ last _ transient _ _ _ evidence =>
    cases evidence with
    | @refused status _ answered _ =>
      rw [List.length_append] at three
      exact ⟨⟨status, answered⟩, earlier, last, rfl, Nat.succ.inj three, transient⟩
    | _ => cases advises
  | timedOut _ _ _ _ _ => cases advises
  | terminated _ => cases advises

end SchedulerLink
