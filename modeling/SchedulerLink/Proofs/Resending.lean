import SchedulerLink.Proofs.Course
import SchedulerLink.Proofs.StageScene

/-!
When a call goes out again.

A call that went out may have been carried out, so it goes out a second time only after an answer
that says that it was not, or whose caller said that doing it twice is safe. That word of the caller
matters only to a call that would fail for a lost connection otherwise.
-/

namespace SchedulerLink

variable {σ : Type} {scene : Scene σ}

def Entry.isCall : Entry → Bool
  | .called _ _ _ _ _ => true
  | _ => false

/-- A call after which the same call may go out again. -/
inductive Entry.Resendable (repeatable : Bool) : Entry → Prop where
  | busy {channel : Nat} {sequence : Int32} {method : Method} {arguments : List Json}
    {response : Response} (code : response.code = .errorTransient) :
    Resendable repeatable (.called channel sequence method arguments (.ok (.ok response)))
  | timedOut {channel : Nat} {sequence : Int32} {method : Method} {arguments : List Json}
    {detail : String} :
    Resendable repeatable
      (.called channel sequence method arguments (.ok (.error (.channel (.timedOut detail)))))
  | notOpen {channel : Nat} {sequence : Int32} {method : Method} {arguments : List Json}
    {detail : String} (safe : repeatable = true) :
    Resendable repeatable
      (.called channel sequence method arguments (.ok (.error (.channel (.notOpen detail)))))
  | unknown {channel : Nat} {sequence : Int32} {method : Method} {arguments : List Json}
    {detail : String} (safe : repeatable = true) :
    Resendable repeatable
      (.called channel sequence method arguments (.ok (.error (.channel (.unknown detail)))))

/-- A call that the answer puts an end to. -/
inductive Entry.Conclusive (repeatable : Bool) : Entry → Prop where
  | response {channel : Nat} {sequence : Int32} {method : Method} {arguments : List Json}
    {response : Response} (code : response.code ≠ .errorTransient) :
    Conclusive repeatable (.called channel sequence method arguments (.ok (.ok response)))
  | unauthorized {channel : Nat} {sequence : Int32} {method : Method} {arguments : List Json}
    {status : Nat} :
    Conclusive repeatable
      (.called channel sequence method arguments (.ok (.error (.channel (.unauthorized status)))))
  | badAddress {channel : Nat} {sequence : Int32} {method : Method} {arguments : List Json}
    {address : String} :
    Conclusive repeatable
      (.called channel sequence method arguments (.ok (.error (.channel (.badAddress address)))))
  | protocol {channel : Nat} {sequence : Int32} {method : Method} {arguments : List Json}
    {fault : MessageFault} :
    Conclusive repeatable
      (.called channel sequence method arguments (.ok (.error (.protocol fault))))
  | application {channel : Nat} {sequence kind : Int32} {method : Method} {arguments : List Json}
    {detail : String} :
    Conclusive repeatable
      (.called channel sequence method arguments (.ok (.error (.application kind detail))))
  | notOpen {channel : Nat} {sequence : Int32} {method : Method} {arguments : List Json}
    {detail : String} (risky : repeatable = false) :
    Conclusive repeatable
      (.called channel sequence method arguments (.ok (.error (.channel (.notOpen detail)))))
  | unknown {channel : Nat} {sequence : Int32} {method : Method} {arguments : List Json}
    {detail : String} (risky : repeatable = false) :
    Conclusive repeatable
      (.called channel sequence method arguments (.ok (.error (.channel (.unknown detail)))))

theorem Entry.Conclusive.isCall {repeatable : Bool} {entry : Entry}
    (conclusive : entry.Conclusive repeatable) : entry.isCall = true := by
  cases conclusive <;> rfl

theorem Entry.Conclusive.not_resendable {repeatable : Bool} {entry : Entry}
    (conclusive : entry.Conclusive repeatable) : ¬ entry.Resendable repeatable := by
  intro resendable
  cases resendable with
  | busy code =>
    cases conclusive with
    | response other => exact other code
  | timedOut => cases conclusive
  | notOpen safe =>
    cases conclusive with
    | notOpen risky => rw [safe] at risky; cases risky
  | unknown safe =>
    cases conclusive with
    | unknown risky => rw [safe] at risky; cases risky

theorem Outcome.resendable_of_ofResult {result : Except CallFailure Response} {repeatable : Bool}
    {reason : String} (passing : Outcome.ofResult result repeatable = .transient reason)
    (channel : Nat) (sequence : Int32) (method : Method) (arguments : List Json) :
    (Entry.called channel sequence method arguments (.ok result)).Resendable repeatable := by
  rcases result with (failure | fault | ⟨kind, detail⟩) | response
  · cases failure with
    | notOpen detail =>
      cases repeatable with
      | true => exact .notOpen rfl
      | false => cases passing
    | timedOut detail => exact .timedOut
    | unauthorized status => cases passing
    | badAddress address => cases repeatable <;> cases passing
    | unknown detail =>
      cases repeatable with
      | true => exact .unknown rfl
      | false => cases passing
  · cases passing
  · cases passing
  · unfold Outcome.ofResult at passing
    by_cases busy : response.isTransient = true
    · exact .busy (of_decide_eq_true busy)
    · simp [busy] at passing

/-- Whether a call is safe to repeat matters only to one whose connection was lost. -/
theorem Outcome.ofResult_repeatable (result : Except CallFailure Response) :
    Outcome.ofResult result true = Outcome.ofResult result false ∨
      ∃ failure : ChannelFailure, failure.isNetwork = true ∧
        Outcome.ofResult result false = .permanent (.channel failure) := by
  rcases result with (failure | fault | ⟨kind, detail⟩) | response
  · cases failure with
    | notOpen detail => exact .inr ⟨.notOpen detail, rfl, rfl⟩
    | timedOut detail => exact .inl rfl
    | unauthorized status => exact .inl rfl
    | badAddress address => exact .inl rfl
    | unknown detail => exact .inr ⟨.unknown detail, rfl, rfl⟩
  · exact .inl rfl
  · exact .inl rfl
  · exact .inl rfl

theorem Attempt.transient_of_ofResult {call : PendingCall} {advice : String}
    {result : Except CallFailure Response}
    (unfinished : (Attempt.ofResult call advice result).isFinished = false) :
    ∃ reason, Outcome.ofResult result call.repeatable = .transient reason := by
  unfold Attempt.ofResult at unfinished
  split at unfinished
  · cases unfinished
  · exact ⟨_, ‹_›⟩
  all_goals
    cases unfinished

/-! A session calls at most once in an attempt. -/

def Log.Callless (log : Log) : Prop := ∀ entry ∈ log, entry.isCall = false

namespace Log.Callless

theorem nil : Callless [] := by
  intro entry member
  cases member

theorem cons {entry : Entry} {log : Log} (other : entry.isCall = false) (callless : log.Callless) :
    Callless (entry :: log) := by
  intro found member
  rcases List.mem_cons.mp member with rfl | member
  · exact other
  · exact callless found member

theorem append {one other : Log} (first : one.Callless) (second : other.Callless) :
    Callless (one ++ other) := by
  intro entry member
  exact (List.mem_append.mp member).elim (first entry) (second entry)

theorem elim {log : Log} {entry : Entry} {goal : Prop} (callless : log.Callless)
    (member : entry ∈ log) (called : entry.isCall = true) : goal := by
  rw [callless entry member] at called
  cases called

end Log.Callless

theorem Opening.callless {options : LinkOptions} {uri : String} {limit : Option Deadline}
    {channel failed : Nat} {state stop : σ} {done : Log}
    {outcome : Except Halt (Except LinkFailure Unit)}
    (opening : Opening scene options uri limit channel failed state done outcome stop) :
    done.Callless := by
  induction opening with
  | unfinished => exact .nil
  | opened _ => exact .cons rfl .nil
  | givenUp _ _ => exact .cons rfl .nil
  | again _ _ _ ih => exact .cons rfl (.cons rfl ih)

theorem Locating.callless {state stop : σ} {locator : Locator} {done : Log}
    {outcome : Except Halt (Except LinkFailure String × Locator)}
    (locating : Locating scene state locator done outcome stop) :
    done.Callless := by
  cases locating with
  | fixed => exact .nil
  | known _ => exact .nil
  | _ => exact .cons rfl .nil

theorem Reaching.callless {limit : Option Deadline} {link : Link Nat} {base : String}
    {state stop : σ} {done : Log}
    {outcome : Except Halt (Except LinkFailure (Connection Nat) × Link Nat)}
    (reaching : Reaching scene limit link base state done outcome stop) :
    done.Callless := by
  cases reaching with
  | misaddressed _ => exact .nil
  | overflow _ _ => exact .nil
  | halted _ _ _ opening => exact .cons rfl opening.callless
  | unopened _ _ _ opening => exact .cons rfl opening.callless
  | connected _ _ _ opening => exact .cons rfl (opening.callless.append (.cons rfl .nil))

theorem Connecting.callless {limit : Option Deadline} {link : Link Nat} {state stop : σ}
    {done : Log} {outcome : Except Halt (Except LinkFailure (Connection Nat) × Link Nat)}
    (connecting : Connecting scene limit link state done outcome stop) :
    done.Callless := by
  cases connecting with
  | held _ => exact .nil
  | halted _ locating => exact locating.callless
  | unlocated _ locating => exact locating.callless
  | reached _ locating reaching => exact locating.callless.append reaching.callless

theorem Releasing.callless {state stop : σ} {connection : Option (Connection Nat)} {done : Log}
    (releasing : Releasing scene state connection done stop) :
    done.Callless := by
  cases releasing with
  | idle => exact .nil
  | closed _ => exact .cons rfl .nil

theorem Attempting.call {call : PendingCall} {session : Session Nat} {state stop : σ} {done : Log}
    {outcome : Except Halt (Attempt × Session Nat)}
    (attempting : Attempting scene call session state done outcome stop) :
    done.Callless ∨
      ∃ before channel sequence answer after,
        done = before ++ .called channel sequence call.method call.arguments answer :: after ∧
        Log.Callless before ∧ Log.Callless after ∧
        ∀ attempt session, outcome = .ok (attempt, session) →
          attempt.isFinished = false →
          (Entry.called channel sequence call.method call.arguments answer).Resendable
            call.repeatable := by
  cases attempting with
  | unbuilt _ => exact .inl .nil
  | halted _ connecting => exact .inl connecting.callless
  | interrupted _ connecting => exact .inl connecting.callless
  | tooLate _ connecting => exact .inl connecting.callless
  | unreachable _ _ connecting => exact .inl connecting.callless
  | callHalted _ connecting calls =>
    refine .inr ⟨_, _, _, _, [], rfl, connecting.callless, .nil, ?_⟩
    intro attempt session halted
    cases halted
  | answered _ connecting calls success =>
    refine .inr ⟨_, _, _, _, [], rfl, connecting.callless, .nil, ?_⟩
    intro attempt session ended unfinished
    cases ended
    cases unfinished
  | failed _ connecting calls _ releasing =>
    refine .inr ⟨_, _, _, _, _, rfl, connecting.callless, releasing.callless, ?_⟩
    intro attempt session ended unfinished
    cases ended
    obtain ⟨reason, passing⟩ := Attempt.transient_of_ofResult unfinished
    exact Outcome.resendable_of_ofResult passing _ _ _ _

/-- Each call of a log is one after which the call may go out again, or the last one. -/
def Log.Resends (repeatable : Bool) (log : Log) : Prop :=
  log.Pairwise fun earlier later =>
    earlier.isCall = true → later.isCall = true → earlier.Resendable repeatable

theorem Log.Resends.of_callless {repeatable : Bool} {log : Log}
    (callless : log.Callless) : log.Resends repeatable := by
  apply List.pairwise_of_forall_mem_list
  intro earlier member later _ called
  exact callless.elim member called

theorem Log.Resends.append {repeatable : Bool} {one other : Log} (first : one.Resends repeatable)
    (second : other.Resends repeatable)
    (allowed : ∀ entry ∈ one, entry.isCall = true → entry.Resendable repeatable) :
    Log.Resends repeatable (one ++ other) := by
  refine List.pairwise_append.mpr ⟨first, second, ?_⟩
  intro earlier member _ _ called _
  exact allowed earlier member called

theorem Attempting.resends {call : PendingCall} {session : Session Nat} {state stop : σ}
    {done : Log} {outcome : Except Halt (Attempt × Session Nat)}
    (attempting : Attempting scene call session state done outcome stop) :
    done.Resends call.repeatable := by
  rcases attempting.call with callless | ⟨before, _, _, _, after, rfl, early, late, _⟩
  · exact .of_callless callless
  refine .append (.of_callless early)
    (List.pairwise_cons.mpr ⟨?_, Log.Resends.of_callless late⟩) ?_
  · intro later member _ called
    exact late.elim member called
  · intro earlier member called
    exact early.elim member called

theorem Attempting.resendable {call : PendingCall} {session after : Session Nat} {state stop : σ}
    {done : Log} {attempt : Attempt}
    (attempting : Attempting scene call session state done (.ok (attempt, after)) stop)
    (unfinished : attempt.isFinished = false) :
    ∀ entry ∈ done, entry.isCall = true → entry.Resendable call.repeatable := by
  intro entry member called
  rcases attempting.call with callless | ⟨before, _, _, _, rest, rfl, early, late, resendable⟩
  · exact callless.elim member called
  rw [List.mem_append, List.mem_cons] at member
  rcases member with member | rfl | member
  · exact early.elim member called
  · exact resendable attempt after rfl unfinished
  · exact late.elim member called

theorem Course.resends {call : PendingCall} {made : Nat} {lastError : String}
    {session : Session Nat} {state stop : σ} {done : Log}
    {outcome : Except Halt (Except SessionFailure Response × Session Nat)}
    (course : Course scene call made lastError session state done outcome stop) :
    done.Resends call.repeatable := by
  induction course with
  | unfinished => exact .nil
  | terminated _ => exact .nil
  | timedOut _ _ _ => exact .nil
  | halted _ _ attempting => exact attempting.resends
  | finished _ _ attempting => exact attempting.resends
  | interrupted _ _ attempting _ ih =>
    exact attempting.resends.append ih (attempting.resendable rfl)
  | paused _ _ attempting _ _ ih =>
    refine attempting.resends.append (List.pairwise_cons.mpr ⟨?_, ih⟩)
      (attempting.resendable rfl)
    intro _ _ called
    cases called
  | spent _ _ attempting _ _ ih =>
    exact attempting.resends.append ih (attempting.resendable rfl)

def Entry.Sends (method : Method) (arguments : List Json) : Entry → Prop
  | .called _ _ sent given _ => sent = method ∧ given = arguments
  | _ => True

theorem Entry.Sends.of_callless {entry : Entry} (method : Method) (arguments : List Json)
    (callless : entry.isCall = false) : entry.Sends method arguments := by
  cases entry with
  | called _ _ _ _ _ => cases callless
  | _ => trivial

theorem Attempting.sends {call : PendingCall} {session : Session Nat} {state stop : σ} {done : Log}
    {outcome : Except Halt (Attempt × Session Nat)}
    (attempting : Attempting scene call session state done outcome stop) :
    ∀ entry ∈ done, entry.Sends call.method call.arguments := by
  intro entry member
  rcases attempting.call with callless | ⟨before, _, _, _, after, rfl, early, late, _⟩
  · exact .of_callless _ _ (callless entry member)
  rw [List.mem_append, List.mem_cons] at member
  rcases member with member | rfl | member
  · exact .of_callless _ _ (early entry member)
  · exact ⟨rfl, rfl⟩
  · exact .of_callless _ _ (late entry member)

theorem Course.sends {call : PendingCall} {made : Nat} {lastError : String}
    {session : Session Nat} {state stop : σ} {done : Log}
    {outcome : Except Halt (Except SessionFailure Response × Session Nat)}
    (course : Course scene call made lastError session state done outcome stop) :
    ∀ entry ∈ done, entry.Sends call.method call.arguments := by
  induction course with
  | unfinished => simp
  | terminated _ => simp
  | timedOut _ _ _ => simp
  | halted _ _ attempting => exact attempting.sends
  | finished _ _ attempting => exact attempting.sends
  | interrupted _ _ attempting _ ih =>
    intro entry member
    exact (List.mem_append.mp member).elim (attempting.sends entry) (ih entry)
  | paused _ _ attempting _ _ ih =>
    intro entry member
    rw [List.mem_append, List.mem_cons] at member
    rcases member with member | rfl | member
    · exact attempting.sends entry member
    · trivial
    · exact ih entry member
  | spent _ _ attempting _ _ ih =>
    intro entry member
    exact (List.mem_append.mp member).elim (attempting.sends entry) (ih entry)

/-! What the caller's word changes. -/

def PendingCall.repeating (call : PendingCall) (repeatable : Bool) : PendingCall :=
  { call with repeatable }

def Attempt.disconnected (call : PendingCall) (failure : ChannelFailure) : Attempt :=
  .finished (.error (.disconnected call.method failure))

theorem Session.withResult_repeating (scene : Scene σ) (call : PendingCall) (session : Session Nat)
    {link : Link Nat} (has : session.link = some link) (advice : String)
    (result : Except CallFailure Response) (state : σ) :
    (withResult scene.surroundings (call.repeating true) session advice result).play state =
        (withResult scene.surroundings (call.repeating false) session advice result).play state ∨
      ∃ failure after stop, failure.isNetwork = true ∧
        (withResult scene.surroundings (call.repeating false) session advice result).play state =
          (.ok (.disconnected call failure, after), stop) := by
  rcases Outcome.ofResult_repeatable result with same | ⟨failure, network, lost⟩
  · left
    unfold withResult
    simp only [PendingCall.repeating, same]
  · right
    have unsuccessful : ∀ response,
        Outcome.ofResult result (call.repeating false).repeatable ≠ .success response := by
      intro response success
      simp only [PendingCall.repeating, lost] at success
      cases success
    obtain ⟨_, stop, _, ends⟩ :=
      withResult_play scene (call.repeating false) session has advice result state unsuccessful
    have became : Attempt.ofResult (call.repeating false) advice result =
        .disconnected call failure := by
      simp only [Attempt.ofResult, Attempt.disconnected, PendingCall.repeating, lost]
    rw [became] at ends
    exact ⟨failure, _, stop, network, ends⟩

theorem Session.attempt_repeating (scene : Scene σ) (fuel : Nat) (call : PendingCall)
    (session : Session Nat) (state : σ) :
    (session.attempt scene.surroundings fuel (call.repeating true)).play state =
        (session.attempt scene.surroundings fuel (call.repeating false)).play state ∨
      ∃ failure after stop, failure.isNetwork = true ∧
        (session.attempt scene.surroundings fuel (call.repeating false)).play state =
          (.ok (.disconnected call failure, after), stop) := by
  unfold attempt
  cases session.linkOf scene.surroundings with
  | error failure => exact .inl rfl
  | ok link =>
    simp only [Run.play_bind, PendingCall.repeating]
    rcases (link.connect scene.surroundings fuel (some call.deadline)).play state with
      ⟨halt | ⟨failure | connection, ready⟩, middle⟩
    · exact .inl rfl
    · exact .inl rfl
    · simp only [Run.play_bind]
      rcases (ready.send scene.surroundings connection call.method call.arguments).play middle with
        ⟨halt | ⟨result, sent⟩, last⟩
      · exact .inl rfl
      · exact withResult_repeating scene call { session with link := some sent } rfl
          sent.login.advice result last

theorem Session.attempts_repeating (scene : Scene σ) (fuel : Nat) (call : PendingCall)
    (made : Nat) (lastError : String) (session : Session Nat) (state : σ) :
    (session.attempts scene.surroundings (call.repeating true) fuel made lastError).play state =
        (session.attempts scene.surroundings (call.repeating false) fuel made lastError).play
          state ∨
      ∃ failure after stop, failure.isNetwork = true ∧
        (session.attempts scene.surroundings (call.repeating false) fuel made lastError).play
          state = (.ok (.error (.disconnected call.method failure), after), stop) := by
  induction fuel generalizing made lastError session state with
  | zero => exact .inl rfl
  | succ fuel ih =>
    -- The word is read in the attempt alone, so one that differs there is the last one.
    have attempt := attempt_repeating scene fuel call session state
    simp only [PendingCall.repeating] at ih attempt ⊢
    simp only [attempts_play]
    by_cases stopping : scene.stopping state = true
    · simp only [if_pos stopping, true_or]
    simp only [if_neg stopping]
    by_cases late : (0 < made && call.deadline.isExpired (scene.clock state)) = true
    · simp only [if_pos late, true_or]
    simp only [if_neg late]
    rcases attempt with same | ⟨failure, after, stop, network, lost⟩
    · rw [same]
      rcases (session.attempt scene.surroundings fuel
        ⟨call.method, call.arguments, false, call.deadline⟩).play state with
        ⟨halt | ⟨result | reason | _, after⟩, middle⟩
      · exact .inl rfl
      · exact .inl rfl
      · exact ih (made + 1) reason after (after.rested scene call (made + 1) middle)
      · exact ih (made + 1) lastError after middle
    · rw [lost]
      exact .inr ⟨failure, after, stop, network, rfl⟩

/-- A call that does not fail for a lost connection does not change when it is said to be safe to
repeat. -/
theorem Session.invoke_repeating (scene : Scene σ) (fuel : Nat) (session : Session Nat)
    (request : Request) (state : σ) :
    (session.invoke scene.surroundings fuel request true).play state =
        (session.invoke scene.surroundings fuel request false).play state ∨
      ∃ failure after stop, failure.isNetwork = true ∧
        (session.invoke scene.surroundings fuel request false).play state =
          (.ok (.error (.disconnected request.method failure), after), stop) := by
  simp only [invoke_play]
  cases request.method.signature.fit request.arguments with
  | error error => exact .inl rfl
  | ok arguments =>
    cases Deadline.after? (scene.clock state) session.policy.longestWait with
    | none => exact .inl rfl
    | some deadline =>
      exact attempts_repeating scene fuel ⟨request.method, arguments, false, deadline⟩ 0 "" session
        state

theorem Invoking.sends {session : Session Nat} {request : Request} {repeatable : Bool}
    {state stop : σ} {done : Log}
    {outcome : Except Halt (Except SessionFailure Response × Session Nat)}
    (invoking : Invoking scene session request repeatable state done outcome stop)
    {channel : Nat} {sequence : Int32} {method : Method} {arguments : List Json}
    {answer : Except Halt (Except CallFailure Response)}
    (sent : .called channel sequence method arguments answer ∈ done) :
    method = request.method ∧ request.method.signature.fit request.arguments = .ok arguments := by
  cases invoking with
  | misfit _ => cases sent
  | overflow _ _ => cases sent
  | course fits _ course =>
    obtain ⟨same, rfl⟩ := course.sends _ sent
    exact ⟨same, fits⟩

theorem Invoking.resends {session : Session Nat} {request : Request} {repeatable : Bool}
    {state stop : σ} {done : Log}
    {outcome : Except Halt (Except SessionFailure Response × Session Nat)}
    (invoking : Invoking scene session request repeatable state done outcome stop) :
    done.Resends repeatable := by
  cases invoking with
  | misfit _ => exact .nil
  | overflow _ _ => exact .nil
  | course _ _ course => exact course.resends

/-- All calls of one run are the same call. One that is followed by another had an answer that
allows it, so one whose answer is conclusive is the last. Unless the run of a call that is not safe
to repeat ends because its connection was lost, it is also the run of one that is. -/
theorem invoke_resends_only_when_allowed (scene : Scene σ) (fuel : Nat) (session : Session Nat)
    (request : Request) (state : σ) :
    let performed repeatable :=
      scene.perform (session.invoke scene.surroundings fuel request repeatable) state
    (∀ repeatable channel sequence method arguments answer,
      .called channel sequence method arguments answer ∈ (performed repeatable).done →
        method = request.method ∧
          request.method.signature.fit request.arguments = .ok arguments) ∧
    (∀ repeatable before call after, (performed repeatable).done = before ++ call :: after →
      call.isCall = true → (∃ later ∈ after, later.isCall = true) → call.Resendable repeatable) ∧
    (∀ repeatable before call after, (performed repeatable).done = before ++ call :: after →
      call.Conclusive repeatable → ∀ later ∈ after, later.isCall = false) ∧
    ((∀ method failure after,
      (performed false).outcome = .ok (.error (.disconnected method failure), after) →
        failure.isNetwork = false) →
      performed true = performed false) := by
  intro performed
  have invoking : ∀ repeatable, Invoking scene session request repeatable state
      (performed repeatable).done (performed repeatable).outcome (performed repeatable).stop :=
    fun repeatable => .of_invoke scene fuel session request repeatable state
  have resendable : ∀ repeatable before call after,
      (performed repeatable).done = before ++ call :: after → call.isCall = true →
        (∃ later ∈ after, later.isCall = true) → call.Resendable repeatable := by
    rintro repeatable before call after split called ⟨later, member, again⟩
    have resends := (invoking repeatable).resends
    rw [split] at resends
    have rest := List.pairwise_cons.mp (List.pairwise_append.mp resends).2.1
    exact rest.1 later member called again
  refine ⟨?_, resendable, ?_, ?_⟩
  · intro repeatable channel sequence method arguments answer sent
    exact (invoking repeatable).sends sent
  · intro repeatable before call after split conclusive later member
    rw [← Bool.not_eq_true]
    intro again
    exact conclusive.not_resendable
      (resendable repeatable before call after split conclusive.isCall ⟨later, member, again⟩)
  · intro connected
    rcases session.invoke_repeating scene fuel request state with
      same | ⟨failure, after, stop, network, lost⟩
    · simp only [performed, Scene.perform, same]
    · have outcome : (performed false).outcome =
          .ok (.error (.disconnected request.method failure), after) := by
        simp only [performed, Scene.perform, lost]
      rw [connected _ _ _ outcome] at network
      cases network

def Entry.code? : Entry → Option ResponseCode
  | .called _ _ _ _ (.ok (.ok response)) => some response.code
  | _ => none

theorem Entry.Conclusive.of_code? {entry : Entry} {code : ResponseCode} (repeatable : Bool)
    (answered : entry.code? = some code) (passes : code ≠ .errorTransient) :
    entry.Conclusive repeatable := by
  unfold code? at answered
  split at answered <;> cases answered
  exact .response passes

theorem Log.exists_two_calls {log : Log} (two : (log.filter Entry.isCall).length = 2) :
    ∃ before busy between answered after,
      log = before ++ busy :: (between ++ answered :: after) ∧ busy.isCall = true ∧
        answered.isCall = true ∧ (log.filter Entry.isCall).getLast? = some answered := by
  rcases calls : log.filter Entry.isCall with _ | ⟨busy, _ | ⟨answered, _ | ⟨extra, rest⟩⟩⟩
  all_goals
    rw [calls] at two
  · cases two
  · cases two
  · obtain ⟨before, rest, split, _, called, calls⟩ := List.filter_eq_cons_iff.mp calls
    obtain ⟨between, after, rfl, _, answers, _⟩ := List.filter_eq_cons_iff.mp calls
    exact ⟨before, busy, between, answered, after, split, called, answers, rfl⟩
  · cases two

def Stage.dozing : Stage where
  answers := [.ok (.transient ["busy"])]

theorem invoke_dozing_resends_once :
    let scene := Stage.dozing.scene fun _ => .ok .anonymous
    let performed repeatable := scene.perform
      (Session.hasty.invoke scene.surroundings 9 ⟨.getJobs, [.null]⟩ repeatable) Stage.dozing
    (∃ before busy between answered after,
      (performed false).done = before ++ busy :: (between ++ answered :: after) ∧
        busy.Resendable false ∧ answered.Conclusive false ∧
        ∀ later ∈ after, later.isCall = false) ∧
      performed true = performed false := by
  intro scene performed
  have two : ((performed false).done.filter Entry.isCall).length = 2 := by
    decide +kernel
  have code : ((performed false).done.filter Entry.isCall).getLast?.bind Entry.code? =
      some .ok := by
    decide +kernel
  have success : (performed false).failure?.isNone = true := by
    decide +kernel
  obtain ⟨-, resendable, last, same⟩ :=
    invoke_resends_only_when_allowed scene 9 Session.hasty ⟨.getJobs, [.null]⟩ Stage.dozing
  obtain ⟨before, busy, between, answered, after, done, called, answers, final⟩ :=
    Log.exists_two_calls two
  rw [final] at code
  have conclusive : answered.Conclusive false := .of_code? false code (by decide)
  refine ⟨⟨before, busy, between, answered, after, done, ?_, conclusive, ?_⟩, same ?_⟩
  · exact resendable false before busy _ done called ⟨answered, by simp, answers⟩
  · apply last false (before ++ busy :: between) answered after _ conclusive
    rw [done, List.append_assoc, List.cons_append]
  · intro method failure after lost
    rw [Performance.failure?_eq_some.mpr ⟨after, lost⟩] at success
    cases success

end SchedulerLink
