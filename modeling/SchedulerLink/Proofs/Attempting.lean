import SchedulerLink.Proofs.Connecting
import SchedulerLink.Session.Basic

/-!
What one attempt at a session's call does on a scene.
-/

namespace SchedulerLink

variable {σ : Type}

/-- How a connection is given up. -/
inductive Releasing (scene : Scene σ) (state : σ) : Option (Connection Nat) → Log → σ → Prop where
  | idle : Releasing scene state none [] state
  | closed {connection : Connection Nat} {wasOpen : Bool}
    (step : scene.Passes state [.closed connection.channel wasOpen]
      ((scene.surroundings.closeChannel connection.channel).run state).2) :
    Releasing scene state (some connection) [.closed connection.channel wasOpen]
      ((scene.surroundings.closeChannel connection.channel).run state).2

theorem Releasing.passes {scene : Scene σ} {state stop : σ} {connection : Option (Connection Nat)}
    {done : Log} (releasing : Releasing scene state connection done stop) :
    scene.Passes state done stop := by
  cases releasing with
  | idle => exact .refl scene state
  | closed step => exact step

theorem Releasing.slept_eq {scene : Scene σ} {state stop : σ} {connection : Option (Connection Nat)}
    {done : Log} (releasing : Releasing scene state connection done stop) : done.slept = .zero := by
  cases releasing <;> rfl

namespace Link

def released (link : Link Nat) : Link Nat :=
  { link with connection := none, locator := link.locator.forget }

theorem close_play (scene : Scene σ) (link : Link Nat) (state : σ) : ∃ done stop,
    Releasing scene state link.connection done stop ∧
      (link.close scene.surroundings).play state =
        (.ok { link with connection := none }, stop) := by
  obtain ⟨locator, login, options, connection, epoch⟩ := link
  cases connection with
  | none => exact ⟨[], state, .idle, rfl⟩
  | some connection =>
    obtain ⟨wasOpen, step⟩ := scene.close_passes connection.channel state
    exact ⟨_, _, .closed step, rfl⟩

theorem invalidate_play (scene : Scene σ) (link : Link Nat) (state : σ) : ∃ done stop,
    Releasing scene state link.connection done stop ∧
      (link.invalidate scene.surroundings).play state = (.ok link.released, stop) := by
  obtain ⟨done, stop, releasing, closes⟩ := link.close_play scene state
  refine ⟨done, stop, releasing, ?_⟩
  rw [invalidate, Run.play_bind_ok closes]
  rfl

end Link

namespace Session

theorem invalidate_play (scene : Scene σ) (session : Session Nat) {link : Link Nat}
    (has : session.link = some link) (state : σ) : ∃ done stop,
    Releasing scene state link.connection done stop ∧
      (session.invalidate scene.surroundings).play state =
        (.ok { session with link := some link.released }, stop) := by
  obtain ⟨done, stop, releasing, invalidates⟩ := link.invalidate_play scene state
  refine ⟨done, stop, releasing, ?_⟩
  simp only [invalidate, has]
  rw [Run.play_bind_ok invalidates]
  rfl

theorem discard_play (scene : Scene σ) (session : Session Nat) (state : σ) : ∃ done stop,
    Releasing scene state (session.link.bind (·.connection)) done stop ∧
      (session.discard scene.surroundings).play state =
        (.ok { session with link := none }, stop) := by
  obtain ⟨cluster, options, policy, link⟩ := session
  cases link with
  | none => exact ⟨[], state, .idle, rfl⟩
  | some link =>
    obtain ⟨done, stop, releasing, closes⟩ := link.close_play scene state
    refine ⟨done, stop, releasing, ?_⟩
    simp only [discard]
    rw [Run.play_bind_ok closes]
    rfl

end Session

def LinkFailure.isFinal : LinkFailure → Bool
  | .connectTimeout _ _ _ => false
  | .interrupted _ => false
  | _ => true

theorem RegistryLocator.leader_isFinal {locator : RegistryLocator}
    {answer : Except DiscoveryFailure (List Member)} {failure : LinkFailure}
    (nobody : locator.leader answer = .error failure) : failure.isFinal = true := by
  unfold RegistryLocator.leader at nobody
  split at nobody
  · cases nobody
  all_goals
    cases nobody
    rfl

theorem Connect.interfaceUri_isFinal {base : String} {failure : LinkFailure}
    (misaddressed : Connect.interfaceUri base = .error failure) : failure.isFinal = true := by
  unfold Connect.interfaceUri at misaddressed
  split at misaddressed
  · cases misaddressed
  · cases misaddressed
    rfl

theorem Locating.isFinal {scene : Scene σ} {state stop : σ} {locator after : Locator} {done : Log}
    {failure : LinkFailure}
    (locating : Locating scene state locator done (.ok (.error failure, after)) stop) :
    failure.isFinal = true := by
  cases locating with
  | nobody _ _ nobody => exact RegistryLocator.leader_isFinal nobody

/-- Whether a failure is one of a single attempt, and not of the call as a whole. -/
def SessionFailure.isOfAttempt : SessionFailure → Bool
  | .arguments _ => false
  | .timedOut _ _ _ => false
  | .terminated _ _ => false
  | _ => true

def Attempt.isFinished : Attempt → Bool
  | .finished _ => true
  | _ => false

def Attempt.ofResult (call : PendingCall) (advice : String) (result : Except CallFailure Response) :
    Attempt :=
  match Outcome.ofResult result call.repeatable with
  | .success response => .finished (.ok response)
  | .transient reason => .transient reason
  | .refused _ => .finished (.error (.refused call.method advice))
  | .permanent (.channel failure) => .finished (.error (.disconnected call.method failure))
  | .permanent failure => .finished (.error (.failed call.method failure))

def Connection.next (connection : Connection Nat) : Connection Nat :=
  { connection with sequence := connection.sequence + 1 }

/-- How one attempt at a call goes. -/
inductive Attempting (scene : Scene σ) (call : PendingCall) (session : Session Nat) (state : σ) :
    Log → Except Halt (Attempt × Session Nat) → σ → Prop where
  | unbuilt {failure : LinkFailure}
    (unbuilt : session.linkOf scene.surroundings = .error failure) :
    Attempting scene call session state []
      (.ok (.finished (.error (.unreachable call.method session.cluster.name failure)), session))
      state
  | halted {link : Link Nat} {done : Log} {halt : Halt} {stop : σ}
    (built : session.linkOf scene.surroundings = .ok link)
    (connecting : Connecting scene (some call.deadline) link state done (.error halt) stop) :
    Attempting scene call session state done (.error halt) stop
  | interrupted {link idle : Link Nat} {done : Log} {uri : String} {stop : σ}
    (built : session.linkOf scene.surroundings = .ok link)
    (connecting : Connecting scene (some call.deadline) link state done
      (.ok (.error (.interrupted uri), idle)) stop) :
    Attempting scene call session state done
      (.ok (.interrupted, { session with link := some idle })) stop
  | tooLate {link idle : Link Nat} {done : Log} {uri reason : String} {attempts : Nat} {stop : σ}
    (built : session.linkOf scene.surroundings = .ok link)
    (connecting : Connecting scene (some call.deadline) link state done
      (.ok (.error (.connectTimeout uri attempts reason), idle)) stop) :
    Attempting scene call session state done
      (.ok (.transient (LinkFailure.connectTimeout uri attempts reason).message,
        { session with link := some idle.released })) stop
  | unreachable {link idle : Link Nat} {done : Log} {failure : LinkFailure} {stop : σ}
    (built : session.linkOf scene.surroundings = .ok link) (final : failure.isFinal = true)
    (connecting : Connecting scene (some call.deadline) link state done
      (.ok (.error failure, idle)) stop) :
    Attempting scene call session state done
      (.ok (.finished (.error (.unreachable call.method session.cluster.name failure)),
        { session with link := none })) stop
  | callHalted {link ready : Link Nat} {connection : Connection Nat} {done : Log} {halt : Halt}
    {middle stop : σ} (built : session.linkOf scene.surroundings = .ok link)
    (connecting : Connecting scene (some call.deadline) link state done
      (.ok (.ok connection, ready)) middle)
    (calls : (scene.surroundings.call connection.channel connection.next.sequence call.method
      call.arguments).play middle = (.error halt, stop)) :
    Attempting scene call session state
      (done ++ [.called connection.channel connection.next.sequence call.method call.arguments
        (.error halt)]) (.error halt) stop
  | answered {link ready : Link Nat} {connection : Connection Nat} {done : Log}
    {result : Except CallFailure Response} {response : Response} {middle stop : σ}
    (built : session.linkOf scene.surroundings = .ok link)
    (connecting : Connecting scene (some call.deadline) link state done
      (.ok (.ok connection, ready)) middle)
    (calls : (scene.surroundings.call connection.channel connection.next.sequence call.method
      call.arguments).play middle = (.ok result, stop))
    (success : Outcome.ofResult result call.repeatable = .success response) :
    Attempting scene call session state
      (done ++ [.called connection.channel connection.next.sequence call.method call.arguments
        (.ok result)])
      (.ok (.finished (.ok response),
        { session with link := some { ready with connection := some connection.next } })) stop
  | failed {link ready : Link Nat} {connection : Connection Nat} {done parting : Log}
    {result : Except CallFailure Response} {middle next stop : σ}
    (built : session.linkOf scene.surroundings = .ok link)
    (connecting : Connecting scene (some call.deadline) link state done
      (.ok (.ok connection, ready)) middle)
    (calls : (scene.surroundings.call connection.channel connection.next.sequence call.method
      call.arguments).play middle = (.ok result, next))
    (failure : ∀ response, Outcome.ofResult result call.repeatable ≠ .success response)
    (releasing : Releasing scene next (some connection.next) parting stop) :
    Attempting scene call session state
      (done ++ .called connection.channel connection.next.sequence call.method call.arguments
        (.ok result) :: parting)
      (.ok (Attempt.ofResult call ready.login.advice result,
        { session with link := some ready.released })) stop

theorem Link.configuration_of_ofCluster {surroundings : Surroundings (StateM σ) Nat}
    {cluster : Cluster} {options : LinkOptions} {failure : LinkFailure}
    (unbuilt : Link.ofCluster surroundings cluster options = .error failure) :
    ∃ detail, failure = .configuration detail := by
  unfold Link.ofCluster Locator.ofCluster at unbuilt
  split at unbuilt
  · rename_i located
    split at located
    · cases located; cases unbuilt; exact ⟨_, rfl⟩
    · cases located
    · split at located
      · cases located
      · cases located; cases unbuilt; exact ⟨_, rfl⟩
  · split at unbuilt
    · cases unbuilt; exact ⟨_, rfl⟩
    · cases unbuilt

theorem Session.unbuilt_of_linkOf {surroundings : Surroundings (StateM σ) Nat}
    {session : Session Nat} {failure : LinkFailure}
    (unbuilt : session.linkOf surroundings = .error failure) :
    session.link = none ∧ ∃ detail, failure = .configuration detail := by
  unfold Session.linkOf at unbuilt
  split at unbuilt
  · cases unbuilt
  · rename_i none
    exact ⟨none, Link.configuration_of_ofCluster unbuilt⟩

namespace Connecting

variable {scene : Scene σ} {limit : Option Deadline} {link idle ready : Link Nat}
  {state stop : σ} {done : Log}

theorem idle_of_error {failure : LinkFailure}
    (connecting : Connecting scene limit link state done (.ok (.error failure, idle)) stop) :
    idle.connection = none := by
  cases connecting with
  | unlocated _ _ => rfl
  | reached _ _ reaching => cases reaching <;> rfl

theorem ready_of_ok {connection : Connection Nat}
    (connecting : Connecting scene limit link state done (.ok (.ok connection, ready)) stop) :
    ready.connection = some connection := by
  cases connecting with
  | held holds => exact holds
  | reached _ _ reaching => cases reaching; rfl

end Connecting

theorem Link.send_play (scene : Scene σ) (link : Link Nat) (connection : Connection Nat)
    (method : Method) (arguments : List Json) (state : σ) :
    (link.send scene.surroundings connection method arguments).play state =
      match (scene.surroundings.call connection.channel connection.next.sequence method
        arguments).play state with
      | (.ok result, stop) => (.ok (result, { link with connection := some connection.next }), stop)
      | (.error halt, stop) => (.error halt, stop) := by
  rcases calls : (scene.surroundings.call connection.channel connection.next.sequence method
    arguments).play state with ⟨halt | result, stop⟩
  · exact Run.play_bind_error calls
  · exact Run.play_bind_ok calls

namespace Session

/-- Whatever is not a success gives the connection up. -/
theorem withResult_play (scene : Scene σ) (call : PendingCall) (session : Session Nat)
    {link : Link Nat} (has : session.link = some link) (advice : String)
    (result : Except CallFailure Response) (state : σ)
    (failure : ∀ response, Outcome.ofResult result call.repeatable ≠ .success response) :
    ∃ parting stop, Releasing scene state link.connection parting stop ∧
      (withResult scene.surroundings call session advice result).play state =
        (.ok (Attempt.ofResult call advice result, { session with link := some link.released }),
          stop) := by
  obtain ⟨parting, stop, releasing, invalidates⟩ := invalidate_play scene session has state
  refine ⟨parting, stop, releasing, ?_⟩
  unfold withResult Attempt.ofResult
  cases outcome : Outcome.ofResult result call.repeatable with
  | success response => exact absurd outcome (failure response)
  | transient reason => exact Run.play_bind_ok invalidates
  | refused reason => exact Run.play_bind_ok invalidates
  | permanent failure =>
    cases failure with
    | channel failure => exact Run.play_bind_ok invalidates
    | protocol fault => exact Run.play_bind_ok invalidates
    | application kind detail => exact Run.play_bind_ok invalidates

end Session

namespace Attempting

variable {scene : Scene σ} {call : PendingCall} {session : Session Nat} {state stop : σ}
  {done : Log}
  {outcome : Except Halt (Attempt × Session Nat)}

theorem of_withoutConnection {link idle : Link Nat} {failure : LinkFailure}
    (built : session.linkOf scene.surroundings = .ok link)
    (connecting : Connecting scene (some call.deadline) link state done (.ok (.error failure, idle))
      stop) :
    ∃ after, Attempting scene call session state done after.1 after.2 ∧
      (Session.withoutConnection scene.surroundings call { session with link := some idle }
        failure).play stop = after := by
  have still : ∀ {more : Log} {last : σ}, Releasing scene stop idle.connection more last →
      last = stop := by
    intro more last releasing
    rw [connecting.idle_of_error] at releasing
    cases releasing
    rfl
  obtain ⟨_, _, parting, invalidates⟩ := Session.invalidate_play scene
    { session with link := some idle } rfl stop
  obtain ⟨_, _, dropping, discards⟩ := Session.discard_play scene
    { session with link := some idle } stop
  rw [still parting] at invalidates
  rw [still dropping] at discards
  cases failure with
  | interrupted uri => exact ⟨_, .interrupted built connecting, rfl⟩
  | connectTimeout uri attempts reason =>
    exact ⟨_, .tooLate built connecting, Run.play_bind_ok invalidates⟩
  | configuration detail =>
    exact ⟨_, .unreachable built rfl connecting, Run.play_bind_ok discards⟩
  | noScheduler cluster waited =>
    exact ⟨_, .unreachable built rfl connecting, Run.play_bind_ok discards⟩
  | discovery cluster failure =>
    exact ⟨_, .unreachable built rfl connecting, Run.play_bind_ok discards⟩
  | notConnected uri reason =>
    exact ⟨_, .unreachable built rfl connecting, Run.play_bind_ok discards⟩

theorem of_send {link ready : Link Nat} {connection : Connection Nat} {middle : σ}
    (built : session.linkOf scene.surroundings = .ok link)
    (connecting : Connecting scene (some call.deadline) link state done
      (.ok (.ok connection, ready)) middle) :
    let sent := do
      let (result, link) ← ready.send scene.surroundings connection call.method call.arguments
      Session.withResult scene.surroundings call { session with link := some link }
        link.login.advice result
    ∃ done, Attempting scene call session state done (sent.play middle).1 (sent.play middle).2 := by
  intro sent
  have sends := ready.send_play scene connection call.method call.arguments middle
  rcases calls : (scene.surroundings.call connection.channel connection.next.sequence call.method
    call.arguments).play middle with ⟨halt | result, next⟩
  all_goals
    rw [calls] at sends
  · simp only [sent, Run.play_bind_error sends]
    exact ⟨_, .callHalted built connecting calls⟩
  simp only [sent, Run.play_bind_ok sends]
  by_cases success : ∃ response, Outcome.ofResult result call.repeatable = .success response
  · obtain ⟨response, success⟩ := success
    simp only [Session.withResult, success]
    exact ⟨_, .answered built connecting calls success⟩
  · have failure : ∀ response, Outcome.ofResult result call.repeatable ≠ .success response :=
      fun response same => success ⟨response, same⟩
    obtain ⟨parting, stop, releasing, drops⟩ := Session.withResult_play scene call
      { session with link := some { ready with connection := some connection.next } }
      rfl ready.login.advice result next failure
    rw [drops]
    exact ⟨_, .failed built connecting calls failure releasing⟩

theorem of_attempt (scene : Scene σ) (fuel : Nat) (call : PendingCall) (session : Session Nat)
    (state : σ) :
    ∃ done, Attempting scene call session state done
      ((session.attempt scene.surroundings fuel call).play state).1
      ((session.attempt scene.surroundings fuel call).play state).2 := by
  unfold Session.attempt
  cases built : session.linkOf scene.surroundings with
  | error failure =>
    obtain ⟨none, detail, rfl⟩ := Session.unbuilt_of_linkOf built
    obtain ⟨cluster, options, policy, link⟩ := session
    cases none
    exact ⟨[], .unbuilt built⟩
  | ok link =>
    obtain ⟨done, connecting⟩ :=
      Connecting.of_connect scene fuel (some call.deadline) link state
    rcases connects : (link.connect scene.surroundings fuel (some call.deadline)).play state with
      ⟨halt | ⟨failure | connection, ready⟩, middle⟩
    all_goals
      rw [connects] at connecting
    · simp only [Run.play_bind_error connects]
      exact ⟨done, .halted built connecting⟩
    · simp only [Run.play_bind_ok connects]
      obtain ⟨_, attempting, same⟩ := of_withoutConnection built connecting
      rw [same]
      exact ⟨done, attempting⟩
    · simp only [Run.play_bind_ok connects]
      exact of_send built connecting

theorem isOfAttempt {after : Session Nat} {failure : SessionFailure}
    (attempting : Attempting scene call session state done
      (.ok (.finished (.error failure), after)) stop) : failure.isOfAttempt = true := by
  generalize same : Attempt.finished (.error failure) = attempt at attempting
  cases attempting with
  | unbuilt _ => cases same; rfl
  | unreachable _ _ _ => cases same; rfl
  | failed _ _ _ _ _ =>
    unfold Attempt.ofResult at same
    split at same <;> cases same <;> rfl
  | _ => cases same

theorem passes (attempting : Attempting scene call session state done outcome stop) :
    scene.Passes state done stop := by
  cases attempting with
  | unbuilt _ => exact .refl scene state
  | halted _ connecting => exact connecting.passes
  | interrupted _ connecting => exact connecting.passes
  | tooLate _ connecting => exact connecting.passes
  | unreachable _ _ connecting => exact connecting.passes
  | callHalted _ connecting calls => exact connecting.passes.trans (Scene.call_passes calls)
  | answered _ connecting calls _ => exact connecting.passes.trans (Scene.call_passes calls)
  | failed _ connecting calls _ releasing =>
    exact connecting.passes.trans ((Scene.call_passes calls).trans releasing.passes)

end Attempting

end SchedulerLink
