import SchedulerLink.Call.Outcome
import SchedulerLink.Link.Basic
import SchedulerLink.Pacing.Policy
import SchedulerLink.Session.Failure
import SchedulerLink.Session.Request

/-!
Sessions with the scheduler of a cluster.

A call is sent over the session's link. After an answer or failure that may pass, the connection is
given up and the call is sent again after a pause, until the time that the policy allows is over.
Connecting counts against the same time.
-/

namespace SchedulerLink

structure Session (Channel : Type) where
  cluster : Cluster
  options : LinkOptions
  policy : Policy := {}
  link : Option (Link Channel) := none
  deriving Repr

/-- A call that is being made. -/
structure PendingCall where
  method : Method
  arguments : List Json
  repeatable : Bool
  deadline : Deadline
  deriving Repr

inductive Attempt where
  | finished (result : Except SessionFailure Response)
  | transient (reason : String)
  | interrupted
  deriving Repr

namespace Session

variable {m : Type → Type} [Monad m] {Channel : Type}

def linkOf (surroundings : Surroundings m Channel) (session : Session Channel) :
    Except LinkFailure (Link Channel) :=
  match session.link with
  | some link => .ok link
  | none => Link.ofCluster surroundings session.cluster session.options

/-- Gives up the connection; the next call connects again and asks the registry again. -/
def invalidate (surroundings : Surroundings m Channel) (session : Session Channel) :
    Run m (Session Channel) :=
  match session.link with
  | none => pure session
  | some link => do
    let link ← link.invalidate surroundings
    pure { session with link := some link }

def discard (surroundings : Surroundings m Channel) (session : Session Channel) :
    Run m (Session Channel) :=
  match session.link with
  | none => pure session
  | some link => do
    let _ ← link.close surroundings
    pure { session with link := none }

def withoutConnection (surroundings : Surroundings m Channel) (call : PendingCall)
    (session : Session Channel) (failure : LinkFailure) : Run m (Attempt × Session Channel) :=
  match failure with
  | .interrupted _ => pure (.interrupted, session)
  | .connectTimeout _ _ _ => do
    pure (.transient failure.message, ← session.invalidate surroundings)
  | failure => do
    let session ← session.discard surroundings
    pure (.finished (.error (.unreachable call.method session.cluster.name failure)), session)

def withResult (surroundings : Surroundings m Channel) (call : PendingCall)
    (session : Session Channel) (advice : String) (result : Except CallFailure Response) :
    Run m (Attempt × Session Channel) :=
  match Outcome.ofResult result call.repeatable with
  | .success response => pure (.finished (.ok response), session)
  | .transient reason => do pure (.transient reason, ← session.invalidate surroundings)
  | .refused _ => do
    pure (.finished (.error (.refused call.method advice)), ← session.invalidate surroundings)
  | .permanent (.channel failure) => do
    pure (.finished (.error (.disconnected call.method failure)),
      ← session.invalidate surroundings)
  | .permanent failure => do
    pure (.finished (.error (.failed call.method failure)), ← session.invalidate surroundings)

def attempt (surroundings : Surroundings m Channel) (fuel : Nat) (call : PendingCall)
    (session : Session Channel) : Run m (Attempt × Session Channel) :=
  match session.linkOf surroundings with
  | .error failure => withoutConnection surroundings call session failure
  | .ok link => do
    let (connected, link) ← link.connect surroundings fuel (some call.deadline)
    match connected with
    | .error failure =>
      withoutConnection surroundings call { session with link := some link } failure
    | .ok connection => do
      let (result, link) ← link.send surroundings connection call.method call.arguments
      withResult surroundings call { session with link := some link } link.login.advice result

/-- Makes attempts at a call after `made` ones, the last of which failed for `lastError`. -/
def attempts (surroundings : Surroundings m Channel) (call : PendingCall) :
    (fuel made : Nat) → (lastError : String) → Session Channel →
    Run m (Except SessionFailure Response × Session Channel)
  | 0, _, _, _ => throw .unfinished
  | fuel + 1, made, lastError, session => do
    if ← surroundings.isStopping then
      pure (.error (.terminated call.method session.cluster.name), session)
    else if 0 < made && call.deadline.isExpired (← surroundings.now) then
      pure (.error (.timedOut call.method session.cluster.name lastError), session)
    else
      let (attempt, session) ← session.attempt surroundings fuel call
      match attempt with
      | .finished result => pure (result, session)
      | .interrupted => attempts surroundings call fuel (made + 1) lastError session
      | .transient reason =>
        let remaining := call.deadline.remaining (← surroundings.now)
        match session.policy.pause? (made + 1) remaining with
        | some pause => surroundings.pause pause
        | none => pure ()
        attempts surroundings call fuel (made + 1) reason session

def invoke (surroundings : Surroundings m Channel) (fuel : Nat) (session : Session Channel)
    (request : Request) (repeatable : Bool) :
    Run m (Except SessionFailure Response × Session Channel) :=
  match request.method.signature.fit request.arguments with
  | .error error => pure (.error (.arguments error), session)
  | .ok arguments => do
    let deadline ← surroundings.deadline session.policy.longestWait
    attempts surroundings ⟨request.method, arguments, repeatable, deadline⟩ fuel 0 "" session

def withLink {α : Type} (surroundings : Surroundings m Channel) (session : Session Channel)
    (use : Link Channel → Run m (Except LinkFailure α × Link Channel)) :
    Run m (Except LinkFailure α × Session Channel) :=
  match session.linkOf surroundings with
  | .error failure => pure (.error failure, session)
  | .ok link => do
    let (result, link) ← use link
    pure (result, { session with link := some link })

def url (surroundings : Surroundings m Channel) (session : Session Channel) :
    Run m (Except LinkFailure String × Session Channel) :=
  session.withLink surroundings (·.url surroundings)

end Session

end SchedulerLink
