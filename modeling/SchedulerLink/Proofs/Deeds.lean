import SchedulerLink.Proofs.Course

/-!
What can be done with links and sessions, and what they can come to by it.

A history lists the deeds of the one who owns a link or session. Between two of them anything may
become of the surroundings, so each begins in a state of its own.
-/

namespace SchedulerLink

inductive LinkDeed where
  | connect (limit : Option Deadline)
  | call (method : Method) (arguments : List Json)
  | send (method : Method) (arguments : List Json)
  | close
  | invalidate
  | url
  | rawUrl

def LinkDeed.isAddress : LinkDeed → Bool
  | .url => true
  | .rawUrl => true
  | _ => false

inductive SessionDeed where
  | invoke (request : Request) (repeatable : Bool)
  | withLink (deed : LinkDeed)
  | invalidate
  | url
  | setPolicy (policy : Policy)

def SessionDeed.isAddress : SessionDeed → Bool
  | .withLink deed => deed.isAddress
  | .url => true
  | _ => false

section Running

variable {m : Type → Type} [Monad m] {Channel : Type}

/-- A link after a deed, whatever its owner was told. -/
def LinkDeed.run (surroundings : Surroundings m Channel) (fuel : Nat) (link : Link Channel) :
    LinkDeed → Run m (Link Channel)
  | .connect limit => do
    let (_, link) ← link.connect surroundings fuel limit
    pure link
  | .call method arguments => do
    let (_, link) ← link.call surroundings fuel method arguments
    pure link
  | .send method arguments =>
    match link.connection with
    | none => pure link
    | some connection => do
      let (_, link) ← link.send surroundings connection method arguments
      pure link
  | .close => link.close surroundings
  | .invalidate => link.invalidate surroundings
  | .url => do
    let (_, link) ← link.url surroundings
    pure link
  | .rawUrl => do
    let (_, link) ← link.rawUrl surroundings
    pure link

def SessionDeed.run (surroundings : Surroundings m Channel) (fuel : Nat)
    (session : Session Channel) : SessionDeed → Run m (Session Channel)
  | .invoke request repeatable => do
    let (_, session) ← session.invoke surroundings fuel request repeatable
    pure session
  | .withLink deed => do
    let (_, session) ← session.withLink surroundings fun link => do
      let link ← deed.run surroundings fuel link
      pure (.ok (), link)
    pure session
  | .invalidate => session.invalidate surroundings
  | .url => do
    let (_, session) ← session.url surroundings
    pure session
  | .setPolicy policy => pure { session with policy }

end Running

structure Link.IsNew (link : Link Nat) : Prop where
  idle : link.connection = none
  epoch : link.epoch = 0
  forgetful : link.locator.forget = link.locator

theorem Link.isNew_of_ofCluster {m : Type → Type} {surroundings : Surroundings m Nat}
    {cluster : Cluster} {options : LinkOptions} {link : Link Nat}
    (built : Link.ofCluster surroundings cluster options = .ok link) : link.IsNew := by
  unfold Link.ofCluster at built
  split at built
  · cases built
  · rename_i locator located
    split at built
    · cases built
    · cases built
      refine ⟨rfl, rfl, ?_⟩
      unfold Locator.ofCluster at located
      split at located
      · cases located
      · cases located
        rfl
      · split at located
        · cases located
          rfl
        · cases located

variable {σ : Type}

/-- What a link can come to on a scene, and what was done with it until then. -/
inductive Link.History (scene : Scene σ) : Link Nat → Log → Prop where
  | made {link : Link Nat} (new : link.IsNew) : History scene link []
  | did {link after : Link Nat} {done : Log} {fuel : Nat} {state : σ} (deed : LinkDeed)
    (history : History scene link done)
    (ends : (scene.perform (deed.run scene.surroundings fuel link) state).outcome = .ok after) :
    History scene after
      (done ++ (scene.perform (deed.run scene.surroundings fuel link) state).done)

/-- What a session can come to on a scene, what was done with it until then, and what of that was
done since it has the link that it has now. -/
inductive Session.History (scene : Scene σ) : Session Nat → Log → Log → Prop where
  | made {session : Session Nat} (unlinked : session.link = none) : History scene session [] []
  | did {session after : Session Nat} {done own : Log} {fuel : Nat} {state : σ}
    (deed : SessionDeed) (history : History scene session done own)
    (ends : (scene.perform (deed.run scene.surroundings fuel session) state).outcome = .ok after) :
    History scene after
      (done ++ (scene.perform (deed.run scene.surroundings fuel session) state).done)
      ((if session.link.isNone then [] else own) ++
        (scene.perform (deed.run scene.surroundings fuel session) state).done)

end SchedulerLink
