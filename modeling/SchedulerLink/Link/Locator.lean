import SchedulerLink.Link.Failure
import SchedulerLink.Link.Surroundings

/-!
Where a link finds its scheduler.

A registry is asked once; the address of the first member is kept until `Locator.forget`. A failed
lookup is not kept.
-/

namespace SchedulerLink

/-- A scheduler that is found through a registry. -/
structure RegistryLocator where
  target : RegistryTarget
  proxyUrl : Option String
  patience : Duration
  found : Option String := none
  deriving DecidableEq, Repr

/-- How a scheduler is found. -/
inductive Locator where
  | direct (uri : String)
  | registry (locator : RegistryLocator)
  deriving DecidableEq, Repr

variable {m : Type → Type} [Monad m] {Channel : Type}

namespace RegistryLocator

def leader (locator : RegistryLocator) (answer : Except DiscoveryFailure (List Member)) :
    Except LinkFailure String :=
  let nobody := LinkFailure.noScheduler locator.target.cluster locator.patience
  match answer with
  | .ok (first :: _) => .ok first.url
  | .ok [] => .error nobody
  | .error (.timeout _ _) => .error nobody
  | .error failure => .error (.discovery locator.target.cluster failure)

/-- The scheduler's own address, from the registry unless it is known. -/
def rawUrl (surroundings : Surroundings m Channel) (locator : RegistryLocator) :
    Run m (Except LinkFailure String × RegistryLocator) :=
  match locator.found with
  | some url => pure (.ok url, locator)
  | none => do
    match locator.leader (← surroundings.lookup locator.target locator.patience) with
    | .ok url => pure (.ok url, { locator with found := some url })
    | .error failure => pure (.error failure, locator)

/-- The address that users are shown. -/
def url (surroundings : Surroundings m Channel) (locator : RegistryLocator) :
    Run m (Except LinkFailure String × RegistryLocator) :=
  match locator.proxyUrl with
  | some proxy => pure (.ok proxy, locator)
  | none => locator.rawUrl surroundings

def forget (locator : RegistryLocator) : RegistryLocator := { locator with found := none }

end RegistryLocator

namespace Locator

def rawUrl (surroundings : Surroundings m Channel) (locator : Locator) :
    Run m (Except LinkFailure String × Locator) :=
  match locator with
  | .direct uri => pure (.ok uri, locator)
  | .registry locator => do
    let (result, locator) ← locator.rawUrl surroundings
    pure (result, .registry locator)

def url (surroundings : Surroundings m Channel) (locator : Locator) :
    Run m (Except LinkFailure String × Locator) :=
  match locator with
  | .direct uri => pure (.ok uri, locator)
  | .registry locator => do
    let (result, locator) ← locator.url surroundings
    pure (result, .registry locator)

def forget : Locator → Locator
  | .direct uri => .direct uri
  | .registry locator => .registry locator.forget

def ofCluster (surroundings : Surroundings m Channel) (cluster : Cluster) (patience : Duration) :
    Except LinkFailure Locator :=
  match cluster.target with
  | .error missing => .error (.configuration missing.message)
  | .ok (.direct uri) => .ok (.direct uri)
  | .ok (.registry target) =>
    if surroundings.hasRegistry then .ok (.registry ⟨target, cluster.proxyUrl, patience, none⟩)
    else
      let name := Text.quoted cluster.name
      .error (.configuration
        s!"cluster {name} uses zk {target.ensemble} but no scheduler resolver is configured")

end Locator

end SchedulerLink
