import SchedulerLink.Text.Blank
import SchedulerLink.Text.Quoted

/-!
Clusters and how to reach their schedulers.

The scheduler of a cluster is found through a registry, which knows the leader among several, or at
one fixed address; a registry wins where both are given. The address of a proxy is shown to users
and never connected to.
-/

namespace SchedulerLink

structure Cluster where
  name : String
  registry : Option String := none
  registryPort : Nat := 2181
  registryPath : String := "/aurora/scheduler"
  schedulerUri : Option String := none
  proxyUrl : Option String := none
  mechanism : String := "UNAUTHENTICATED"
  deriving DecidableEq, Repr

/-- Where a registry keeps the members of a scheduler. -/
structure RegistryTarget where
  cluster : String
  ensemble : String
  port : Nat
  path : String
  deriving DecidableEq, Repr

inductive Target where
  | registry (target : RegistryTarget)
  | direct (uri : String)
  deriving DecidableEq, Repr

/-- Hosts of a registry with their ports, the given port where a host has none. -/
def ensembleHosts (ensemble : String) (port : Nat) : List String :=
  let parts := (Text.splitAt (· = ',') ensemble.toList).map Text.trim
  (parts.filter (!·.isEmpty)).map fun host =>
    if host.contains ':' then String.ofList host else s!"{String.ofList host}:{port}"

namespace RegistryTarget

def hosts (target : RegistryTarget) : List String := ensembleHosts target.ensemble target.port

end RegistryTarget

structure MissingTarget where
  cluster : String
  deriving DecidableEq, Repr

def MissingTarget.message (missing : MissingTarget) : String :=
  s!"cluster {Text.quoted missing.cluster} does not specify zk or scheduler_uri"

namespace Cluster

/-- A text without the blanks around it, if anything is left. -/
def stated (field : Option String) : Option String :=
  (field.map Text.trimmed).filter (!·.isEmpty)

/-- Where the scheduler of a cluster is found. -/
def target (cluster : Cluster) : Except MissingTarget Target :=
  match stated cluster.registry, stated cluster.schedulerUri with
  | some ensemble, _ =>
    .ok (.registry ⟨cluster.name, ensemble, cluster.registryPort, cluster.registryPath⟩)
  | none, some uri => .ok (.direct uri)
  | none, none => .error ⟨cluster.name⟩

end Cluster

end SchedulerLink
