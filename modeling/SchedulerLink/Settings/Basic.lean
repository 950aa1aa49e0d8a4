import SchedulerLink.Session.Basic

/-!
Settings of a client: how it presents itself, how patient it is, where it finds members of
serversets, and the clusters that it knows.
-/

namespace SchedulerLink

structure RetrySettings where
  connectInterval : Binary64 := .ofNat 1
  connectWait : Nat := 60
  callInterval : Binary64 := .ofNat 5
  longestCallInterval : Nat := 30
  callWait : Nat := 600
  registryWait : Nat := 10
  connectAttempts : Option Nat := none
  deriving DecidableEq, Repr

structure Settings where
  userAgent : String := ({} : LinkOptions).userAgent
  bypassLeaderRedirect : Bool := false
  retry : Option RetrySettings := none
  registryRoot : Option String := none
  clusters : List Cluster := []
  deriving DecidableEq, Repr

structure UnknownCluster where
  name : String
  deriving DecidableEq, Repr

def UnknownCluster.message (unknown : UnknownCluster) : String :=
  s!"unknown cluster {Text.quoted unknown.name}"

namespace Settings

/-- A span of seconds; one that no clock can show is no time at all. -/
def span (seconds : Binary64) : Duration := (Duration.ofBinarySeconds? seconds).getD .zero

def linkOptions (settings : Settings) : LinkOptions :=
  let retry := settings.retry.getD {}
  { userAgent := settings.userAgent
    bypassLeaderRedirect := settings.bypassLeaderRedirect
    connectInterval := span retry.connectInterval
    connectWait := .ofSeconds retry.connectWait
    registryWait := .ofSeconds retry.registryWait
    connectAttempts := retry.connectAttempts }

def policy (settings : Settings) : Policy :=
  let retry := settings.retry.getD {}
  ⟨span retry.callInterval, .ofSeconds retry.longestCallInterval, .ofSeconds retry.callWait⟩

def cluster (settings : Settings) (name : String) : Except UnknownCluster Cluster :=
  match settings.clusters.find? fun cluster => cluster.name = name with
  | some cluster => .ok cluster
  | none => .error ⟨name⟩

def session (settings : Settings) (Channel : Type) (name : String) :
    Except UnknownCluster (Session Channel) :=
  (settings.cluster name).map fun cluster =>
    { cluster, options := settings.linkOptions, policy := settings.policy }

end Settings

end SchedulerLink
