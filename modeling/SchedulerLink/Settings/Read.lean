import SchedulerLink.Settings.Basic
import SchedulerLink.Toml.Document

/-!
Settings from TOML documents.

A group of settings may be written as a table, by names, or as an array, in order; names that nobody
knows and places beyond the last are passed over. A number of seconds may be written without a
point.
-/

namespace SchedulerLink.Settings

abbrev Group := String → Option Toml

/-- A group whose names have places in the given order. A date has no settings. -/
def group? (names : List String) : Toml → Option Group
  | .table fields => some fun name => fields.lookup name
  | .array items => some fun name => (names.zip items).lookup name
  | .moment => some fun _ => none
  | _ => none

namespace Group

def required {α : Type} (group : Group) (name : String) (read : Toml → Option α) : Option α :=
  (group name).bind read

def optional {α : Type} (group : Group) (name : String) (read : Toml → Option α) (usual : α) :
    Option α :=
  match group name with
  | none => some usual
  | some value => read value

end Group

def text? : Toml → Option String
  | .string text => some text
  | _ => none

def flag? : Toml → Option Bool
  | .boolean flag => some flag
  | _ => none

def below? (limit : Nat) : Toml → Option Nat
  | .integer value => if 0 ≤ value ∧ value < limit then some value.toNat else none
  | _ => none

def number? : Toml → Option Binary64
  | .real value => some value
  | .integer value => some (.ofRatio (value < 0) value.natAbs 1)
  | _ => none

def present? {α : Type} (read : Toml → Option α) (value : Toml) : Option (Option α) :=
  (read value).map some

def retryNames : List String :=
  ["connect_retry_interval_secs", "connect_maximum_wait_secs", "rpc_retry_interval_secs",
    "max_rpc_retry_interval_secs", "rpc_maximum_wait_secs", "serverset_timeout_secs",
    "max_connect_attempts"]

def retry? (value : Toml) : Option RetrySettings := do
  let group ← group? retryNames value
  let usual : RetrySettings := {}
  let seconds := below? 0x10000000000000000
  let attempts := present? (below? 0x100000000)
  pure {
    connectInterval :=
      ← group.optional "connect_retry_interval_secs" number? usual.connectInterval
    connectWait := ← group.optional "connect_maximum_wait_secs" seconds usual.connectWait
    callInterval := ← group.optional "rpc_retry_interval_secs" number? usual.callInterval
    longestCallInterval :=
      ← group.optional "max_rpc_retry_interval_secs" seconds usual.longestCallInterval
    callWait := ← group.optional "rpc_maximum_wait_secs" seconds usual.callWait
    registryWait := ← group.optional "serverset_timeout_secs" seconds usual.registryWait
    connectAttempts :=
      ← group.optional "max_connect_attempts" attempts usual.connectAttempts }

def registryRoot? (value : Toml) : Option String := do
  let group ← group? ["serverset_root"] value
  group.required "serverset_root" text?

def clusterNames : List String :=
  ["name", "zk", "zk_port", "scheduler_zk_path", "scheduler_uri", "proxy_url", "auth_mechanism"]

def cluster? (value : Toml) : Option Cluster := do
  let group ← group? clusterNames value
  let name ← group.required "name" text?
  let usual : Cluster := { name }
  pure { name
         registry := ← group.optional "zk" (present? text?) usual.registry
         registryPort := ← group.optional "zk_port" (below? 0x10000) usual.registryPort
         registryPath := ← group.optional "scheduler_zk_path" text? usual.registryPath
         schedulerUri := ← group.optional "scheduler_uri" (present? text?) usual.schedulerUri
         proxyUrl := ← group.optional "proxy_url" (present? text?) usual.proxyUrl
         mechanism := ← group.optional "auth_mechanism" text? usual.mechanism }

def clusters? : Toml → Option (List Cluster)
  | .array items => items.mapM cluster?
  | _ => none

def ofToml? (document : Toml) : Option Settings := do
  let group ← group? [] document
  pure { userAgent := ← group.required "user_agent" text?
         bypassLeaderRedirect := ← group.optional "bypass_leader_redirect" flag? false
         retry := ← group.optional "retry" (present? retry?) none
         registryRoot := ← group.optional "discovery" (present? registryRoot?) none
         clusters := ← group.optional "clusters" clusters? [] }

def parse (document : String) : Option Settings := (Toml.parse document).bind ofToml?

end SchedulerLink.Settings
