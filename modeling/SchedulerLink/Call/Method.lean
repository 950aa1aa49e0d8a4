import SchedulerLink.Json.Basic

/-!
The calls that a scheduler answers, and how many arguments each takes.

`Signature.fit` accepts an argument list exactly when its length is in range, and fills the optional
places of a padded call with nulls. Names are unique, so `Method.ofName?` undoes `Method.name`.
-/

namespace SchedulerLink

/-- What a call is named on the wire and how many arguments it takes. -/
structure Signature where
  name : String
  required : Nat
  optional : Nat
  padded : Bool
  deriving DecidableEq, Repr

structure ArgumentError where
  method : String
  least : Nat
  most : Nat
  given : Nat
  deriving DecidableEq, Repr

def ArgumentError.message (error : ArgumentError) : String :=
  s!"{error.method} takes {error.least}..={error.most} arguments, got {error.given}"

namespace Signature

/-- Numbers of arguments are counted in words of 64 bits. -/
def wordSize : Nat := 0x10000000000000000

def fixed (name : String) (required : Nat) : Signature := ⟨name, required, 0, false⟩

def padding (name : String) (required : Nat) : Signature := ⟨name, required, 1, true⟩

def trailing (name : String) (required : Nat) : Signature := ⟨name, required, 1, false⟩

/-- Most arguments, a sum of machine words. -/
def most (signature : Signature) : Nat := (signature.required + signature.optional) % wordSize

/-- An argument list of a length in range, filled up with nulls if the call is padded. -/
def fit (signature : Signature) (arguments : List Json) : Except ArgumentError (List Json) :=
  if arguments.length < signature.required ∨ signature.most < arguments.length then
    .error ⟨signature.name, signature.required, signature.most, arguments.length⟩
  else if signature.padded then
    .ok (arguments ++ List.replicate (signature.most - arguments.length) .null)
  else .ok arguments

end Signature

inductive Method where
  | getRoleSummary
  | getJobSummary
  | getTasksStatus
  | getTasksWithoutConfigs
  | getPendingReason
  | getConfigSummary
  | getJobs
  | getQuota
  | populateJobConfig
  | getJobUpdateSummaries
  | getJobUpdateDetails
  | getJobUpdateDiff
  | getTierConfigs
  | createJob
  | scheduleCronJob
  | descheduleCronJob
  | startCronJob
  | restartShards
  | killTasks
  | addInstances
  | replaceCronTemplate
  | startJobUpdate
  | pauseJobUpdate
  | resumeJobUpdate
  | abortJobUpdate
  | rollbackJobUpdate
  | pulseJobUpdate
  | setQuota
  | forceTaskState
  | performBackup
  | listBackups
  | stageRecovery
  | queryRecovery
  | deleteRecoveryTasks
  | commitRecovery
  | unloadRecovery
  | snapshot
  | triggerExplicitTaskReconciliation
  | triggerImplicitTaskReconciliation
  | pruneTasks
  | startMaintenance
  | drainHosts
  | maintenanceStatus
  | endMaintenance
  | slaDrainHosts
  deriving DecidableEq, Repr

namespace Method

def all : List Method := [
  .getRoleSummary, .getJobSummary, .getTasksStatus, .getTasksWithoutConfigs, .getPendingReason,
  .getConfigSummary, .getJobs, .getQuota, .populateJobConfig, .getJobUpdateSummaries,
  .getJobUpdateDetails, .getJobUpdateDiff, .getTierConfigs, .createJob, .scheduleCronJob,
  .descheduleCronJob, .startCronJob, .restartShards, .killTasks, .addInstances,
  .replaceCronTemplate, .startJobUpdate, .pauseJobUpdate, .resumeJobUpdate, .abortJobUpdate,
  .rollbackJobUpdate, .pulseJobUpdate, .setQuota, .forceTaskState, .performBackup, .listBackups,
  .stageRecovery, .queryRecovery, .deleteRecoveryTasks, .commitRecovery, .unloadRecovery,
  .snapshot, .triggerExplicitTaskReconciliation, .triggerImplicitTaskReconciliation, .pruneTasks,
  .startMaintenance, .drainHosts, .maintenanceStatus, .endMaintenance, .slaDrainHosts]

def signature : Method → Signature
  | .getRoleSummary => .fixed "getRoleSummary" 0
  | .getJobSummary => .fixed "getJobSummary" 1
  | .getTasksStatus => .fixed "getTasksStatus" 1
  | .getTasksWithoutConfigs => .fixed "getTasksWithoutConfigs" 1
  | .getPendingReason => .fixed "getPendingReason" 1
  | .getConfigSummary => .fixed "getConfigSummary" 1
  | .getJobs => .fixed "getJobs" 1
  | .getQuota => .fixed "getQuota" 1
  | .populateJobConfig => .fixed "populateJobConfig" 1
  | .getJobUpdateSummaries => .fixed "getJobUpdateSummaries" 1
  | .getJobUpdateDetails => .padding "getJobUpdateDetails" 1
  | .getJobUpdateDiff => .fixed "getJobUpdateDiff" 1
  | .getTierConfigs => .fixed "getTierConfigs" 0
  | .createJob => .fixed "createJob" 1
  | .scheduleCronJob => .fixed "scheduleCronJob" 1
  | .descheduleCronJob => .fixed "descheduleCronJob" 1
  | .startCronJob => .fixed "startCronJob" 1
  | .restartShards => .fixed "restartShards" 2
  | .killTasks => .padding "killTasks" 2
  | .addInstances => .fixed "addInstances" 2
  | .replaceCronTemplate => .fixed "replaceCronTemplate" 1
  | .startJobUpdate => .padding "startJobUpdate" 1
  | .pauseJobUpdate => .padding "pauseJobUpdate" 1
  | .resumeJobUpdate => .padding "resumeJobUpdate" 1
  | .abortJobUpdate => .padding "abortJobUpdate" 1
  | .rollbackJobUpdate => .padding "rollbackJobUpdate" 1
  | .pulseJobUpdate => .trailing "pulseJobUpdate" 1
  | .setQuota => .fixed "setQuota" 2
  | .forceTaskState => .fixed "forceTaskState" 2
  | .performBackup => .fixed "performBackup" 0
  | .listBackups => .fixed "listBackups" 0
  | .stageRecovery => .fixed "stageRecovery" 1
  | .queryRecovery => .fixed "queryRecovery" 1
  | .deleteRecoveryTasks => .fixed "deleteRecoveryTasks" 1
  | .commitRecovery => .fixed "commitRecovery" 0
  | .unloadRecovery => .fixed "unloadRecovery" 0
  | .snapshot => .fixed "snapshot" 0
  | .triggerExplicitTaskReconciliation => .fixed "triggerExplicitTaskReconciliation" 1
  | .triggerImplicitTaskReconciliation => .fixed "triggerImplicitTaskReconciliation" 0
  | .pruneTasks => .fixed "pruneTasks" 1
  | .startMaintenance => .fixed "startMaintenance" 1
  | .drainHosts => .fixed "drainHosts" 1
  | .maintenanceStatus => .fixed "maintenanceStatus" 1
  | .endMaintenance => .fixed "endMaintenance" 1
  | .slaDrainHosts => .fixed "slaDrainHosts" 3

def name (method : Method) : String := method.signature.name

def ofName? (name : String) : Option Method := all.find? fun method => method.name = name

end Method

end SchedulerLink
