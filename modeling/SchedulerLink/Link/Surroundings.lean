import SchedulerLink.Call.Failure
import SchedulerLink.Call.Method
import SchedulerLink.Call.Response
import SchedulerLink.Cluster
import SchedulerLink.Halt
import SchedulerLink.Link.Options
import SchedulerLink.Pacing.Clock
import SchedulerLink.Serverset.Failure
import SchedulerLink.Serverset.Member

/-!
What a link works with: a clock, a registry, channels, and ways to log in.

Links and sessions are written against `Surroundings` alone. They run in any monad, so the same
definitions serve a program with sockets and a rehearsal whose state is an ordinary value.
-/

namespace SchedulerLink

/-- What links and sessions work with. -/
structure Surroundings (m : Type → Type) (Channel : Type) extends Clock m where
  isStopping : m Bool
  hasRegistry : Bool
  lookup : RegistryTarget → Duration → Run m (Except DiscoveryFailure (List Member))
  create : String → ChannelSetup → m Channel
  openChannel : Channel → m (Except ChannelFailure Unit)
  closeChannel : Channel → m Unit
  adopt : Channel → m Unit
  call : Channel → Int32 → Method → List Json → Run m (Except CallFailure Response)
  login : String → Except LoginError Login

namespace Surroundings

variable {m : Type → Type} [Monad m] {Channel : Type}

def deadline (surroundings : Surroundings m Channel) (budget : Duration) : Run m Deadline := do
  match Deadline.after? (← surroundings.now) budget with
  | some deadline => pure deadline
  | none => throw .overflow

/-- A deadline, or the one a budget from now if that comes first. -/
def capped (surroundings : Surroundings m Channel) (deadline : Deadline) (budget : Duration) :
    Run m Deadline := do
  match deadline.capped? (← surroundings.now) budget with
  | some deadline => pure deadline
  | none => throw .overflow

def summary (surroundings : Surroundings m Channel) : String :=
  s!"ClientDeps \x7b resolver: {surroundings.hasRegistry}, .. \x7d"

end Surroundings

end SchedulerLink
