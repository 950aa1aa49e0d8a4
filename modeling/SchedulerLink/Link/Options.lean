import SchedulerLink.Channel.Headers
import SchedulerLink.Duration
import SchedulerLink.Login.Credentials

/-!
How a link connects, and what a channel is set up with.
-/

namespace SchedulerLink

structure LinkOptions where
  userAgent : String := "aurora-client/0.1.0"
  bypassLeaderRedirect : Bool := false
  connectInterval : Duration := .ofSeconds 1
  connectWait : Duration := .ofSeconds 60
  registryWait : Duration := .ofSeconds 10
  connectAttempts : Option Nat := none
  deriving DecidableEq, Repr

structure ChannelSetup where
  credentials : Option Credentials
  userAgent : String
  headers : Headers
  deriving DecidableEq, Repr

namespace ChannelSetup

def ofOptions (options : LinkOptions) (login : Login) : ChannelSetup :=
  ⟨login.credentials?, options.userAgent, .initial options.bypassLeaderRedirect⟩

def summary (setup : ChannelSetup) : String :=
  let hasLogin := setup.credentials.isSome
  s!"TransportConfig \x7b auth: {hasLogin}, user_agent: {Text.quoted setup.userAgent}, .. \x7d"

end ChannelSetup

end SchedulerLink
