import SchedulerLink.File.Path
import SchedulerLink.Login.Netrc
import SchedulerLink.Text.Quoted

/-!
Who a client says it is. A mechanism names a way to log in; it yields the credentials that a channel
sends and the advice that is given when they are refused.
-/

namespace SchedulerLink

structure Account where
  username : String
  password : String
  deriving DecidableEq, Repr

inductive Credentials where
  | fixed (account : Account)
  | netrc (path : String)
  deriving DecidableEq, Repr

/-- The account that a block names: the account stands in for a missing login. -/
def NetrcEntry.account? (entry : NetrcEntry) : Option Account :=
  match entry.login, entry.account with
  | some login, _ => some ⟨login, entry.password.getD ""⟩
  | none, some account => some ⟨account, entry.password.getD ""⟩
  | none, none => none

/-- The account for a host; `contents` is what a netrc file holds, if it can be read. -/
def Credentials.accountFor (credentials : Credentials) (contents : Option String) (host : String) :
    Option Account :=
  match credentials with
  | .fixed account => some account
  | .netrc _ => contents.bind fun text => ((Netrc.parse text).entryFor host).bind (·.account?)

inductive Login where
  | anonymous
  | netrc (path : String)
  | fixed (account : Account) (advice : String)
  deriving DecidableEq, Repr

inductive LoginError where
  | unknownMechanism (name : String)
  | noNetrc
  deriving DecidableEq, Repr

def LoginError.message : LoginError → String
  | .unknownMechanism name => s!"unknown auth mechanism {Text.quoted name}"
  | .noNetrc => "no netrc file available for BASIC auth (HOME is not set)"

namespace Login

def mechanism : Login → String
  | .anonymous => "UNAUTHENTICATED"
  | .netrc _ => "BASIC"
  | .fixed _ _ => "BASIC"

def credentials? : Login → Option Credentials
  | .anonymous => none
  | .netrc path => some (.netrc path)
  | .fixed account _ => some (.fixed account)

def advice : Login → String
  | .anonymous => ""
  | .netrc path =>
    s!"Communication with the scheduler is unauthorized; check the credentials in {path}."
  | .fixed _ advice => advice

/-- The way to log in that a mechanism names, in any ASCII case. Basic login reads `.netrc` in the
home directory. -/
def ofMechanism (home : Option String) (name : String) : Except LoginError Login :=
  let upper := name.toUpper
  if upper = "UNAUTHENTICATED" then .ok .anonymous
  else if upper = "BASIC" then
    match home with
    | some home => .ok (.netrc (Path.join home ".netrc"))
    | none => .error .noNetrc
  else .error (.unknownMechanism name)

end Login

end SchedulerLink
