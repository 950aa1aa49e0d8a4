import SchedulerLink.File.Store
import SchedulerLink.Link.Surroundings
import SchedulerLink.Serverset.Directory
import SchedulerLink.Settings.Read

/-!
Settings that are kept in a file.

`Settings.load` reads a file, and `Settings.loadOrCreate` makes one with the usual settings if there
is none. `Settings.registry` is the registry that the settings name.
-/

namespace SchedulerLink

inductive SettingsFailure where
  | unreadable (path : String) (fault : FileFault)
  | malformed (path : String)
  | notCreated (fault : FileFault)
  deriving DecidableEq, Repr

namespace SettingsFailure

def message : SettingsFailure → String
  | .unreadable path _ => s!"reading config {path}"
  | .malformed path => s!"parsing config {path}"
  | .notCreated fault => fault.message

def chain (failure : SettingsFailure) : List String :=
  match failure with
  | .unreadable _ fault => [failure.message, fault.message]
  | _ => [failure.message]

end SettingsFailure

namespace Settings

def usualDocument : String :=
  let usual : Settings := {}
  let lines :=
    [s!"user_agent = \"{usual.userAgent}\"",
      s!"bypass_leader_redirect = {usual.bypassLeaderRedirect}", "clusters = []"]
  String.join (lines.map (· ++ "\n"))

variable {m : Type → Type} [Monad m]

def ofDocument (path document : String) : Except SettingsFailure Settings :=
  match parse document with
  | some settings => .ok settings
  | none => .error (.malformed path)

def load (files : FileStore m) (path : String) : m (Except SettingsFailure Settings) := do
  match ← files.read path with
  | .error fault => pure (.error (.unreadable path fault))
  | .ok document => pure (ofDocument path document)

/-- The settings in a file. If there is none, one with the usual settings is made. -/
def loadOrCreate (files : FileStore m) (path : String) : m (Except SettingsFailure Settings) := do
  match ← files.read path with
  | .ok document => pure (ofDocument path document)
  | .error fault =>
    if fault = .notFound ∨ fault = .notDirectory then
      match ← files.append path usualDocument with
      | .ok () => pure (.ok {})
      | .error fault => pure (.error (.notCreated fault))
    else pure (.error (.unreadable path fault))

def registry {Channel : Type} (settings : Settings) (watch : Directory.Watch m) (fuel : Nat)
    (surroundings : Surroundings m Channel) : Surroundings m Channel :=
  match settings.registryRoot with
  | none => { surroundings with hasRegistry := false, lookup := fun _ _ => pure (.ok []) }
  | some root =>
    { surroundings with
      hasRegistry := true
      lookup := fun target patience =>
        Directory.lookup watch fuel root target.path patience }

end Settings

end SchedulerLink
