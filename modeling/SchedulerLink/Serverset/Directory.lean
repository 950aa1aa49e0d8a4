import SchedulerLink.File.Path
import SchedulerLink.File.Store
import SchedulerLink.Halt
import SchedulerLink.Pacing.Clock
import SchedulerLink.Serverset.Failure
import SchedulerLink.Serverset.Record

/-!
A registry that is kept in a directory.

Every member of a serverset is a file whose name says its number in the order of arrival, so the
first member that is alive leads. The directory is read again and again until it has a live member
or the time is over; the last reading is at the very end of that time.
-/

namespace SchedulerLink.Directory

structure Watch (m : Type → Type) extends Clock m where
  files : FileStore m

def memberMark : String := "member_"

def interval : Duration := .ofMillis 250

/-- The directory below a root that holds what is under a path of the registry. -/
def directoryOf (root path : String) : String :=
  Path.join root (String.ofList (path.toList.dropWhile (· = '/')))

def memberNames (names : List String) : List String :=
  (names.filter (·.startsWith memberMark)).mergeSort fun one other => decide (one ≤ other)

/-- The member that a file describes, if it is alive. A file without a member in it is passed over.
-/
def liveMember (text : String) : Option Member :=
  match Member.unpack (Bytes.ofString text) with
  | .ok member => if member.status = .alive then some member else none
  | .error _ => none

def unreadable (path : String) (fault : FileFault) : DiscoveryFailure :=
  .unavailable s!"{path}: {fault.message}"

variable {m : Type → Type} [Monad m]

/-- The live members among the given files. A file that has vanished is passed over. -/
def readFiles (watch : Watch m) (directory : String) :
    List String → m (Except DiscoveryFailure (List Member))
  | [] => pure (.ok [])
  | name :: rest => do
    let path := Path.join directory name
    match ← watch.files.read path with
    | .error .notFound => readFiles watch directory rest
    | .error fault => pure (.error (unreadable path fault))
    | .ok text =>
      match ← readFiles watch directory rest with
      | .error failure => pure (.error failure)
      | .ok members => pure (.ok ((liveMember text).toList ++ members))

def readMembers (watch : Watch m) (directory : String) :
    m (Except DiscoveryFailure (List Member)) := do
  match ← watch.files.list directory with
  | .error .notFound => pure (.ok [])
  | .error fault => pure (.error (unreadable directory fault))
  | .ok names => readFiles watch directory (memberNames names)

/-- Reads a directory until it has a live member or the deadline has come. -/
def poll (watch : Watch m) (directory path : String) (patience : Duration) (deadline : Deadline) :
    (fuel : Nat) → Run m (Except DiscoveryFailure (List Member))
  | 0 => throw .unfinished
  | fuel + 1 => do
    match ← readMembers (m := m) watch directory with
    | .error failure => pure (.error failure)
    | .ok (first :: rest) => pure (.ok (first :: rest))
    | .ok [] =>
      let remaining := deadline.remaining (← watch.now)
      if remaining = .zero then pure (.error (.timeout path patience))
      else
        watch.pause (min interval remaining)
        poll watch directory path patience deadline fuel

def lookup (watch : Watch m) (fuel : Nat) (root path : String) (patience : Duration) :
    Run m (Except DiscoveryFailure (List Member)) := do
  match Deadline.after? (← watch.now) patience with
  | none => throw .overflow
  | some deadline => poll watch (directoryOf root path) path patience deadline fuel

end SchedulerLink.Directory
