import SchedulerLink.File.Fault

/-!
Files that a program works with.
-/

namespace SchedulerLink

/-- Reading and writing of files. -/
structure FileStore (m : Type → Type) where
  list : String → m (Except FileFault (List String))
  read : String → m (Except FileFault String)
  append : String → String → m (Except FileFault Unit)

end SchedulerLink
