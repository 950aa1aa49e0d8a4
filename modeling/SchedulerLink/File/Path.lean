/-!
Paths of files.
-/

namespace SchedulerLink.Path

def join (directory path : String) : String :=
  if path.startsWith "/" then path
  else if directory.isEmpty || directory.endsWith "/" then directory ++ path
  else directory ++ "/" ++ path

end SchedulerLink.Path
