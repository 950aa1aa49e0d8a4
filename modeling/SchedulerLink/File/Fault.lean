/-!
Why a file or a directory cannot be read.
-/

namespace SchedulerLink

inductive FileFault where
  | notFound
  | notDirectory
  | isDirectory
  | exists
  | nameTooLong
  | nul
  | notText
  | other (text : String)
  deriving DecidableEq, Repr

def FileFault.message : FileFault → String
  | .notFound => "No such file or directory (os error 2)"
  | .notDirectory => "Not a directory (os error 20)"
  | .isDirectory => "Is a directory (os error 21)"
  | .exists => "File exists (os error 17)"
  | .nameTooLong => "File name too long (os error 36)"
  | .nul => "file name contained an unexpected NUL byte"
  | .notText => "stream did not contain valid UTF-8"
  | .other text => text

end SchedulerLink
