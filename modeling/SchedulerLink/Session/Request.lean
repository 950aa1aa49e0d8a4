import SchedulerLink.Call.Argument
import SchedulerLink.Call.Method

/-!
Requests of a session: a method and its arguments.

The requests with an optional last argument have definitions of their own. A message that is not
given is sent as a null, a token that is not given is left out.
-/

namespace SchedulerLink

structure Request where
  method : Method
  arguments : List Json
  deriving Repr

namespace Request

def pulse (key : Json) (token : Option Json) : Request := ⟨.pulseJobUpdate, key :: token.toList⟩

def pause (key : Json) (message : Option String) : Request :=
  ⟨.pauseJobUpdate, [key, Argument.optionalText message]⟩

def resume (key : Json) (message : Option String) : Request :=
  ⟨.resumeJobUpdate, [key, Argument.optionalText message]⟩

def abort (key : Json) (message : Option String) : Request :=
  ⟨.abortJobUpdate, [key, Argument.optionalText message]⟩

def rollback (key : Json) (message : Option String) : Request :=
  ⟨.rollbackJobUpdate, [key, Argument.optionalText message]⟩

def start (update : Json) (message : Option String) : Request :=
  ⟨.startJobUpdate, [update, Argument.optionalText message]⟩

def details (key : Json) (query : Option Json) : Request :=
  ⟨.getJobUpdateDetails, [key, query.getD .null]⟩

def kill (job instances : Json) (message : Option String) : Request :=
  ⟨.killTasks, [job, instances, Argument.optionalText message]⟩

end Request

end SchedulerLink
