import Mathlib.Data.List.Forall2
import SchedulerLink.Command.Program
import SchedulerLink.Rehearsal.Stage
import SchedulerLink.Proofs.Fitting

/-!
What the command that makes a call does.

The method, the arguments, the cluster and the number of the arguments are checked in this order,
and nothing is done for a command that fails any check. Otherwise one call is made, its response is
printed if there is one, and the command ends well exactly after a good response.
-/

namespace SchedulerLink

/-! Names of methods. -/

namespace Settings

variable {settings : Settings} {name : String} {first : Cluster}

end Settings

namespace Program

/-! Arguments. -/

section Checks

variable {settings : Settings} {cluster method : String} {texts : List String}

end Checks

/-! What is printed. -/

/-- What users are told of a response. -/
def documentOf (response : Response) : Json :=
  .obj [("details", .arr (response.details.map .str)), ("responseCode", .str response.code.name),
    ("result", response.result.getD .null), ("serverInfo", response.serverInfo.getD .null)]

/-- A text tells of a response and ends with a line. Whoever reads JSON reads it from there. -/
structure Shows (text : String) (response : Response) : Prop where
  written : ∃ lines, text = lines ++ "\n" ∧
    (documentOf response).WrittenAs (Bytes.ofString lines)
  reads : (∀ part ∈ response.result.toList ++ response.serverInfo.toList, Json.Portable 126 part) →
    Json.parse (Bytes.ofString text) = .ok (documentOf response)

section Doing

variable {m : Type → Type} [Monad m] {Channel : Type} {settings : Settings}
  {cluster method : String} {texts : List String}

end Doing

end Program

end SchedulerLink
