import SchedulerLink.Proofs.Fitting
import SchedulerLink.Proofs.Resending

/-!
Requests with an optional last argument.

Such a request without its last argument is made in two ways, with a null in its place or with a
shorter list. Either way the call is fitted to the same arguments, so nothing that follows differs.
-/

namespace SchedulerLink

/-- What an argument list is fitted to makes the same call over every line. -/
theorem Signature.Fits.exchange {signature : Signature} {given fitted : List Json}
    (fits : signature.Fits given fitted) {m : Type → Type} [Monad m] (line : Line m) (fuel : Nat)
    (sequence : Int32) (method : Method) :
    line.exchange fuel sequence method fitted = line.exchange fuel sequence method given := by
  rw [Line.exchange, fits.encoded, Line.exchange]

/-- A request is made of arguments that must be given and of one that may be left out. -/
inductive Request.Offers : Request → (given : List Json) → (last : Option Json) → Prop where
  | pulse (key : Json) (token : Option Json) : Offers (.pulse key token) [key] token
  | pause (key : Json) (message : Option String) :
    Offers (.pause key message) [key] (message.map Argument.text)
  | resume (key : Json) (message : Option String) :
    Offers (.resume key message) [key] (message.map Argument.text)
  | abort (key : Json) (message : Option String) :
    Offers (.abort key message) [key] (message.map Argument.text)
  | rollback (key : Json) (message : Option String) :
    Offers (.rollback key message) [key] (message.map Argument.text)
  | start (update : Json) (message : Option String) :
    Offers (.start update message) [update] (message.map Argument.text)
  | details (key : Json) (query : Option Json) : Offers (.details key query) [key] query
  | kill (job instances : Json) (message : Option String) :
    Offers (.kill job instances message) [job, instances] (message.map Argument.text)

namespace Request.Offers

variable {request : Request} {given : List Json} {last : Option Json}

theorem optionalText_eq (message : Option String) :
    Argument.optionalText message = (message.map Argument.text).getD .null := by
  cases message <;> rfl

theorem shape (offers : request.Offers given last) :
    request.method.signature.required = given.length ∧
      request.method.signature.optional = 1 ∧
      (request.arguments = given ++ last.toList ∨
        request.method.signature.padded = true ∧
          request.arguments = given ++ [last.getD .null]) := by
  cases offers with
  | pulse key token => exact ⟨rfl, rfl, .inl rfl⟩
  | details key query => exact ⟨rfl, rfl, .inr ⟨rfl, rfl⟩⟩
  | _ => exact ⟨rfl, rfl, .inr ⟨rfl, by rw [← optionalText_eq]; rfl⟩⟩

end Request.Offers

end SchedulerLink
