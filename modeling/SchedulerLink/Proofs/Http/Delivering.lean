import SchedulerLink.Http.Channel
import SchedulerLink.Proofs.Numbering

/-!
Deliveries and the requests that they come to.

A network is watched by writing down what is sent and what comes back, whatever its peers do. Every
request of a delivery carries the whole message, or nothing where only the result is fetched.
-/

namespace SchedulerLink

variable {σ τ : Type}

structure HttpExchange where
  address : HttpAddress
  request : HttpRequest
  reply : Except TransferFault Bytes
  deriving DecidableEq

namespace HttpExchange

def answer? (exchange : HttpExchange) : Option (Nat × Bytes) :=
  match exchange.reply with
  | .error _ => none
  | .ok octets =>
    match ReplyHead.read octets with
    | .error _ => none
    | .ok (head, behind) => (head.body (behind.getD [])).toOption.map fun body => (head.status, body)

def Carries (exchange : HttpExchange) : Option Bytes → Prop
  | some message => exchange.request.method = "POST" ∧ exchange.request.body = message
  | none => exchange.request.method = "GET" ∧ exchange.request.body = []

end HttpExchange

def Network.watched (network : Network (StateM σ)) : Network (StateM (σ × List HttpExchange)) where
  reach address := StateM.beside (network.reach address)
  send address request := fun (state, exchanges) =>
    let (reply, next) := (network.send address request).run state
    (reply, next, exchanges ++ [⟨address, request, reply⟩])

def FileStore.beside (files : FileStore (StateM σ)) : FileStore (StateM (σ × τ)) where
  list path := StateM.beside (files.list path)
  read path := StateM.beside (files.read path)
  append path text := StateM.beside (files.append path text)

namespace Delivery

/-- The requests of a delivery, one after the other, and what they come to. -/
inductive Followed : Option Bytes → List HttpExchange → Except TransferFault (Nat × Bytes) → Prop
    where
  | failed {message : Option Bytes} {exchange : HttpExchange} (fault : TransferFault)
    (carries : exchange.Carries message) : Followed message [exchange] (.error fault)
  | answered {message : Option Bytes} {exchange : HttpExchange} {status : Nat} {body : Bytes}
    (carries : exchange.Carries message) (answer : exchange.answer? = some (status, body)) :
    Followed message [exchange] (.ok (status, body))
  | redirected {message left : Option Bytes} {exchange : HttpExchange} {rest : List HttpExchange}
    {result : Except TransferFault (Nat × Bytes)} (carries : exchange.Carries message)
    (same : left = message ∨ left = none) (later : Followed left rest result) :
    Followed message (exchange :: rest) result

theorem carries_request (delivery : Delivery) (target address : HttpAddress)
    (reply : Except TransferFault Bytes) :
    HttpExchange.Carries ⟨address, delivery.request target, reply⟩ delivery.message := by
  rw [request]
  cases delivery.message with
  | some message => exact ⟨rfl, rfl⟩
  | none => exact ⟨rfl, rfl⟩

theorem confined_message (delivery : Delivery) (first address : HttpAddress) :
    (delivery.confined first address).message = delivery.message := by
  rw [confined]
  split <;> rfl

theorem redirected_message (delivery : Delivery) (status : Nat) :
    (delivery.redirected status).message = delivery.message ∨
      (delivery.redirected status).message = none := by
  rw [redirected]
  split
  · exact .inr rfl
  · exact .inl rfl

theorem onward_message {delivery left : Delivery} {ownAccount : Bool} {address next : HttpAddress}
    {status : Nat} {location : Bytes}
    (goes : delivery.onward ownAccount address status location = .ok (next, left)) :
    left.message = delivery.message ∨ left.message = none := by
  rw [onward] at goes
  cases resolved : address.resolve location with
  | error fault =>
    rw [resolved] at goes
    cases goes
  | ok target =>
    cases named : target.account? with
    | error fault =>
      simp only [resolved, named, bind, Except.bind, reduceCtorEq] at goes
    | ok account =>
      simp only [resolved, named, bind, Except.bind] at goes
      cases goes
      exact redirected_message delivery status

theorem request_run (network : Network (StateM σ)) (delivery : Delivery) (first address : HttpAddress)
    (state : σ) (exchanges : List HttpExchange) : ∃ exchange next,
      (network.watched.send address ((delivery.confined first address).request address)).run
        (state, exchanges) = (exchange.reply, next, exchanges ++ [exchange]) ∧
      exchange.Carries delivery.message := by
  refine ⟨⟨address, (delivery.confined first address).request address, _⟩, _, rfl, ?_⟩
  rw [← confined_message delivery first address]
  exact carries_request _ _ _ _

theorem answer?_of_ended {exchange : HttpExchange} {status : Nat} {body : Bytes}
    (ends : ReplyTurn.of exchange.reply = .ended (.ok (status, body))) :
    exchange.answer? = some (status, body) := by
  obtain ⟨address, request, fault | octets⟩ := exchange
  · cases ends
  · cases reads : ReplyHead.read octets with
    | error fault => simp only [ReplyTurn.of, reads, ReplyTurn.ended.injEq, reduceCtorEq] at ends
    | ok read =>
      obtain ⟨head, behind⟩ := read
      cases sent : head.location with
      | some location => simp only [ReplyTurn.of, reads, sent, reduceCtorEq] at ends
      | none =>
        have whole : (head.body (behind.getD [])).map (fun body => (head.status, body)) =
            .ok (status, body) := by
          simpa only [ReplyTurn.of, reads, sent, ReplyTurn.ended.injEq] using ends
        cases text : head.body (behind.getD []) with
        | error fault =>
          rw [text] at whole
          cases whole
        | ok octets =>
          rw [text] at whole
          cases whole
          simp only [HttpExchange.answer?, reads, text]
          rfl

theorem Followed.of_ended {message : Option Bytes} {exchange : HttpExchange}
    {result : Except TransferFault (Nat × Bytes)} (carries : exchange.Carries message)
    (ends : ReplyTurn.of exchange.reply = .ended result) : Followed message [exchange] result := by
  rcases result with fault | ⟨status, body⟩
  · exact .failed fault carries
  · exact .answered carries (answer?_of_ended ends)

theorem follow_run (network : Network (StateM σ)) (first : HttpAddress) (ownAccount : Bool)
    (redirects : Nat) (address : HttpAddress) (delivery : Delivery) (state : σ)
    (exchanges : List HttpExchange) : ∃ result next done,
      (follow network.watched first ownAccount redirects address delivery).run (state, exchanges) =
        (result, next, exchanges ++ done) ∧ Followed delivery.message done result := by
  induction redirects generalizing address delivery state exchanges with
  | zero =>
    obtain ⟨exchange, next, sends, carries⟩ :=
      request_run network delivery first address state exchanges
    rw [follow, StateM.run_bind_of sends]
    -- The last exchange allowed is not followed further, wherever the reply leads.
    cases turn : ReplyTurn.of exchange.reply with
    | ended result => exact ⟨result, next, [exchange], rfl, .of_ended carries turn⟩
    | elsewhere status location => exact ⟨_, next, [exchange], rfl, .failed _ carries⟩
  | succ redirects ih =>
    obtain ⟨exchange, next, sends, carries⟩ :=
      request_run network delivery first address state exchanges
    rw [follow, StateM.run_bind_of sends]
    cases turn : ReplyTurn.of exchange.reply with
    | ended result => exact ⟨result, next, [exchange], rfl, .of_ended carries turn⟩
    | elsewhere status location =>
      cases goes : delivery.onward ownAccount address status location with
      | error fault =>
        simp only [goes]
        exact ⟨.error fault, next, [exchange], rfl, .failed fault carries⟩
      | ok target =>
        obtain ⟨result, last, done, follows, later⟩ :=
          ih target.1 target.2 next (exchanges ++ [exchange])
        rw [← List.append_cons] at follows
        simp only [goes]
        exact ⟨result, last, exchange :: done, follows,
          .redirected carries (onward_message goes) later⟩

theorem send_run (network : Network (StateM σ)) {address : HttpAddress} {account : Option Bytes}
    (named : address.account? = .ok account) (delivery : Delivery) (state : σ)
    (exchanges : List HttpExchange) : ∃ result next done,
      (delivery.send network.watched address).run (state, exchanges) =
        (result, next, exchanges ++ done) ∧ Followed delivery.message done result := by
  simp only [send, named]
  exact follow_run network _ _ _ _ _ state exchanges

namespace Followed

variable {message : Option Bytes} {exchanges : List HttpExchange}
  {result : Except TransferFault (Nat × Bytes)}

theorem begins (followed : Followed message exchanges result) :
    ∃ exchange ∈ exchanges.head?, exchange.Carries message := by
  cases followed with
  | failed _ carries => exact ⟨_, rfl, carries⟩
  | answered carries _ => exact ⟨_, rfl, carries⟩
  | redirected carries _ _ => exact ⟨_, rfl, carries⟩

theorem carries (followed : Followed message exchanges result) :
    ∀ exchange ∈ exchanges, exchange.Carries message ∨ exchange.Carries none := by
  induction followed with
  | failed _ carries => exact List.forall_mem_singleton.mpr (.inl carries)
  | answered carries _ => exact List.forall_mem_singleton.mpr (.inl carries)
  | redirected carries same _ ih =>
    refine List.forall_mem_cons.mpr ⟨.inl carries, fun exchange member => ?_⟩
    rcases same with rfl | rfl
    · exact ih exchange member
    · exact .inr ((ih exchange member).elim id id)

theorem answer {status : Nat} {body : Bytes}
    (followed : Followed message exchanges (.ok (status, body))) :
    ∃ exchange, exchanges.getLast? = some exchange ∧ exchange.answer? = some (status, body) := by
  generalize ends : Except.ok (status, body) = result at followed
  induction followed with
  | failed => cases ends
  | answered _ answer =>
    cases ends
    exact ⟨_, rfl, answer⟩
  | redirected _ _ _ ih =>
    obtain ⟨exchange, last, answer⟩ := ih ends
    exact ⟨exchange, by rw [List.getLast?_cons, last]; rfl, answer⟩

end Followed

end Delivery

end SchedulerLink
