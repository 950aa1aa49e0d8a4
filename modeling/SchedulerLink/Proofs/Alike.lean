import SchedulerLink.Proofs.Course

/-!
Links that differ in their epochs alone, and sessions with such links, do the same.

The proofs go through two runs side by side. A run that both have in common is passed over, and
what is left after it need only be alike.
-/

namespace SchedulerLink

variable {σ α β : Type}

/-- Two ends of runs in the same state, with results that a relation connects. -/
inductive Matching (related : α → β → Prop) : Except Halt α × σ → Except Halt β × σ → Prop where
  | halted {halt : Halt} {stop : σ} : Matching related (.error halt, stop) (.error halt, stop)
  | ended {value : α} {other : β} {stop : σ} (left : related value other) :
    Matching related (.ok value, stop) (.ok other, stop)

def Agreeing {answer : Type} (alike : β → β → Prop) (one other : answer × β) : Prop :=
  one.1 = other.1 ∧ alike one.2 other.2

namespace Matching

variable {γ δ : Type} {related : α → β → Prop} {last : γ → δ → Prop} {state : σ}

theorem refl {same : α → α → Prop} (reflexive : ∀ value, same value value)
    (ends : Except Halt α × σ) : Matching same ends ends := by
  obtain ⟨outcome, stop⟩ := ends
  cases outcome with
  | error halt => exact .halted
  | ok value => exact .ended (reflexive value)

theorem bind {one : Run (StateM σ) α} {other : Run (StateM σ) β} {next : α → Run (StateM σ) γ}
    {later : β → Run (StateM σ) δ} (first : Matching related (one.play state) (other.play state))
    (second : ∀ value result middle, related value result →
      Matching last ((next value).play middle) ((later result).play middle)) :
    Matching last ((one >>= next).play state) ((other >>= later).play state) := by
  rw [Run.play_bind, Run.play_bind]
  generalize one.play state = left at first ⊢
  generalize other.play state = right at first ⊢
  cases first with
  | halted => exact .halted
  | ended alike => exact second _ _ _ alike

theorem common {program : Run (StateM σ) α} {next : α → Run (StateM σ) γ}
    {later : α → Run (StateM σ) δ}
    (second : ∀ value middle,
      Matching last ((next value).play middle) ((later value).play middle)) :
    Matching last ((program >>= next).play state) ((program >>= later).play state) := by
  apply bind (refl (fun _ => rfl) (program.play state))
  intro value result middle same
  cases same
  exact second value middle

theorem observed {answer : Type} {scene : Scene σ} {alike : β → β → Prop}
    {one other : Run (StateM σ) (answer × β)}
    (same : Matching (Agreeing alike) (one.play state) (other.play state)) :
    let left := scene.perform one state
    let right := scene.perform other state
    left.outcome.map Prod.fst = right.outcome.map Prod.fst ∧ left.done = right.done ∧
      left.stop = right.stop := by
  simp only [Scene.perform]
  generalize one.play state = first at same ⊢
  generalize other.play state = second at same ⊢
  cases same with
  | halted => exact ⟨rfl, rfl, rfl⟩
  | ended agrees => exact ⟨congrArg Except.ok agrees.1, rfl, rfl⟩

end Matching

namespace Link

def Alike (one other : Link Nat) : Prop := ∃ epoch, other = { one with epoch }

variable {one other : Link Nat}

theorem connectTo_alike (scene : Scene σ) (fuel : Nat) (limit : Option Deadline) (base : String)
    (alike : one.Alike other) (state : σ) :
    Matching (Agreeing Alike) ((one.connectTo scene.surroundings fuel limit base).play state)
      ((other.connectTo scene.surroundings fuel limit base).play state) := by
  obtain ⟨epoch, rfl⟩ := alike
  unfold connectTo
  cases Connect.interfaceUri base with
  | error failure => exact .ended ⟨rfl, epoch, rfl⟩
  | ok uri =>
    apply Matching.common
    intro window middle
    apply Matching.common
    intro opened last
    cases opened with
    | error failure => exact .ended ⟨rfl, epoch, rfl⟩
    | ok channel =>
      apply Matching.common
      intro _ stop
      exact .ended ⟨rfl, epoch + 1, rfl⟩

theorem connect_alike (scene : Scene σ) (fuel : Nat) (limit : Option Deadline)
    (alike : one.Alike other) (state : σ) :
    Matching (Agreeing Alike) ((one.connect scene.surroundings fuel limit).play state)
      ((other.connect scene.surroundings fuel limit).play state) := by
  obtain ⟨epoch, rfl⟩ := alike
  obtain ⟨locator, login, options, connection, made⟩ := one
  cases connection with
  | some connection => exact .ended ⟨rfl, epoch, rfl⟩
  | none =>
    unfold connect
    apply Matching.common
    rintro ⟨failure | base, found⟩ middle
    · exact .ended ⟨rfl, epoch, rfl⟩
    · exact connectTo_alike scene fuel limit base ⟨epoch, rfl⟩ middle

theorem send_alike (scene : Scene σ) (connection : Connection Nat) (method : Method)
    (arguments : List Json) (alike : one.Alike other) (state : σ) :
    Matching (Agreeing Alike)
      ((one.send scene.surroundings connection method arguments).play state)
      ((other.send scene.surroundings connection method arguments).play state) := by
  obtain ⟨epoch, rfl⟩ := alike
  apply Matching.common
  intro result middle
  exact .ended ⟨rfl, epoch, rfl⟩

theorem close_alike (scene : Scene σ) (alike : one.Alike other) (state : σ) :
    Matching Alike ((one.close scene.surroundings).play state)
      ((other.close scene.surroundings).play state) := by
  obtain ⟨epoch, rfl⟩ := alike
  obtain ⟨locator, login, options, connection, made⟩ := one
  cases connection with
  | none => exact .ended ⟨epoch, rfl⟩
  | some connection =>
    apply Matching.common
    intro _ middle
    exact .ended ⟨epoch, rfl⟩

theorem invalidate_alike (scene : Scene σ) (alike : one.Alike other) (state : σ) :
    Matching Alike ((one.invalidate scene.surroundings).play state)
      ((other.invalidate scene.surroundings).play state) := by
  apply (close_alike scene alike state).bind
  rintro closed last middle ⟨epoch, rfl⟩
  exact .ended ⟨epoch, rfl⟩

end Link

namespace Session

/-- Sessions of one cluster that would use links alike, be they made already or not. -/
inductive Alike (scene : Scene σ) : Session Nat → Session Nat → Prop where
  | refl (session : Session Nat) : Alike scene session session
  | linked {one : Session Nat} {link other : Link Nat} {owner : Option (Link Nat)}
    (built : one.linkOf scene.surroundings = .ok link)
    (same : linkOf scene.surroundings { one with link := owner } = .ok other)
    (alike : link.Alike other) : Alike scene one { one with link := owner }

variable {scene : Scene σ}

theorem Alike.of_links {link other : Link Nat} (session : Session Nat) (alike : link.Alike other) :
    Alike scene { session with link := some link } { session with link := some other } :=
  .linked rfl rfl alike

theorem Alike.home {one other : Session Nat} (alike : Alike scene one other) :
    other = { one with link := other.link } := by
  cases alike <;> rfl

theorem invalidate_alike (session : Session Nat) {link other : Link Nat} (alike : link.Alike other)
    (state : σ) :
    Matching (Alike scene)
      ((invalidate scene.surroundings { session with link := some link }).play state)
      ((invalidate scene.surroundings { session with link := some other }).play state) := by
  apply (Link.invalidate_alike scene alike state).bind
  intro left right middle alike
  exact .ended (.of_links session alike)

theorem discard_alike (session : Session Nat) {link other : Link Nat} (alike : link.Alike other)
    (state : σ) :
    Matching (Alike scene)
      ((discard scene.surroundings { session with link := some link }).play state)
      ((discard scene.surroundings { session with link := some other }).play state) := by
  apply (Link.close_alike scene alike state).bind
  intro left right middle alike
  exact .ended (.refl { session with link := none })

theorem withoutConnection_alike (call : PendingCall) (session : Session Nat)
    {link other : Link Nat} (alike : link.Alike other) (failure : LinkFailure) (state : σ) :
    Matching (Agreeing (Alike scene))
      ((withoutConnection scene.surroundings call { session with link := some link } failure).play
        state)
      ((withoutConnection scene.surroundings call { session with link := some other } failure).play
        state) := by
  have final : ∀ reason : LinkFailure, Matching (Agreeing (Alike scene))
      (Run.play (do
        let after ← discard scene.surroundings { session with link := some link }
        pure (Attempt.finished (.error (.unreachable call.method after.cluster.name reason)),
          after)) state)
      (Run.play (do
        let after ← discard scene.surroundings { session with link := some other }
        pure (Attempt.finished (.error (.unreachable call.method after.cluster.name reason)),
          after))
        state) := by
    intro reason
    apply (discard_alike session alike state).bind
    intro left right middle alike
    have cluster : right.cluster = left.cluster := by rw [alike.home]
    exact .ended ⟨by rw [cluster], alike⟩
  cases failure with
  | interrupted uri => exact .ended ⟨rfl, .of_links session alike⟩
  | connectTimeout uri attempts reason =>
    apply (invalidate_alike session alike state).bind
    intro left right middle alike
    exact .ended ⟨rfl, alike⟩
  | configuration detail => exact final _
  | noScheduler cluster waited => exact final _
  | discovery cluster failure => exact final _
  | notConnected uri reason => exact final _

theorem withResult_alike (call : PendingCall) (session : Session Nat) {link other : Link Nat}
    (alike : link.Alike other) (advice : String) (result : Except CallFailure Response)
    (state : σ) :
    Matching (Agreeing (Alike scene))
      ((withResult scene.surroundings call { session with link := some link } advice result).play
        state)
      ((withResult scene.surroundings call { session with link := some other } advice result).play
        state) := by
  have final : ∀ attempt : Attempt, Matching (Agreeing (Alike scene))
      (Run.play (do
        let after ← invalidate scene.surroundings { session with link := some link }
        pure (attempt, after)) state)
      (Run.play (do
        let after ← invalidate scene.surroundings { session with link := some other }
        pure (attempt, after)) state) := by
    intro attempt
    apply (invalidate_alike session alike state).bind
    intro left right middle alike
    exact .ended ⟨rfl, alike⟩
  unfold withResult
  cases Outcome.ofResult result call.repeatable with
  | success response => exact .ended ⟨rfl, .of_links session alike⟩
  | transient reason => exact final _
  | refused reason => exact final _
  | permanent failure =>
    cases failure with
    | channel failure => exact final _
    | protocol fault => exact final _
    | application kind detail => exact final _

theorem attempt_alike (fuel : Nat) (call : PendingCall) {one other : Session Nat}
    (alike : Alike scene one other) (state : σ) :
    Matching (Agreeing (Alike scene)) ((one.attempt scene.surroundings fuel call).play state)
      ((other.attempt scene.surroundings fuel call).play state) := by
  cases alike with
  | refl => exact .refl (fun value => ⟨rfl, .refl value.2⟩) _
  | linked built same alike =>
    unfold attempt
    rw [built, same]
    apply (Link.connect_alike scene fuel (some call.deadline) alike state).bind
    rintro ⟨connected, link⟩ ⟨_, other⟩ middle ⟨rfl, alike⟩
    cases connected with
    | error failure => exact withoutConnection_alike call one alike failure middle
    | ok connection =>
      apply (Link.send_alike scene connection call.method call.arguments alike middle).bind
      rintro ⟨result, link⟩ ⟨_, other⟩ last ⟨rfl, epoch, rfl⟩
      exact withResult_alike call one ⟨epoch, rfl⟩ link.login.advice result last

theorem attempts_alike (call : PendingCall) (fuel made : Nat) (lastError : String)
    {one other : Session Nat} (alike : Alike scene one other) (state : σ) :
    Matching (Agreeing (Alike scene))
      ((one.attempts scene.surroundings call fuel made lastError).play state)
      ((other.attempts scene.surroundings call fuel made lastError).play state) := by
  induction fuel generalizing made lastError one other state with
  | zero => exact .halted
  | succ fuel ih =>
    -- Until the attempt nothing is read that a link could change.
    have cluster : other.cluster = one.cluster := by rw [alike.home]
    have attempt := attempt_alike fuel call alike state
    rw [attempts_play, attempts_play, cluster]
    by_cases stopping : scene.stopping state = true
    · rw [if_pos stopping, if_pos stopping]
      exact .ended ⟨rfl, alike⟩
    rw [if_neg stopping, if_neg stopping]
    by_cases late : (0 < made && call.deadline.isExpired (scene.clock state)) = true
    · rw [if_pos late, if_pos late]
      exact .ended ⟨rfl, alike⟩
    rw [if_neg late, if_neg late]
    generalize (one.attempt scene.surroundings fuel call).play state = first at attempt ⊢
    generalize (other.attempt scene.surroundings fuel call).play state = second at attempt ⊢
    cases attempt with
    | halted => exact .halted
    | @ended left right middle agrees =>
      obtain ⟨attempt, after⟩ := left
      obtain ⟨_, same⟩ := right
      obtain ⟨rfl, alike⟩ := agrees
      cases attempt with
      | finished result => exact .ended ⟨rfl, alike⟩
      | interrupted => exact ih (made + 1) lastError alike middle
      | transient reason =>
        have home : same = { after with link := same.link } := alike.home
        have policy : same.policy = after.policy := by rw [home]
        have rested : same.rested scene call (made + 1) middle =
            after.rested scene call (made + 1) middle := by
          simp only [Session.rested, policy]
        simp only [rested]
        exact ih (made + 1) reason alike _

theorem invoke_alike (fuel : Nat) (request : Request) (repeatable : Bool) {one other : Session Nat}
    (alike : Alike scene one other) (state : σ) :
    Matching (Agreeing (Alike scene))
      ((one.invoke scene.surroundings fuel request repeatable).play state)
      ((other.invoke scene.surroundings fuel request repeatable).play state) := by
  have policy : other.policy = one.policy := by rw [alike.home]
  rw [invoke_play, invoke_play, policy]
  cases request.method.signature.fit request.arguments with
  | error error => exact .ended ⟨rfl, alike⟩
  | ok arguments =>
    cases Deadline.after? (scene.clock state) one.policy.longestWait with
    | none => exact .halted
    | some deadline => exact attempts_alike _ fuel 0 "" alike state

end Session

end SchedulerLink
