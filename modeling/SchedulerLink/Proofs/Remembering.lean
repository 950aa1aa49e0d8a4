import SchedulerLink.Proofs.Destination

/-!
The locator of a registry remembers the leader.

What a locator tells depends on what was told since it was made to forget last. As long as the
registry has named nobody since then it is asked each time, and from then on it is left alone. A
failure is never remembered.
-/

namespace SchedulerLink

inductive LocatorDeed where
  | rawUrl
  | url
  | forget
  deriving DecidableEq

namespace LocatorDeed

def asksLeader (proxyUrl : Option String) : LocatorDeed → Bool
  | .rawUrl => true
  | .url => proxyUrl.isNone
  | .forget => false

def run {m : Type → Type} [Monad m] {Channel : Type} (surroundings : Surroundings m Channel)
    (locator : RegistryLocator) :
    LocatorDeed → Run m (Option (Except LinkFailure String) × RegistryLocator)
  | .rawUrl => do
    let (result, locator) ← locator.rawUrl surroundings
    pure (some result, locator)
  | .url => do
    let (result, locator) ← locator.url surroundings
    pure (some result, locator)
  | .forget => pure (none, locator.forget)

end LocatorDeed

structure Consultation where
  deed : LocatorDeed
  told : Option (Except LinkFailure String)
  done : Log

namespace Consultation

def sinceForget (events : List Consultation) : List Consultation :=
  events.reverse.takeWhile (·.deed ≠ .forget)

@[simp] theorem sinceForget_nil : sinceForget [] = [] := rfl

theorem sinceForget_append (events : List Consultation) (event : Consultation) :
    sinceForget (events ++ [event]) =
      if event.deed = .forget then [] else event :: sinceForget events := by
  rw [sinceForget, List.reverse_append, List.reverse_singleton, List.singleton_append,
    List.takeWhile_cons]
  split <;> simp_all [sinceForget]

end Consultation

/-- Where a member is reached: at its `https` endpoint, else at its `http` endpoint, else at its main
one. -/
inductive Member.Serves (member : Member) : String → Prop where
  | secure {endpoint : Endpoint} (https : member.additional.lookup "https" = some endpoint) :
    Serves member s!"https://{endpoint.host}:{endpoint.port}"
  | plain {endpoint : Endpoint} (insecure : member.additional.lookup "https" = none)
    (http : member.additional.lookup "http" = some endpoint) :
    Serves member s!"http://{endpoint.host}:{endpoint.port}"
  | main (insecure : member.additional.lookup "https" = none)
    (nameless : member.additional.lookup "http" = none) :
    Serves member s!"http://{member.endpoint.host}:{member.endpoint.port}"

theorem Member.serves_url (member : Member) : member.Serves member.url := by
  unfold url
  cases https : member.additional.lookup "https" with
  | some endpoint => exact .secure https
  | none =>
    cases http : member.additional.lookup "http" with
    | some endpoint => exact .plain https http
    | none => exact .main https http

namespace RegistryLocator

/-- What is told of an answer of the registry. -/
inductive Tells (locator : RegistryLocator) :
    Except DiscoveryFailure (List Member) → Except LinkFailure String → Prop where
  | leader {first : Member} {others : List Member} {url : String} (serves : first.Serves url) :
    Tells locator (.ok (first :: others)) (.ok url)
  | nobody : Tells locator (.ok []) (.error (.noScheduler locator.target.cluster locator.patience))
  | tooLate {path : String} {waited : Duration} :
    Tells locator (.error (.timeout path waited))
      (.error (.noScheduler locator.target.cluster locator.patience))
  | malformed {detail : String} :
    Tells locator (.error (.malformed detail))
      (.error (.discovery locator.target.cluster (.malformed detail)))
  | unavailable {detail : String} :
    Tells locator (.error (.unavailable detail))
      (.error (.discovery locator.target.cluster (.unavailable detail)))

theorem tells_leader (locator : RegistryLocator) (answer : Except DiscoveryFailure (List Member)) :
    locator.Tells answer (locator.leader answer) := by
  rcases answer with (⟨path, waited⟩ | ⟨detail⟩ | ⟨detail⟩) | _ | ⟨first, others⟩
  · exact .tooLate
  · exact .malformed
  · exact .unavailable
  · exact .nobody
  · exact .leader first.serves_url

end RegistryLocator

/-- What comes of a deed with a locator that was new as `new`, by what was done since it was made to
forget last. -/
inductive Consultation.Fits (new : RegistryLocator) (recent : List Consultation) :
    Consultation → Prop where
  | forgotten : Fits new recent ⟨.forget, none, []⟩
  | proxied {proxy : String} (given : new.proxyUrl = some proxy) :
    Fits new recent ⟨.url, some (.ok proxy), []⟩
  | remembered {deed : LocatorDeed} {url : String} (asks : deed.asksLeader new.proxyUrl = true)
    (named : ∃ earlier ∈ recent, earlier.done.leader? = some url) :
    Fits new recent ⟨deed, some (.ok url), []⟩
  | searched {deed : LocatorDeed} {answer : Except DiscoveryFailure (List Member)}
    {result : Except LinkFailure String} (asks : deed.asksLeader new.proxyUrl = true)
    (unknown : ∀ earlier ∈ recent, earlier.done.leader? = none) (tells : new.Tells answer result) :
    Fits new recent
      ⟨deed, some result, [.lookedUp new.target.path new.patience (.ok answer)]⟩

section History

variable {σ : Type}

/-- What a new locator can come to on a scene, and how. Between two deeds anything may become of the
surroundings, so each begins in a state of its own. -/
inductive RegistryLocator.History (scene : Scene σ) (new : RegistryLocator) :
    List Consultation → RegistryLocator → Prop where
  | made (unknown : new.found = none) : History scene new [] new
  | did {events : List Consultation} {locator after : RegistryLocator}
    {told : Option (Except LinkFailure String)} {state : σ} (deed : LocatorDeed)
    (history : History scene new events locator)
    (ends : (scene.perform (deed.run scene.surroundings locator) state).outcome =
      .ok (told, after)) :
    History scene new
      (events ++ [⟨deed, told, (scene.perform (deed.run scene.surroundings locator) state).done⟩])
      after

variable {scene : Scene σ} {new locator : RegistryLocator} {events : List Consultation}

/-- A locator that knows what the registry has named since it was made to forget last. -/
structure RegistryLocator.Remembers (new : RegistryLocator) (events : List Consultation)
    (locator : RegistryLocator) : Prop where
  frame : locator = { new with found := locator.found }
  found (url : String) : locator.found = some url ↔
    ∃ earlier ∈ Consultation.sinceForget events, earlier.done.leader? = some url

/-! One deed. -/

namespace RegistryLocator

theorem rawUrl_of_found {url : String} (known : locator.found = some url) :
    locator.rawUrl scene.surroundings = pure (.ok url, locator) := by
  simp only [rawUrl, known]

theorem rawUrl_of_unknown (unknown : locator.found = none) :
    locator.rawUrl scene.surroundings =
      (do
        let answer ← scene.surroundings.lookup locator.target locator.patience
        pure (locator.leader answer,
          { locator with found := (locator.leader answer).toOption })) := by
  simp only [rawUrl, unknown]
  congr 1
  funext answer
  cases locator.leader answer with
  | ok url => rfl
  | error failure => rw [Except.toOption, ← unknown]

theorem toOption_leader (locator : RegistryLocator) (path : String) (patience : Duration)
    (answer : Except DiscoveryFailure (List Member)) :
    (locator.leader answer).toOption = Log.leader? [.lookedUp path patience (.ok answer)] := by
  rcases answer with (⟨_, _⟩ | ⟨_⟩ | ⟨_⟩) | _ | ⟨first, others⟩ <;> rfl

end RegistryLocator

theorem LocatorDeed.run_of_asks {deed : LocatorDeed}
    (asks : deed.asksLeader locator.proxyUrl = true) :
    deed.run scene.surroundings locator =
      (do
        let (result, after) ← locator.rawUrl scene.surroundings
        pure (some result, after)) := by
  cases deed with
  | rawUrl => rfl
  | url =>
    have direct : locator.proxyUrl = none := Option.isNone_iff_eq_none.mp asks
    simp only [run, RegistryLocator.url, direct]
  | forget => cases asks

theorem LocatorDeed.performs {deed : LocatorDeed} {told : Option (Except LinkFailure String)}
    {after : RegistryLocator} {state : σ}
    (ends : (scene.perform (deed.run scene.surroundings locator) state).outcome =
      .ok (told, after))
    (asks : deed.asksLeader locator.proxyUrl = true) :
    let done := (scene.perform (deed.run scene.surroundings locator) state).done
    (∃ url, locator.found = some url ∧ told = some (.ok url) ∧ after = locator ∧ done = []) ∨
    ∃ answer, locator.found = none ∧ told = some (locator.leader answer) ∧
      after = { locator with found := (locator.leader answer).toOption } ∧
      done = [.lookedUp locator.target.path locator.patience (.ok answer)] := by
  rw [deed.run_of_asks asks] at ends ⊢
  cases known : locator.found with
  | some url =>
    rw [RegistryLocator.rawUrl_of_found known] at ends ⊢
    cases ends
    exact .inl ⟨url, rfl, rfl, rfl, scene.perform_pure_done _ state⟩
  | none =>
    rw [scene.perform_view_done, RegistryLocator.rawUrl_of_unknown known, scene.perform_view_done]
    rw [Scene.perform, RegistryLocator.rawUrl_of_unknown known, Run.play_view, Run.play_view] at ends
    rcases asked : (scene.surroundings.lookup locator.target locator.patience).play state with
      ⟨halt | answer, stop⟩
    all_goals
      rw [asked] at ends
      cases ends
    refine .inr ⟨answer, rfl, rfl, rfl, Scene.perform_done ?_⟩
    rw [Scene.perform, asked]
    exact Scene.lookup_passes asked

namespace RegistryLocator.Remembers

theorem next {after : RegistryLocator} {event : Consultation}
    (remembers : new.Remembers events locator) (kept : event.deed ≠ .forget)
    (frame : after = { new with found := after.found })
    (found : ∀ url, after.found = some url ↔
      event.done.leader? = some url ∨ locator.found = some url) :
    new.Remembers (events ++ [event]) after := by
  refine ⟨frame, fun url => ?_⟩
  rw [found, Consultation.sinceForget_append, if_neg kept, remembers.found]
  simp only [List.mem_cons, exists_eq_or_imp]

theorem next_idle {event : Consultation} (remembers : new.Remembers events locator)
    (kept : event.deed ≠ .forget) (idle : event.done = []) :
    new.Remembers (events ++ [event]) locator := by
  refine remembers.next kept remembers.frame fun url => ?_
  rw [idle]
  exact (or_iff_right (Option.some_ne_none url).symm).symm

theorem unknown (remembers : new.Remembers events locator) (none : locator.found = none) :
    ∀ earlier ∈ Consultation.sinceForget events, earlier.done.leader? = .none := by
  intro earlier member
  refine Option.eq_none_iff_forall_ne_some.mpr fun url named => ?_
  have found := (remembers.found url).mpr ⟨earlier, member, named⟩
  cases none.symm.trans found

end RegistryLocator.Remembers

theorem LocatorDeed.remembers {deed : LocatorDeed} {told : Option (Except LinkFailure String)}
    {after : RegistryLocator} {state : σ} (remembers : new.Remembers events locator)
    (ends : (scene.perform (deed.run scene.surroundings locator) state).outcome =
      .ok (told, after)) :
    let event : Consultation :=
      ⟨deed, told, (scene.perform (deed.run scene.surroundings locator) state).done⟩
    event.Fits new (Consultation.sinceForget events) ∧ new.Remembers (events ++ [event]) after := by
  obtain ⟨found, rfl⟩ : ∃ found, locator = { new with found } := ⟨_, remembers.frame⟩
  by_cases asks : deed.asksLeader new.proxyUrl = true
  · have kept : deed ≠ .forget := by
      rintro rfl
      cases asks
    rcases performs ends asks with ⟨url, known, rfl, rfl, done⟩ | ⟨answer, unknown, rfl, rfl, done⟩
    all_goals rw [done]
    · exact ⟨.remembered asks ((remembers.found url).mp known), remembers.next_idle kept rfl⟩
    · refine ⟨.searched asks (remembers.unknown unknown) (new.tells_leader answer),
        remembers.next kept rfl fun other => ?_⟩
      rw [unknown, ← RegistryLocator.toOption_leader new]
      exact (or_iff_left (Option.some_ne_none other).symm).symm
  · cases deed with
    | rawUrl => exact absurd rfl asks
    | url =>
      obtain ⟨proxy, given⟩ := Option.ne_none_iff_exists'.mp (mt Option.isNone_iff_eq_none.mpr asks)
      have runs : LocatorDeed.url.run scene.surroundings { new with found } =
          pure (some (.ok proxy), { new with found }) := by
        simp only [run, RegistryLocator.url, given]
        rfl
      rw [runs] at ends ⊢
      cases ends
      rw [scene.perform_pure_done]
      exact ⟨.proxied given, remembers.next_idle LocatorDeed.noConfusion rfl⟩
    | forget =>
      rw [run] at ends ⊢
      cases ends
      rw [scene.perform_pure_done]
      refine ⟨.forgotten, rfl, fun url => ?_⟩
      rw [Consultation.sinceForget_append, if_pos rfl]
      simp only [RegistryLocator.forget, List.not_mem_nil, false_and, exists_false, reduceCtorEq]

/-! Rows of deeds. -/

namespace RegistryLocator.History

variable {after : RegistryLocator} {before later : List Consultation} {event : Consultation}

theorem remembers (history : new.History scene events after) : new.Remembers events after := by
  induction history with
  | made unknown =>
    refine ⟨rfl, fun url => ?_⟩
    rw [unknown]
    simp only [Consultation.sinceForget_nil, List.not_mem_nil, false_and, exists_false, reduceCtorEq]
  | did deed _ ends ih => exact (deed.remembers ih ends).2

theorem fits (history : new.History scene events after) (part : events = before ++ event :: later) :
    (∃ locator, new.Remembers before locator) ∧ event.Fits new (Consultation.sinceForget before) := by
  induction history generalizing later with
  | made _ => cases before <;> cases part
  | @did _ locator _ _ _ deed history ends ih =>
    rcases later.eq_nil_or_concat with rfl | ⟨others, last, rfl⟩
    · obtain ⟨rfl, same⟩ := List.append_inj' part rfl
      cases same
      exact ⟨⟨locator, history.remembers⟩, (deed.remembers history.remembers ends).1⟩
    · rw [List.concat_eq_append, ← List.cons_append, ← List.append_assoc] at part
      exact ih (List.append_inj' part rfl).1

end RegistryLocator.History

namespace Consultation.Fits

variable {recent : List Consultation} {event : Consultation}

theorem of_asks (fits : event.Fits new recent)
    (asks : event.deed.asksLeader new.proxyUrl = true) :
    (∃ url, (∃ earlier ∈ recent, earlier.done.leader? = some url) ∧
      event.told = some (.ok url) ∧ event.done = []) ∨
    (∀ earlier ∈ recent, earlier.done.leader? = none) ∧ event.done ≠ [] := by
  cases fits with
  | forgotten => cases asks
  | proxied given =>
    rw [LocatorDeed.asksLeader, given] at asks
    cases asks
  | remembered _ named => exact .inl ⟨_, named, rfl, rfl⟩
  | searched _ unknown _ => exact .inr ⟨unknown, List.cons_ne_nil _ _⟩

theorem asks_of_done (fits : event.Fits new recent) (asked : event.done ≠ []) :
    event.deed.asksLeader new.proxyUrl = true ∧
      ∀ earlier ∈ recent, earlier.done.leader? = none := by
  cases fits with
  | searched asks unknown _ => exact ⟨asks, unknown⟩
  | forgotten => exact absurd rfl asked
  | proxied _ => exact absurd rfl asked
  | remembered _ _ => exact absurd rfl asked

end Consultation.Fits

/-- The locator of a registry remembers the leader. Whatever the registry answers, and whatever was
done with the locator before, each deed comes to what it should by what was done since the locator
was made to forget last. The registry is asked, once, exactly if the leader is asked for and none was
named since then. As soon as one was named, everybody who asks is told the same address, and the
registry is left alone. -/
theorem leader_is_remembered (scene : Scene σ) {new after : RegistryLocator}
    {events before later : List Consultation} {event : Consultation}
    (history : new.History scene events after) (part : events = before ++ event :: later) :
    let recent := Consultation.sinceForget before
    event.Fits new recent ∧
    (event.done ≠ [] ↔ event.deed.asksLeader new.proxyUrl = true ∧
      ∀ earlier ∈ recent, earlier.done.leader? = none) ∧
    ∀ earlier ∈ recent, ∀ url, earlier.done.leader? = some url →
      event.deed.asksLeader new.proxyUrl = true →
        event.told = some (.ok url) ∧ event.done = [] := by
  intro recent
  obtain ⟨⟨locator, remembers⟩, fits⟩ := history.fits part
  refine ⟨fits, ⟨fits.asks_of_done, ?_⟩, ?_⟩
  · rintro ⟨asks, unknown⟩
    rcases fits.of_asks asks with ⟨url, ⟨earlier, member, named⟩, -, -⟩ | ⟨-, asked⟩
    · cases (unknown earlier member).symm.trans named
    · exact asked
  · intro earlier member url named asks
    have known := (remembers.found url).mpr ⟨earlier, member, named⟩
    rcases fits.of_asks asks with ⟨other, others, told, done⟩ | ⟨unknown, -⟩
    · have same := known.symm.trans ((remembers.found other).mpr others)
      rw [Option.some.inj same]
      exact ⟨told, done⟩
    · cases (unknown earlier member).symm.trans named

end History

def RegistryLocator.unasked : RegistryLocator where
  target := ⟨"west", "registry", 2181, "/aurora/scheduler"⟩
  proxyUrl := none
  patience := .ofSeconds 10

def Stage.electing : Stage where
  registry := .queued [.ok [], .ok [{ endpoint := ⟨"old", 8081⟩ }]]
    (.ok [{ endpoint := ⟨"new", 8081⟩ }])

theorem elected_leader_is_kept :
    let scene := Stage.electing.scene fun _ => .ok .anonymous
    let vain := scene.perform (LocatorDeed.rawUrl.run scene.surroundings .unasked) Stage.electing
    let found := scene.perform (LocatorDeed.rawUrl.run scene.surroundings .unasked) vain.stop
    ∃ nobody after, vain.outcome = .ok (some (.error nobody), .unasked) ∧
      found.outcome = .ok (some (.ok "http://old:8081"), after) ∧
      let kept := scene.perform (LocatorDeed.url.run scene.surroundings after) found.stop
      ∃ told same, kept.outcome = .ok (told, same) ∧
        told = some (.ok "http://old:8081") ∧ kept.done = [] := by
  intro scene vain found
  have history₁ : RegistryLocator.unasked.History scene _ _ := .did .rawUrl (.made rfl)
    (rfl : vain.outcome = .ok (some (.error _), .unasked))
  have history₂ : RegistryLocator.unasked.History scene _ _ := .did .rawUrl history₁
    (rfl : found.outcome = .ok (some (.ok "http://old:8081"), _))
  refine ⟨_, _, rfl, rfl, ?_⟩
  intro kept
  have history₃ : RegistryLocator.unasked.History scene _ _ := .did .url history₂
    (rfl : kept.outcome = .ok (some (.ok "http://old:8081"), _))
  obtain ⟨-, -, keeps⟩ := leader_is_remembered scene history₃ rfl
  have known := keeps ⟨.rawUrl, some (.ok "http://old:8081"), found.done⟩ (.head _) _ rfl rfl
  exact ⟨_, _, rfl, known⟩

end SchedulerLink
