import SchedulerLink.Proofs.Ending
import SchedulerLink.Proofs.Reopening

/-!
Deadlines that are capped by a budget.

The deadline a budget from now is computed before it is compared. So a budget at whose end there is
no instant halts even where the deadline comes first, and a call that may connect for so long never
creates a channel. With every other budget capping yields the earlier of the two.
-/

namespace SchedulerLink

variable {σ : Type} {scene : Scene σ}

/-! What halts a call. -/

/-- Whether a search or a call of a channel halted because a deadline lies too far ahead. -/
def Entry.isOverflow : Entry → Bool
  | .lookedUp _ _ (.error .overflow) => true
  | .called _ _ _ _ (.error .overflow) => true
  | _ => false

/-- Something that was done halted because a deadline lies too far ahead. -/
def Log.Overflows (log : Log) : Prop := ∃ entry ∈ log, entry.isOverflow = true

instance (log : Log) : Decidable log.Overflows :=
  inferInstanceAs (Decidable (∃ entry ∈ log, entry.isOverflow = true))

theorem Log.Overflows.append_right {log : Log} (overflows : log.Overflows) (before : Log) :
    Log.Overflows (before ++ log) := by
  obtain ⟨entry, member, overflows⟩ := overflows
  exact ⟨entry, List.mem_append_right _ member, overflows⟩

theorem Opening.not_overflow {options : LinkOptions} {uri : String} {limit : Option Deadline}
    {channel failed : Nat} {state stop : σ} {done : Log}
    {outcome : Except Halt (Except LinkFailure Unit)}
    (opening : Opening scene options uri limit channel failed state done outcome stop) :
    outcome ≠ .error .overflow := by
  induction opening with
  | again _ _ _ ih => exact ih
  | _ => exact nofun

theorem Locating.overflows {state stop : σ} {locator : Locator} {done : Log}
    (locating : Locating scene state locator done (.error .overflow) stop) : done.Overflows := by
  cases locating with
  | halted _ _ => exact ⟨_, List.mem_singleton_self _, rfl⟩

section Near

variable {session : Session Nat} {state stop : σ} {done : Log}

theorem Connecting.overflows {link : Link Nat} {deadline : Deadline}
    (connecting : Connecting scene (some deadline) link state done (.error .overflow) stop) :
    done.Overflows ∨ scene.TooFar link.options.connectWait stop := by
  generalize halts : (.error .overflow : Except Halt _) = outcome at connecting
  cases connecting with
  | held _ => cases halts
  | unlocated _ _ => cases halts
  | halted _ locating =>
    cases halts
    exact .inl locating.overflows
  | reached _ _ reaching =>
    subst halts
    cases reaching with
    | overflow _ tooFar => exact .inr (Link.window?_eq_none.mp tooFar)
    | halted _ _ _ opening => exact absurd rfl opening.not_overflow

theorem Attempting.overflows {call : PendingCall}
    (attempting : Attempting scene call session state done (.error .overflow) stop) :
    done.Overflows ∨ scene.TooFar session.linkOptions.connectWait stop := by
  cases attempting with
  | halted built connecting =>
    rw [← Session.options_of_linkOf built]
    exact connecting.overflows
  | callHalted _ _ _ =>
    exact .inl ⟨_, List.mem_append_right _ (List.mem_singleton_self _), rfl⟩

theorem Course.overflows {call : PendingCall} {made : Nat} {lastError : String}
    (course : Course scene call made lastError session state done (.error .overflow) stop) :
    done.Overflows ∨ scene.TooFar session.linkOptions.connectWait stop := by
  generalize halts : (.error .overflow : Except Halt _) = outcome at course
  induction course with
  | unfinished => cases halts
  | terminated _ => cases halts
  | timedOut _ _ _ => cases halts
  | finished _ _ _ => cases halts
  | halted _ _ attempting =>
    cases halts
    exact attempting.overflows
  | interrupted _ _ attempting _ ih =>
    rw [← attempting.linkOptions rfl]
    exact (ih halts).imp_left (·.append_right _)
  | paused _ _ attempting _ _ ih =>
    rw [← attempting.linkOptions rfl]
    exact (ih halts).imp_left fun overflows => (overflows.append_right [_]).append_right _
  | spent _ _ attempting _ _ ih =>
    rw [← attempting.linkOptions rfl]
    exact (ih halts).imp_left (·.append_right _)

theorem Invoking.overflows {request : Request} {repeatable : Bool}
    (inReach : Deadline.InReach (scene.clock state) session.policy.longestWait)
    (invoking : Invoking scene session request repeatable state done (.error .overflow) stop) :
    done.Overflows ∨ scene.TooFar session.linkOptions.connectWait stop := by
  cases invoking with
  | overflow _ tooFar => exact absurd inReach (Deadline.after?_eq_none.mp tooFar)
  | course _ _ course => exact course.overflows

end Near

/-! What a wait that is too long puts an end to. -/

theorem Releasing.creations_eq {state stop : σ} {connection : Option (Connection Nat)} {done : Log}
    (releasing : Releasing scene state connection done stop) : done.creations = [] := by
  cases releasing <;> rfl

/-- What is too far ahead once stays so, since time does not go back. -/
theorem Scene.TooFar.later {wait : Duration} {state stop : σ} {done : Log}
    (far : scene.TooFar wait state) (passes : scene.Passes state done stop) :
    scene.TooFar wait stop := by
  intro near
  have before : scene.clock state ≤ scene.clock stop := by
    rw [passes.clock]
    exact Nat.le_add_right _ _
  exact far (near.mono before (Nat.le_refl _))

section Far

variable {session : Session Nat} {state stop : σ} {done : Log}

theorem Connecting.creations_of_far {link : Link Nat} {deadline : Deadline}
    {outcome : Except Halt (Except LinkFailure (Connection Nat) × Link Nat)}
    (far : scene.TooFar link.options.connectWait state)
    (connecting : Connecting scene (some deadline) link state done outcome stop) :
    done.creations = [] := by
  cases connecting with
  | held _ => rfl
  | halted _ locating => exact locating.idle.creations
  | unlocated _ locating => exact locating.idle.creations
  | @reached _ _ _ locator middle _ _ _ locating reaching =>
    rw [Log.creations_append, locating.idle.creations, List.nil_append]
    have tooFar : Link.window? { link with locator, connection := none } (scene.clock middle)
        (some deadline) = none := Link.window?_eq_none.mpr (far.later locating.passes)
    cases reaching with
    | misaddressed _ => rfl
    | overflow _ _ => rfl
    | halted _ inTime _ _ => cases tooFar.symm.trans inTime
    | unopened _ inTime _ _ => cases tooFar.symm.trans inTime
    | connected _ inTime _ _ => cases tooFar.symm.trans inTime

theorem Attempting.creations_of_far {call : PendingCall}
    {outcome : Except Halt (Attempt × Session Nat)}
    (far : scene.TooFar session.linkOptions.connectWait state)
    (attempting : Attempting scene call session state done outcome stop) :
    done.creations = [] := by
  cases attempting with
  | unbuilt _ => rfl
  | halted built connecting | interrupted built connecting | tooLate built connecting
  | unreachable built _ connecting =>
    rw [← Session.options_of_linkOf built] at far
    exact connecting.creations_of_far far
  | callHalted built connecting _ | answered built connecting _ _ =>
    rw [← Session.options_of_linkOf built] at far
    rw [Log.creations_append, connecting.creations_of_far far]
    rfl
  | failed built connecting _ _ releasing =>
    rw [← Session.options_of_linkOf built] at far
    rw [Log.creations_append, connecting.creations_of_far far]
    exact releasing.creations_eq

theorem Course.creations_of_far {call : PendingCall} {made : Nat} {lastError : String}
    {outcome : Except Halt (Except SessionFailure Response × Session Nat)}
    (far : scene.TooFar session.linkOptions.connectWait state)
    (course : Course scene call made lastError session state done outcome stop) :
    done.creations = [] := by
  induction course with
  | unfinished => rfl
  | terminated _ => rfl
  | timedOut _ _ _ => rfl
  | finished _ _ attempting => exact attempting.creations_of_far far
  | halted _ _ attempting => exact attempting.creations_of_far far
  | interrupted _ _ attempting _ ih =>
    have none := attempting.creations_of_far far
    rw [← attempting.linkOptions rfl] at far
    rw [Log.creations_append, none, ih (far.later attempting.passes)]
    rfl
  | @paused _ _ _ _ _ _ middle _ _ _ pause _ _ _ attempting _ _ ih =>
    have none := attempting.creations_of_far far
    rw [← attempting.linkOptions rfl] at far
    have rested := (far.later attempting.passes).later (scene.pause_passes pause middle)
    rw [Log.creations_append, none]
    exact ih rested
  | spent _ _ attempting _ _ ih =>
    have none := attempting.creations_of_far far
    rw [← attempting.linkOptions rfl] at far
    rw [Log.creations_append, none, ih (far.later attempting.passes)]
    rfl

theorem Invoking.creations_of_far {request : Request} {repeatable : Bool}
    {outcome : Except Halt (Except SessionFailure Response × Session Nat)}
    (far : scene.TooFar session.linkOptions.connectWait state)
    (invoking : Invoking scene session request repeatable state done outcome stop) :
    done.creations = [] := by
  cases invoking with
  | misfit _ => rfl
  | overflow _ _ => rfl
  | course _ _ course => exact course.creations_of_far far

/-- A call that has to connect first halts before it creates a channel. -/
theorem Session.invoke_far {link : Link Nat} {uri : String} {request : Request}
    {arguments : List Json} (far : scene.TooFar session.linkOptions.connectWait state)
    (inReach : Deadline.InReach (scene.clock state) session.policy.longestWait)
    (fits : request.method.signature.fit request.arguments = .ok arguments)
    (running : scene.stopping state = false)
    (built : session.linkOf scene.surroundings = .ok link) (heads : link.Heads scene uri state)
    (fuel : Nat) (repeatable : Bool) :
    (scene.perform (session.invoke scene.surroundings (fuel + 1) request repeatable)
      state).outcome = .error .overflow := by
  rw [← options_of_linkOf built] at far
  have inTime : Deadline.after? (scene.clock state) session.policy.longestWait =
      some ⟨scene.clock state + session.policy.longestWait⟩ :=
    Deadline.after?_eq_some.mpr ⟨inReach, rfl⟩
  have limited : some (Deadline.mk (scene.clock state + session.policy.longestWait)) ≠ none := nofun
  have halts := (Link.connect_far heads fuel limited far).1
  simp only [Scene.perform, invoke_play, fits, inTime, attempts_play, running,
    Bool.false_eq_true, ↓reduceIte, Nat.lt_irrefl, decide_false, Bool.false_and, attempt, built,
    Run.play_bind] at halts ⊢
  rcases connects : (link.connect scene.surroundings fuel
    (some ⟨scene.clock state + session.policy.longestWait⟩)).play state with ⟨halt | value, stop⟩
  · rw [connects] at halts
    cases halts
    rfl
  · rw [connects] at halts
    cases halts

end Far

/-- Capping a deadline yields the earlier of the deadline and the end of the budget exactly if there
is an instant at that end. A call whose own deadline there is halts for a deadline only if a search
or a channel does, or where no instant lies as far ahead as it may connect. Where none does when the
call begins, it creates no channel, and halts if it has to connect. -/
theorem capping_halts_beyond_the_clock (scene : Scene σ) (fuel : Nat) (session : Session Nat)
    (request : Request) (repeatable : Bool) (state : σ)
    (inReach : Deadline.InReach (scene.clock state) session.policy.longestWait) :
    let wait := session.linkOptions.connectWait
    let performed :=
      scene.perform (session.invoke scene.surroundings fuel request repeatable) state
    (∀ (deadline limit : Deadline) (now budget : Duration),
      deadline.capped? now budget = some limit ↔
        (now + budget).seconds ≤ Deadline.secondsLimit ∧
          limit = ⟨min deadline.expiry (now + budget)⟩) ∧
    (performed.outcome = .error .overflow → ¬ performed.done.Overflows →
      ¬ Deadline.InReach (scene.clock performed.stop) wait) ∧
    (¬ Deadline.InReach (scene.clock state) wait →
      performed.done.creations = [] ∧
      ∀ arguments link uri, request.method.signature.fit request.arguments = .ok arguments →
        scene.stopping state = false → session.linkOf scene.surroundings = .ok link →
        link.Heads scene uri state → 0 < fuel → performed.outcome = .error .overflow) := by
  intro wait performed
  have invoking : Invoking scene session request repeatable state performed.done performed.outcome
      performed.stop := .of_invoke scene fuel session request repeatable state
  refine ⟨fun _ _ _ _ => Deadline.capped?_eq_some, fun halts others => ?_,
    fun far => ⟨invoking.creations_of_far far, ?_⟩⟩
  · rw [halts] at invoking
    exact (invoking.overflows inReach).resolve_left others
  · intro arguments link uri fits running built heads allowed
    obtain ⟨less, rfl⟩ := Nat.exists_eq_succ_of_ne_zero (Nat.ne_of_gt allowed)
    exact Session.invoke_far far inReach fits running built heads less repeatable

def Session.connectingFor (wait : Duration) : Session Nat :=
  { hasty with options := { connectWait := wait } }

theorem call_connecting_for_ever_halts :
    let scene := Script.refusing.scene
    let performed wait := scene.perform ((Session.connectingFor wait).invoke scene.surroundings 9
      ⟨.getTierConfigs, []⟩ false) []
    (performed (.ofSeconds 60)).outcome ≠ .error .overflow ∧
      (performed .longest).done.creations = [] ∧
      (performed .longest).outcome = .error .overflow := by
  intro scene performed
  have built : (Session.connectingFor .longest).linkOf scene.surroundings =
      .ok (Link.eager .longest) := rfl
  have others : ¬ (performed (.ofSeconds 60)).done.Overflows := by
    decide +kernel
  have near : Deadline.InReach (scene.clock (performed (.ofSeconds 60)).stop) (.ofSeconds 60) := by
    decide +kernel
  obtain ⟨-, only, -⟩ := capping_halts_beyond_the_clock scene 9 (.connectingFor (.ofSeconds 60))
    ⟨.getTierConfigs, []⟩ false [] (by decide +kernel)
  obtain ⟨-, -, far⟩ := capping_halts_beyond_the_clock scene 9 (.connectingFor .longest)
    ⟨.getTierConfigs, []⟩ false [] (by decide +kernel)
  obtain ⟨none, halts⟩ := far (by decide +kernel)
  exact ⟨fun halted => only halted others near, none,
    halts [] _ _ rfl rfl built (Link.eager_heads .longest) (by decide)⟩

/-- A deadline in ten seconds comes before the end of the longest span, and yet it cannot be capped
by that span, and a call that has four seconds halts for it. -/
theorem longest_cap_halts :
    let scene := Script.refusing.scene
    Deadline.after? .zero (.ofSeconds 10) = some ⟨.ofSeconds 10⟩ ∧
      min (.ofSeconds 10) (.zero + .longest) = Duration.ofSeconds 10 ∧
      Deadline.capped? ⟨.ofSeconds 10⟩ .zero .longest ≠ some ⟨.ofSeconds 10⟩ ∧
      (Deadline.after? .zero Session.hasty.policy.longestWait).isSome ∧
      (scene.perform ((Session.connectingFor .longest).invoke scene.surroundings 9
        ⟨.getTierConfigs, []⟩ false) []).outcome = .error .overflow := by
  intro scene
  have far : scene.TooFar (Session.connectingFor .longest).linkOptions.connectWait [] := by
    unfold Scene.TooFar
    decide +kernel
  have halts : (scene.perform ((Session.connectingFor .longest).invoke scene.surroundings 9
      ⟨.getTierConfigs, []⟩ false) []).outcome = .error .overflow :=
    Session.invoke_far far (by decide +kernel) rfl rfl rfl (Link.eager_heads .longest) 8 false
  exact ⟨by decide +kernel, by decide +kernel, by decide +kernel, by decide +kernel, halts⟩

end SchedulerLink
