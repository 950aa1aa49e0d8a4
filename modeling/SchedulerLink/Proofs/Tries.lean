import SchedulerLink.Proofs.Budget

/-!
How opening a channel goes, by what comes of each attempt.

With a channel that answers `results 0`, `results 1` and so on, the time until each attempt, the
number of attempts and how they end are told without following the loop.
-/

namespace SchedulerLink

variable {σ α : Type} {scene : Scene σ}

/-! What is told without the loop. -/

namespace LinkOptions

def mostTries (options : LinkOptions) : Option Nat := options.connectAttempts.map (max 1)

def triesIn (options : LinkOptions) (window : Duration) : Nat :=
  (window.nanos + options.connectInterval.nanos - 1) / options.connectInterval.nanos + 1

/-- The time before an attempt that so many have preceded: the intervals between them, or the time
there is for connecting if that is less. -/
def waited (options : LinkOptions) (window : Option Duration) (failed : Nat) : Duration :=
  match window with
  | none => ⟨failed * options.connectInterval.nanos⟩
  | some window => ⟨min (failed * options.connectInterval.nanos) window.nanos⟩

variable {options : LinkOptions}

theorem mostTries_le (made : Nat) :
    options.connectAttempts.any (· ≤ made + 1) = true ↔
      ∃ most ∈ options.mostTries, most ≤ made + 1 := by
  unfold mostTries
  cases options.connectAttempts with
  | none => simp only [Option.any_none, Bool.false_eq_true, Option.map_none, Option.not_mem_none,
      false_and, exists_false]
  | some most =>
    simp only [Option.any_some, decide_eq_true_eq, Option.map_some, Option.mem_def,
      Option.some.injEq, exists_eq_left']
    omega

theorem pos_of_mostTries {most : Nat} (bound : most ∈ options.mostTries) : 0 < most := by
  obtain ⟨stated, -, rfl⟩ := Option.map_eq_some_iff.mp bound
  omega

theorem pos_of_triesIn {window : Option Duration} {most : Nat}
    (bound : most ∈ window.map options.triesIn) : 0 < most := by
  obtain ⟨span, -, rfl⟩ := Option.map_eq_some_iff.mp bound
  exact Nat.succ_pos _

theorem triesIn_le (steps : .zero < options.connectInterval) {window : Duration} {failed : Nat} :
    options.triesIn window ≤ failed + 1 ↔ window.nanos ≤ failed * options.connectInterval.nanos := by
  have positive : 0 < options.connectInterval.nanos := steps
  have quotient := Nat.div_lt_iff_lt_mul positive
    (x := window.nanos + options.connectInterval.nanos - 1) (y := failed + 1)
  rw [Nat.succ_mul] at quotient
  unfold triesIn
  omega

theorem waited_zero (window : Option Duration) : options.waited window 0 = .zero := by
  cases window with
  | none => exact congrArg Duration.mk (Nat.zero_mul _)
  | some window => exact congrArg Duration.mk (by rw [Nat.zero_mul, Nat.zero_min])

theorem waited_triesIn (steps : .zero < options.connectInterval) (window : Duration) :
    options.waited (some window) (options.triesIn window - 1) = window := by
  have full : window.nanos ≤ (options.triesIn window - 1) * options.connectInterval.nanos :=
    (triesIn_le steps).mp (Nat.le_succ_of_pred_le (Nat.le_refl _))
  exact congrArg Duration.mk (Nat.min_eq_right full)

end LinkOptions

namespace Connect

def Passing (results : Nat → Except ChannelFailure Unit) (k : Nat) : Prop :=
  ∃ failure, results k = .error failure ∧ failure.isNetwork = true

/-- How connecting ends with the attempt with the number `made`: because the channel is open, because
the failure is one that no other attempt could overcome, because no more attempts are allowed, or
because the time is over. -/
inductive Ending (options : LinkOptions) (uri : String) (window : Option Duration) (made : Nat) :
    Except ChannelFailure Unit → Except LinkFailure Unit → Prop where
  | opened : Ending options uri window made (.ok ()) (.ok ())
  | misaddressed {failure : ChannelFailure} (final : failure.isNetwork = false) :
    Ending options uri window made (.error failure) (.error (.notConnected uri failure.message))
  | exhausted {failure : ChannelFailure} (passing : failure.isNetwork = true)
    (all : options.mostTries = some made) :
    Ending options uri window made (.error failure)
      (.error (.notConnected uri s!"{failure.message} (after {made} attempts)"))
  | late {failure : ChannelFailure} (passing : failure.isNetwork = true)
    (allowed : options.mostTries ≠ some made) (all : window.map options.triesIn = some made) :
    Ending options uri window made (.error failure)
      (.error (.connectTimeout uri made failure.message))

/-- How connecting ends, and with which attempt counted from zero, when attempts come to what
`results` say. There are no more of them than are allowed and than there is time for. -/
structure Ends (options : LinkOptions) (uri : String) (window : Option Duration)
    (results : Nat → Except ChannelFailure Unit) (last : Nat) (ending : Except LinkFailure Unit) :
    Prop where
  failed : ∀ k < last, Passing results k
  allowed : ∀ most ∈ options.mostTries, last < most
  inTime : ∀ most ∈ window.map options.triesIn, last < most
  ending : Ending options uri window (last + 1) (results last) ending

variable {options : LinkOptions} {uri : String} {window : Option Duration} {last : Nat}
  {results : Nat → Except ChannelFailure Unit} {ending : Except LinkFailure Unit}

namespace Ends

theorem allowed_next (ends : Ends options uri window results last ending) {k : Nat}
    (early : k < last) : ∀ most ∈ options.mostTries, k + 1 < most := fun most bound =>
  Nat.lt_of_le_of_lt early (ends.allowed most bound)

theorem inTime_next (ends : Ends options uri window results last ending) {k : Nat}
    (early : k < last) : ∀ most ∈ window.map options.triesIn, k + 1 < most := fun most bound =>
  Nat.lt_of_le_of_lt early (ends.inTime most bound)

theorem unlimited (ends : Ends options uri window results last ending)
    (inTime : ∀ attempts reason, ending ≠ .error (.connectTimeout uri attempts reason)) :
    Ends options uri none results last ending := by
  refine ⟨ends.failed, ends.allowed, nofun, ?_⟩
  have ending := ends.ending
  generalize results last = result at ending ⊢
  cases ending with
  | opened => exact .opened
  | misaddressed final => exact .misaddressed final
  | exhausted passing all => exact .exhausted passing all
  | late _ _ _ => exact absurd rfl (inTime _ _)

end Ends

theorem ending_or_passing (options : LinkOptions) (uri : String) (window : Option Duration)
    {k : Nat} (allowed : ∀ most ∈ options.mostTries, k < most)
    (inTime : ∀ most ∈ window.map options.triesIn, k < most) :
    (∃ ending, Ending options uri window (k + 1) (results k) ending) ∨
      Passing results k ∧ (∀ most ∈ options.mostTries, k + 1 < most) ∧
        ∀ most ∈ window.map options.triesIn, k + 1 < most := by
  cases result : results k with
  | ok _ => exact .inl ⟨_, .opened⟩
  | error failure =>
    cases network : failure.isNetwork with
    | false => exact .inl ⟨_, .misaddressed network⟩
    | true =>
      by_cases spent : options.mostTries = some (k + 1)
      · exact .inl ⟨_, .exhausted network spent⟩
      by_cases expired : window.map options.triesIn = some (k + 1)
      · exact .inl ⟨_, .late network spent expired⟩
      refine .inr ⟨⟨failure, result, network⟩, fun most bound => ?_, fun most bound => ?_⟩
      · exact Nat.lt_of_le_of_ne (allowed most bound) fun same => spent (same ▸ bound)
      · exact Nat.lt_of_le_of_ne (inTime most bound) fun same => expired (same ▸ bound)

/-- Connecting ends if there is a limit to the attempts or to the time, or if it ever can. -/
theorem exists_ends (options : LinkOptions) (uri : String) (window : Option Duration)
    (results : Nat → Except ChannelFailure Unit)
    (finite : options.mostTries ≠ none ∨ window ≠ none ∨ ∃ k, ¬ Passing results k) :
    ∃ last ending, Ends options uri window results last ending := by
  refine Classical.byContradiction fun never => ?_
  -- Otherwise attempts fail for ever, and all of them are allowed and in time.
  have always : ∀ k, (∀ j < k, Passing results j) ∧ (∀ most ∈ options.mostTries, k < most) ∧
      ∀ most ∈ window.map options.triesIn, k < most := by
    intro k
    induction k with
    | zero => exact ⟨nofun, fun _ => LinkOptions.pos_of_mostTries, fun _ => LinkOptions.pos_of_triesIn⟩
    | succ k ih =>
      obtain ⟨failed, allowed, inTime⟩ := ih
      rcases ending_or_passing options uri window allowed inTime with
        ⟨ending, ends⟩ | ⟨passing, more⟩
      · exact absurd ⟨k, ending, failed, allowed, inTime, ends⟩ never
      · refine ⟨fun j before => ?_, more⟩
        rcases Nat.lt_succ_iff_lt_or_eq.mp before with early | rfl
        · exact failed j early
        · exact passing
  rcases finite with limited | limited | ⟨k, final⟩
  · obtain ⟨most, bound⟩ := Option.ne_none_iff_exists'.mp limited
    exact Nat.lt_irrefl _ ((always most).2.1 most bound)
  · obtain ⟨span, rfl⟩ := Option.ne_none_iff_exists'.mp limited
    exact Nat.lt_irrefl _ ((always (options.triesIn span)).2.2 _ rfl)
  · exact final ((always (k + 1)).1 k (Nat.lt_succ_self k))

end Connect

/-! One attempt. -/

def LinkOptions.OnTime (options : LinkOptions) (window : Option Deadline) (start : Duration)
    (failed : Nat) (now : Duration) : Prop :=
  now = start + options.waited (window.map (·.remaining start)) failed

namespace LinkOptions.OnTime

variable {options : LinkOptions} {closing : Deadline} {start now : Duration} {failed : Nat}

theorem remaining_eq_zero (steps : .zero < options.connectInterval)
    (onTime : options.OnTime (some closing) start failed now) :
    closing.remaining now = .zero ↔ options.triesIn (closing.remaining start) ≤ failed + 1 := by
  rw [triesIn_le steps, onTime, Deadline.remaining_eq_zero_iff]
  simp only [Option.map_some, waited, Duration.le_iff_nanos, Duration.nanos_add, Deadline.remaining,
    Duration.nanos_sub]
  omega

theorem elapsed {window : Option Deadline} {spent : Duration}
    (onTime : options.OnTime window start failed (start + spent)) :
    spent = options.waited (window.map (·.remaining start)) failed :=
  Duration.nanos_injective (Nat.add_left_cancel (congrArg Duration.nanos onTime))

theorem next_limited (onTime : options.OnTime (some closing) start failed now) :
    options.OnTime (some closing) start (failed + 1)
      (now + min options.connectInterval (closing.remaining now)) := by
  have product : (failed + 1) * options.connectInterval.nanos =
      failed * options.connectInterval.nanos + options.connectInterval.nanos := Nat.succ_mul _ _
  apply Duration.nanos_injective
  rw [onTime]
  simp only [Option.map_some, waited, Duration.nanos_add, Duration.nanos_min, Deadline.remaining,
    Duration.nanos_sub]
  omega

theorem next_unlimited (onTime : options.OnTime none start failed now) :
    options.OnTime none start (failed + 1) (now + options.connectInterval) := by
  have product : (failed + 1) * options.connectInterval.nanos =
      failed * options.connectInterval.nanos + options.connectInterval.nanos := Nat.succ_mul _ _
  apply Duration.nanos_injective
  rw [onTime]
  simp only [Option.map_none, waited, Duration.nanos_add]
  omega

end LinkOptions.OnTime

namespace Connect

variable {options : LinkOptions} {uri : String} {window : Option Deadline} {start now : Duration}
  {failed : Nat} {failure : ChannelFailure}

theorem onTime_of_verdict {pause : Duration} {stopping : Bool}
    (onTime : options.OnTime window start failed now)
    (again : verdict options uri window (failed + 1) failure stopping now = .ok pause) :
    options.OnTime window start (failed + 1) (now + pause) := by
  obtain ⟨-, -, pauses⟩ := verdict_eq_ok again
  cases window with
  | none =>
    rw [pauses]
    exact onTime.next_unlimited
  | some closing =>
    obtain ⟨-, -, rfl⟩ := pauses
    exact onTime.next_limited

theorem verdict_passing (steps : .zero < options.connectInterval)
    (onTime : options.OnTime window start failed now) (network : failure.isNetwork = true)
    (allowed : ∀ most ∈ options.mostTries, failed + 1 < most)
    (inTime : ∀ most ∈ (window.map (·.remaining start)).map options.triesIn, failed + 1 < most) :
    ∃ pause, verdict options uri window (failed + 1) failure false now = .ok pause := by
  have more : options.connectAttempts.any (· ≤ failed + 1) = false := by
    rw [← Bool.not_eq_true, LinkOptions.mostTries_le]
    rintro ⟨most, bound, spent⟩
    exact Nat.not_lt_of_le spent (allowed most bound)
  simp only [verdict, network, more, Bool.not_true, Bool.false_eq_true, ↓reduceIte]
  cases window with
  | none => exact ⟨_, rfl⟩
  | some closing =>
    have left : closing.remaining now ≠ .zero := fun expired =>
      Nat.not_lt_of_le ((onTime.remaining_eq_zero steps).mp expired) (inTime _ rfl)
    simp only [left, ↓reduceIte]
    exact ⟨_, rfl⟩

theorem verdict_ending (steps : .zero < options.connectInterval) {reason : LinkFailure}
    (onTime : options.OnTime window start failed now)
    (allowed : ∀ most ∈ options.mostTries, failed < most)
    (ending : Ending options uri (window.map (·.remaining start)) (failed + 1) (.error failure)
      (.error reason)) :
    verdict options uri window (failed + 1) failure false now = .error reason := by
  cases ending with
  | misaddressed final => simp only [verdict, final, Bool.not_false, ↓reduceIte]
  | exhausted network all =>
    have spent : options.connectAttempts.any (· ≤ failed + 1) = true :=
      (LinkOptions.mostTries_le failed).mpr ⟨_, all, Nat.le_refl _⟩
    simp only [verdict, network, spent, Bool.not_true, Bool.false_eq_true, ↓reduceIte]
  | late network room all =>
    have more : options.connectAttempts.any (· ≤ failed + 1) = false := by
      rw [← Bool.not_eq_true, LinkOptions.mostTries_le]
      rintro ⟨most, bound, spent⟩
      have exact : most = failed + 1 := Nat.le_antisymm spent (allowed most bound)
      exact room (exact ▸ bound)
    cases window with
    | none => cases all
    | some closing =>
      have expired : closing.remaining now = .zero :=
        (onTime.remaining_eq_zero steps).mpr (Nat.le_of_eq (Option.some.inj all))
      simp only [verdict, network, more, expired, Bool.not_true, Bool.false_eq_true, ↓reduceIte]

end Connect

/-! The loop. -/

namespace Connect

section Loop

variable {options : LinkOptions} {uri : String} {window : Option Deadline}
  {channel fuel failed : Nat} {state next : σ}

theorem openUntil_passes (scene : Scene σ) (options : LinkOptions) (uri : String)
    (window : Option Deadline) (channel fuel failed : Nat) (state : σ) :
    let performed :=
      scene.perform (openUntil scene.surroundings options uri window channel fuel failed) state
    Opening scene options uri window channel failed state performed.done performed.outcome
      performed.stop := by
  intro performed
  obtain ⟨done, opening⟩ :=
    Opening.of_openUntil scene options uri window channel fuel failed state
  have same : performed.done = done := Scene.perform_done opening.passes
  rw [same]
  exact opening

theorem perform_last (running : scene.stopping next = false)
    (steps : .zero < options.connectInterval) {start : Duration}
    (onTime : options.OnTime window start failed (scene.clock next))
    (allowed : ∀ most ∈ options.mostTries, failed < most)
    {result : Except ChannelFailure Unit} {ending : Except LinkFailure Unit}
    (opens : (scene.surroundings.openChannel channel).run state = (result, next))
    (ends : Ending options uri (window.map (·.remaining start)) (failed + 1) result ending) :
    scene.perform (openUntil scene.surroundings options uri window channel (fuel + 1) failed) state =
      ⟨.ok ending, next, [.opened channel result]⟩ := by
  refine Scene.perform_eq ?_ (Scene.open_passes opens)
  rw [openUntil_play, opens]
  cases result with
  | ok _ =>
    cases ends
    rfl
  | error failure =>
    obtain ⟨reason, rfl⟩ : ∃ reason, ending = .error reason := by
      cases ends <;> exact ⟨_, rfl⟩
    simp only [running, verdict_ending steps onTime allowed ends]

theorem perform_next {failure : ChannelFailure} {pause : Duration}
    (opens : (scene.surroundings.openChannel channel).run state = (.error failure, next))
    (again : verdict options uri window (failed + 1) failure (scene.stopping next)
      (scene.clock next) = .ok pause) :
    let rest := scene.perform
      (openUntil scene.surroundings options uri window channel fuel (failed + 1))
      ((scene.surroundings.pause pause).run next).2
    scene.perform (openUntil scene.surroundings options uri window channel (fuel + 1) failed) state =
      ⟨rest.outcome, rest.stop, .opened channel (.error failure) :: .slept pause :: rest.done⟩ := by
  intro rest
  have opening := openUntil_passes scene options uri window channel fuel (failed + 1)
    ((scene.surroundings.pause pause).run next).2
  refine Scene.perform_eq ?_ ((Scene.open_passes opens).trans
    ((scene.pause_passes pause next).trans opening.passes))
  rw [openUntil_play, opens]
  simp only [again]
  rfl

theorem openings_head (scene : Scene σ) (options : LinkOptions) (uri : String)
    (window : Option Deadline) (channel fuel failed : Nat) (state : σ) :
    (scene.perform (openUntil scene.surroundings options uri window channel (fuel + 1) failed)
      state).done.openings[0]? =
      some ((scene.surroundings.openChannel channel).run state).1 := by
  have plays := openUntil_play scene options uri window channel fuel failed state
  rcases opens : (scene.surroundings.openChannel channel).run state with ⟨failure | _, next⟩
  all_goals rw [opens] at plays
  · cases verdict : verdict options uri window (failed + 1) failure (scene.stopping next)
      (scene.clock next) with
    | ok pause =>
      rw [perform_next opens verdict]
      rfl
    | error reason =>
      simp only [verdict] at plays
      rw [Scene.perform_eq plays (Scene.open_passes opens)]
      rfl
  · rw [Scene.perform_eq plays (Scene.open_passes opens)]
    rfl

/-- The loop makes the attempts up to the one that ends it. -/
theorem openUntil_ends (running : ∀ state, scene.stopping state = false)
    (steps : .zero < options.connectInterval) {start : Duration}
    {results : Nat → Except ChannelFailure Unit} {last : Nat} {ending : Except LinkFailure Unit}
    (ends : Ends options uri (window.map (·.remaining start)) results last ending)
    (early : failed ≤ last) (onTime : options.OnTime window start failed (scene.clock state)) :
    let performed :=
      scene.perform (openUntil scene.surroundings options uri window channel fuel failed) state
    (∀ k result, performed.done.openings[k]? = some result → result = results (failed + k)) →
      (failed + fuel ≤ last → performed.outcome = .error .unfinished) ∧
      (last < failed + fuel → performed.outcome = .ok ending ∧
        performed.done.openings = (List.range' failed (last + 1 - failed)).map results ∧
        options.OnTime window start last (scene.clock performed.stop)) := by
  intro performed answers
  -- Each attempt but the last comes in time and is followed by a pause up to the next one.
  induction fuel generalizing failed state with
  | zero => exact ⟨fun _ => rfl, fun late => absurd early (Nat.not_le_of_lt late)⟩
  | succ fuel ih =>
    have first := answers 0 _ (openings_head scene options uri window channel fuel failed state)
    rcases opens : (scene.surroundings.openChannel channel).run state with ⟨result, next⟩
    rw [opens, Nat.add_zero] at first
    rw [← (Scene.open_passes opens).still rfl] at onTime
    rcases Nat.eq_or_lt_of_le early with rfl | before
    · have ending := ends.ending
      rw [← first] at ending
      simp only [performed, perform_last (running next) steps onTime ends.allowed opens ending]
      refine ⟨fun less => absurd less (by omega), fun _ => ⟨trivial, ?_, onTime⟩⟩
      rw [Nat.add_sub_cancel_left, List.range'_one, List.map_singleton, ← first]
      rfl
    · obtain ⟨failure, fails, network⟩ := ends.failed failed before
      rw [fails] at first
      subst first
      obtain ⟨pause, again⟩ : ∃ pause, verdict options uri window (failed + 1) failure false
          (scene.clock next) = .ok pause :=
        verdict_passing steps onTime network (ends.allowed_next before) (ends.inTime_next before)
      have later := onTime_of_verdict onTime again
      rw [← scene.pause_clock] at later
      rw [← running next] at again
      have whole : performed = _ := perform_next opens again
      simp only [performed, whole] at answers ⊢
      obtain ⟨more, enough⟩ := ih before later fun k result listed => by
        rw [Nat.succ_add_eq_add_succ]
        exact answers (k + 1) result listed
      refine ⟨fun less => more (by omega), fun less => ?_⟩
      obtain ⟨outcome, openings, clock⟩ := enough (by omega)
      refine ⟨outcome, ?_, clock⟩
      have count : last + 1 - failed = (last + 1 - (failed + 1)) + 1 := by omega
      rw [count, List.range'_succ, List.map_cons, ← openings, fails]
      rfl

end Loop

end Connect

/-- Each attempt comes at its time. -/
theorem Opening.onTime {options : LinkOptions} {uri : String} {window : Option Deadline}
    {channel failed : Nat} {state stop : σ} {done before after : Log} {start : Duration}
    {outcome : Except Halt (Except LinkFailure Unit)} {one : Nat}
    {result : Except ChannelFailure Unit}
    (opening : Opening scene options uri window channel failed state done outcome stop)
    (onTime : options.OnTime window start failed (scene.clock state))
    (part : done = before ++ .opened one result :: after) :
    options.OnTime window start (failed + before.openings.length)
      (scene.clock state + before.slept) := by
  -- A later attempt is one of the opening that goes on after the first pause.
  induction opening generalizing before with
  | unfinished => cases before <;> cases part
  | opened _ =>
    cases before with
    | nil => exact onTime
    | cons entry before => cases before <;> cases part
  | givenUp _ _ =>
    cases before with
    | nil => exact onTime
    | cons entry before => cases before <;> cases part
  | @again failed state next _ failure pause rest _ fails verdict later ih =>
    have still := (Scene.open_passes fails).still rfl
    rw [← still] at onTime ⊢
    rcases before with _ | ⟨_, _ | ⟨_, before⟩⟩
    · exact onTime
    · cases part
    · simp only [List.cons_append, List.cons.injEq] at part
      obtain ⟨rfl, rfl, part⟩ := part
      have paused := Connect.onTime_of_verdict onTime verdict
      rw [← scene.pause_clock] at paused
      have reached := ih paused part
      rw [scene.pause_clock, Nat.add_right_comm] at reached
      have slept : scene.clock next + pause + Log.slept before = scene.clock next +
          Log.slept (.opened channel (.error failure) :: .slept pause :: before) :=
        Duration.nanos_injective (Nat.add_assoc _ _ _)
      rwa [slept] at reached

theorem Opening.creations_eq {options : LinkOptions} {uri : String} {window : Option Deadline}
    {channel failed : Nat} {state stop : σ} {done : Log}
    {outcome : Except Halt (Except LinkFailure Unit)}
    (opening : Opening scene options uri window channel failed state done outcome stop) :
    done.creations = [] := by
  induction opening with
  | unfinished => rfl
  | opened _ => rfl
  | givenUp _ _ => rfl
  | again _ _ _ ih => exact ih

theorem Opening.openings_steady {options : LinkOptions} {uri : String} {window : Option Deadline}
    {channel failed : Nat} {state stop : σ} {done : Log}
    {outcome : Except Halt (Except LinkFailure Unit)} {same : Except ChannelFailure Unit}
    (opening : Opening scene options uri window channel failed state done outcome stop)
    (steady : ∀ state, ((scene.surroundings.openChannel channel).run state).1 = same) :
    ∀ result ∈ done.openings, result = same := by
  induction opening with
  | unfinished => exact List.forall_mem_nil _
  | @opened _ state _ opens =>
    have result := steady state
    rw [opens] at result
    exact List.forall_mem_singleton.mpr result
  | @givenUp _ state _ _ _ fails _ =>
    have result := steady state
    rw [fails] at result
    exact List.forall_mem_singleton.mpr result
  | @again _ state _ _ _ _ _ _ fails _ _ ih =>
    have result := steady state
    rw [fails] at result
    exact List.forall_mem_cons.mpr ⟨result, ih⟩

end SchedulerLink
