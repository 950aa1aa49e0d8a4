import SchedulerLink.Proofs.Timeless
import SchedulerLink.Proofs.Tries

/-!
How connecting goes, by what comes of each attempt.

A link that has to connect finds out where to, creates a channel and opens it. So it comes to what
opening comes to, whatever the limit of time.
-/

namespace SchedulerLink

variable {σ : Type} {scene : Scene σ}

namespace Link

structure Heads (scene : Scene σ) (uri : String) (state : σ) (link : Link Nat) : Prop where
  idle : link.connection = none
  leads : ∃ base locator middle,
    (link.locator.rawUrl scene.surroundings).play state = (.ok (.ok base, locator), middle) ∧
      Connect.interfaceUri base = .ok uri

def afterOpening (link : Link Nat) (channel : Nat) :
    Except LinkFailure Unit → Except LinkFailure (Connection Nat) × Link Nat
  | .ok () =>
    (.ok { channel }, { link with connection := some { channel }, epoch := link.epoch + 1 })
  | .error failure => (.error failure, link)

end Link

structure Log.Idle (log : Log) : Prop where
  openings : log.openings = []
  creations : log.creations = []
  slept : log.slept = .zero

theorem Log.Idle.nil : Log.Idle [] := ⟨rfl, rfl, rfl⟩

theorem Locating.idle {state stop : σ} {locator : Locator} {done : Log}
    {outcome : Except Halt (Except LinkFailure String × Locator)}
    (locating : Locating scene state locator done outcome stop) : done.Idle := by
  cases locating <;> exact ⟨rfl, rfl, rfl⟩

theorem Link.connect_performs {link : Link Nat} {uri : String} {state : σ}
    (heads : link.Heads scene uri state) :
    ∃ located middle channel next locator, scene.Passes state located middle ∧ located.Idle ∧
      (scene.surroundings.create uri link.setup).run middle = (channel, next) ∧
      ∀ fuel limit,
        (link.window? (scene.clock state) limit = none →
          scene.perform (link.connect scene.surroundings fuel limit) state =
            ⟨.error .overflow, middle, located⟩) ∧
        ∀ window, link.window? (scene.clock state) limit = some window →
          let opened := scene.perform
            (Connect.openUntil scene.surroundings link.options uri window channel fuel 0) next
          let performed := scene.perform (link.connect scene.surroundings fuel limit) state
          performed.outcome =
            opened.outcome.map (Link.afterOpening { link with locator, connection := none } channel) ∧
          ∃ parting : Log, parting.Idle ∧
            performed.done = located ++ .created channel uri link.setup :: (opened.done ++ parting) := by
  obtain ⟨base, locator, middle, leads, address⟩ := heads.leads
  obtain ⟨located, locating⟩ := Locating.of_rawUrl scene link.locator state
  rw [leads] at locating
  rcases creates : (scene.surroundings.create uri link.setup).run middle with ⟨channel, next⟩
  refine ⟨located, middle, channel, next, locator, locating.passes, locating.idle, creates,
    fun fuel limit => ?_⟩
  -- The scheduler is found, and what is left is to connect to its address.
  have begins : (link.connect scene.surroundings fuel limit).play state =
      (Link.connectTo scene.surroundings fuel limit { link with locator, connection := none }
        base).play middle := by
    obtain ⟨_, _, _, connection, _⟩ := link
    cases heads.idle
    exact Run.play_bind_ok leads
  have still : scene.clock middle = scene.clock state := locating.passes.still locating.idle.slept
  have same : Link.window? { link with locator, connection := none } (scene.clock middle) limit =
      link.window? (scene.clock state) limit := by
    rw [still]
    rfl
  simp only [connectTo, address, Run.play_bind, connectDeadline_play, same] at begins
  constructor
  · intro tooFar
    simp only [tooFar] at begins
    exact Scene.perform_eq begins locating.passes
  · intro window inTime opened performed
    have opening :=
      Connect.openUntil_passes scene link.options uri window channel fuel 0 next
    have passes := locating.passes.trans ((Scene.create_passes creates).trans opening.passes)
    rw [setup] at creates
    simp only [inTime, Connect.openChannel, Run.play_bind, Run.play_lift, creates] at begins
    rcases opens : (Connect.openUntil scene.surroundings link.options uri window channel fuel
      0).play next with ⟨halt | failure | _, stop⟩
    all_goals
      have outcome : opened.outcome = _ := congrArg Prod.fst opens
      have stops : opened.stop = stop := congrArg Prod.snd opens
      change scene.Passes state (located ++ (_ ++ opened.done)) opened.stop at passes
      rw [stops] at passes
      simp only [opens] at begins
      rw [outcome]
    · simp only [performed, Scene.perform_eq begins passes]
      refine ⟨rfl, [], ⟨rfl, rfl, rfl⟩, ?_⟩
      rw [List.append_nil]
      rfl
    · simp only [performed, Scene.perform_eq begins passes]
      refine ⟨rfl, [], ⟨rfl, rfl, rfl⟩, ?_⟩
      rw [List.append_nil]
      rfl
    · simp only [performed, Scene.perform_eq begins (passes.trans (scene.adopt_passes channel stop))]
      refine ⟨rfl, [.adopted channel], ⟨rfl, rfl, rfl⟩, ?_⟩
      rw [List.append_assoc]
      rfl

/-! What is done in all. -/

namespace Log

variable {located tried parting before after : Log} {channel one : Nat} {uri : String}
  {setup : ChannelSetup} {result : Except ChannelFailure Unit}

theorem openings_append (log other : Log) :
    openings (log ++ other) = openings log ++ openings other := List.filterMap_append

theorem creations_append (log other : Log) :
    creations (log ++ other) = creations log ++ creations other := List.filterMap_append

theorem openings_around (idle : located.Idle) (rests : parting.Idle) :
    openings (located ++ .created channel uri setup :: (tried ++ parting)) = tried.openings := by
  rw [openings_append, idle.openings, List.nil_append]
  change openings (tried ++ parting) = tried.openings
  rw [openings_append, rests.openings, List.append_nil]

theorem creations_around (idle : located.Idle) (rests : parting.Idle) (none : tried.creations = []) :
    creations (located ++ .created channel uri setup :: (tried ++ parting)) = [(uri, setup)] := by
  rw [creations_append, idle.creations, List.nil_append]
  change (uri, setup) :: creations (tried ++ parting) = [(uri, setup)]
  rw [creations_append, none, rests.creations, List.append_nil]

theorem slept_around (idle : located.Idle) (rests : parting.Idle) :
    slept (located ++ .created channel uri setup :: (tried ++ parting)) = tried.slept := by
  apply Duration.nanos_injective
  rw [nanos_slept_append, slept_cons_of_pauses _ rfl, nanos_slept_append, idle.slept, rests.slept,
    Duration.nanos_zero, Nat.zero_add, Nat.add_zero]

theorem openings_ne_nil :
    openings (before ++ .opened one result :: after) ≠ [] := by
  rw [openings_append]
  exact List.append_ne_nil_of_right_ne_nil _ (List.cons_ne_nil _ _)

/-- An attempt to open the channel lies where the channel is opened. -/
theorem split_around (idle : located.Idle) (rests : parting.Idle)
    (whole : located ++ .created channel uri setup :: (tried ++ parting) =
      before ++ .opened one result :: after) :
    ∃ between rest : Log, before = located ++ .created channel uri setup :: between ∧
      tried = between ++ .opened one result :: rest := by
  rcases List.append_eq_append_iff.mp whole with
    ⟨_ | ⟨entry, between⟩, rfl, right⟩ | ⟨_ | ⟨entry, rest⟩, rfl, right⟩
  · cases right
  · obtain ⟨rfl, tail⟩ := List.cons_eq_cons.mp right
    rcases List.append_eq_append_iff.mp tail with
      ⟨rest, -, last⟩ | ⟨_ | ⟨entry, rest⟩, first, last⟩
    · exact absurd (last ▸ rests.openings) openings_ne_nil
    · have opens := rests.openings
      rw [← last.trans (List.nil_append parting)] at opens
      cases opens
    · obtain ⟨rfl, -⟩ := List.cons_eq_cons.mp last
      exact ⟨between, rest, rfl, first⟩
  · cases right
  · obtain ⟨rfl, -⟩ := List.cons_eq_cons.mp right
    exact absurd idle.openings openings_ne_nil

end Log

namespace Link

variable {link : Link Nat} {limit : Option Deadline}

def timeFor (link : Link Nat) (now : Duration) (limit : Option Deadline) : Option Duration :=
  limit.map fun deadline => min (deadline.remaining now) link.options.connectWait

theorem window?_near (now : Duration)
    (near : limit = none ∨ Deadline.InReach now link.options.connectWait) :
    ∃ window, link.window? now limit = some window ∧
      window.map (·.remaining now) = link.timeFor now limit := by
  cases limit with
  | none => exact ⟨none, rfl, rfl⟩
  | some deadline =>
    have near := near.resolve_left nofun
    refine ⟨some (deadline.earlier ⟨now + link.options.connectWait⟩), ?_, ?_⟩
    · rw [window?, Deadline.capped?_eq_some.mpr ⟨near, rfl⟩]
      rfl
    · refine congrArg some (Duration.nanos_injective ?_)
      simp only [Deadline.remaining, Deadline.earlier, Duration.nanos_sub, Duration.nanos_min,
        Duration.nanos_add]
      omega

theorem window?_far {now : Duration} (limited : limit ≠ none)
    (far : ¬ Deadline.InReach now link.options.connectWait) : link.window? now limit = none := by
  obtain ⟨deadline, rfl⟩ := Option.ne_none_iff_exists'.mp limited
  exact window?_eq_none.mpr far

end Link

/-- How a link connects with the attempt `last`, counted from zero, and how that ends. -/
structure Performance.Connects (link : Link Nat) (time : Option Duration)
    (results : Nat → Except ChannelFailure Unit) (last : Nat) (ending : Except LinkFailure Unit)
    (performed : Performance σ (Except LinkFailure (Connection Nat) × Link Nat)) : Prop where
  openings : performed.done.openings = (List.range (last + 1)).map results
  slept : performed.done.slept = link.options.waited time last
  late (uri : String) (attempts : Nat) (reason : String)
    (tooLate : ending = .error (.connectTimeout uri attempts reason)) :
    attempts = last + 1 ∧ time = some performed.done.slept
  connects (success : ending = .ok ()) : ∃ connection after,
    performed.outcome = .ok (.ok connection, after) ∧ after.connection = some connection ∧
      after.epoch = link.epoch + 1
  fails (failure : LinkFailure) (fails : ending = .error failure) : ∃ after,
    performed.outcome = .ok (.error failure, after) ∧ after.connection = none ∧
      after.epoch = link.epoch

theorem Connect.Ends.spent {options : LinkOptions} {uri other : String} {window : Option Duration}
    {results : Nat → Except ChannelFailure Unit} {last attempts : Nat} {reason : String}
    (steps : .zero < options.connectInterval)
    (ends : Connect.Ends options uri window results last
      (.error (.connectTimeout other attempts reason))) :
    attempts = last + 1 ∧ window = some (options.waited window last) := by
  have ending := ends.ending
  generalize results last = result at ending
  cases ending with
  | late _ _ all =>
    obtain ⟨span, rfl, most⟩ := Option.map_eq_some_iff.mp all
    have before : last = options.triesIn span - 1 := by omega
    refine ⟨rfl, congrArg some ?_⟩
    rw [before, LinkOptions.waited_triesIn steps]

/-- A link that may connect for longer than a clock can tell does not even try under a limit. -/
theorem Link.connect_far {link : Link Nat} {uri : String} {state : σ}
    (heads : link.Heads scene uri state) (fuel : Nat) {limit : Option Deadline}
    (limited : limit ≠ none)
    (far : ¬ Deadline.InReach (scene.clock state) link.options.connectWait) :
    let performed := scene.perform (link.connect scene.surroundings fuel limit) state
    performed.outcome = .error .overflow ∧ performed.done.creations = [] := by
  intro performed
  obtain ⟨_, _, _, _, _, _, idle, _, performs⟩ := link.connect_performs heads
  have overflows := (performs fuel limit).1 (Link.window?_far limited far)
  simp only [performed, overflows]
  exact ⟨trivial, idle.creations⟩

def Log.GoesBy (log : Log) (results : Nat → Except ChannelFailure Unit) : Prop :=
  ∀ k result, log.openings[k]? = some result → result = results k

theorem Link.goesBy_of_steady {same : Except ChannelFailure Unit}
    (steady : ∀ channel state, ((scene.surroundings.openChannel channel).run state).1 = same)
    {link : Link Nat} {uri : String} {state : σ} (heads : link.Heads scene uri state) (fuel : Nat)
    (limit : Option Deadline) :
    (scene.perform (link.connect scene.surroundings fuel limit) state).done.GoesBy fun _ => same := by
  obtain ⟨_, _, channel, next, _, _, idle, _, performs⟩ := link.connect_performs heads
  obtain ⟨overflows, goes⟩ := performs fuel limit
  intro k result listed
  cases inTime : link.window? (scene.clock state) limit with
  | none =>
    rw [overflows inTime, idle.openings] at listed
    cases listed
  | some window =>
    obtain ⟨-, parting, rests, whole⟩ := goes window inTime
    rw [whole, Log.openings_around idle rests] at listed
    have opening := Connect.openUntil_passes scene link.options uri window channel fuel 0 next
    exact opening.openings_steady (steady channel) result (List.mem_of_getElem? listed)

/-- How connecting goes, for all limits on the same channel. -/
theorem Link.connect_by_results (running : ∀ state, scene.stopping state = false)
    {link : Link Nat} {uri : String} {state : σ} (heads : link.Heads scene uri state)
    (steps : .zero < link.options.connectInterval) :
    ∃ channel locator, ∀ fuel limit,
      (limit = none ∨ Deadline.InReach (scene.clock state) link.options.connectWait) →
      let performed := scene.perform (link.connect scene.surroundings fuel limit) state
      let time := link.timeFor (scene.clock state) limit
      performed.done.creations = [(uri, link.setup)] ∧
      (∀ (before after : Log) (one : Nat) (result : Except ChannelFailure Unit),
        performed.done = before ++ .opened one result :: after →
          before.slept = link.options.waited time before.openings.length) ∧
      ∀ results last ending, performed.done.GoesBy results →
        Connect.Ends link.options uri time results last ending →
          (fuel ≤ last → performed.outcome = .error .unfinished) ∧
          (last < fuel →
            performed.outcome =
              .ok (Link.afterOpening { link with locator, connection := none } channel ending) ∧
            performed.done.openings = (List.range (last + 1)).map results ∧
            performed.done.slept = link.options.waited time last) := by
  obtain ⟨located, middle, channel, next, locator, passes, idle, creates, goes⟩ :=
    link.connect_performs heads
  refine ⟨channel, locator, fun fuel limit near => ?_⟩
  intro performed time
  obtain ⟨window, inTime, (same : window.map (·.remaining (scene.clock state)) = time)⟩ :=
    link.window?_near (scene.clock state) near
  obtain ⟨outcome, parting, rests, whole⟩ := (goes fuel limit).2 window inTime
  have still : scene.clock next = scene.clock state :=
    ((Scene.create_passes creates).still rfl).trans (passes.still idle.slept)
  have onTime : link.options.OnTime window (scene.clock state) 0 (scene.clock next) := by
    rw [still, LinkOptions.OnTime, LinkOptions.waited_zero]
    rfl
  have opening := Connect.openUntil_passes scene link.options uri window channel fuel 0 next
  refine ⟨?_, fun before after one result part => ?_, fun results last ending goesBy ends => ?_⟩
  · rw [whole]
    exact Log.creations_around idle rests opening.creations_eq
  · rw [whole] at part
    obtain ⟨between, rest, rfl, tried⟩ := Log.split_around idle rests part
    have reached := opening.onTime onTime tried
    rw [still, Nat.zero_add] at reached
    rw [← List.append_nil between, Log.slept_around idle .nil, Log.openings_around idle .nil,
      reached.elapsed, same]
  · rw [Log.GoesBy, whole, Log.openings_around idle rests] at goesBy
    rw [← same] at ends
    obtain ⟨unfinished, finished⟩ := Connect.openUntil_ends running steps ends (Nat.zero_le last)
      onTime fun k result listed => by
        rw [Nat.zero_add]
        exact goesBy k result listed
    refine ⟨fun less => ?_, fun less => ?_⟩
    · rw [outcome, unfinished (by omega)]
      rfl
    · obtain ⟨ended, openings, reached⟩ := finished (by omega)
      have slept := opening.passes.clock
      rw [slept, still] at reached
      refine ⟨?_, ?_, ?_⟩
      · rw [outcome, ended]
        rfl
      · rw [whole, Log.openings_around idle rests, openings, List.range_eq_range']
        rfl
      · rw [whole, Log.slept_around idle rests, reached.elapsed, same]

theorem Performance.Connects.of_opened {link : Link Nat} {time : Option Duration} {uri : String}
    {results : Nat → Except ChannelFailure Unit} {last channel : Nat} {locator : Locator}
    {ending : Except LinkFailure Unit}
    {performed : Performance σ (Except LinkFailure (Connection Nat) × Link Nat)}
    (steps : .zero < link.options.connectInterval)
    (ends : Connect.Ends link.options uri time results last ending)
    (outcome : performed.outcome =
      .ok (Link.afterOpening { link with locator, connection := none } channel ending))
    (openings : performed.done.openings = (List.range (last + 1)).map results)
    (slept : performed.done.slept = link.options.waited time last) :
    performed.Connects link time results last ending where
  openings := openings
  slept := slept
  late _ _ _ tooLate := by
    subst tooLate
    rw [slept]
    exact ends.spent steps
  connects success := by
    subst success
    exact ⟨_, _, outcome, rfl, rfl⟩
  fails failure fails := by
    subst fails
    exact ⟨_, outcome, rfl, rfl⟩

/-- Connecting goes by what comes of the attempts. Where calls are not abandoned, a link that has to
connect creates one channel, and comes to its attempts after whole intervals, or when its time is
over if that is sooner. It makes attempts up to the first that opens the channel or shows that none
ever will, and no more than are allowed and than there is time for. If those that are allowed are
made first, it says so; if the time is over first, it has slept exactly that long. Its epoch grows
only by success. A limit of time makes a difference only to a link that is too late.

Nothing of this holds under a limit when no instant lies as far ahead as the link may connect: then
there is no channel at all. -/
theorem connecting_goes_by_results (scene : Scene σ)
    (running : ∀ state, scene.stopping state = false) {link : Link Nat} {uri : String} {state : σ}
    (heads : link.Heads scene uri state) (steps : .zero < link.options.connectInterval)
    (fuel : Nat) (limit : Option Deadline) :
    let connect limit := scene.perform (link.connect scene.surroundings fuel limit) state
    let time := link.timeFor (scene.clock state) limit
    (limit ≠ none ∧ ¬ Deadline.InReach (scene.clock state) link.options.connectWait →
      (connect limit).outcome = .error .overflow ∧ (connect limit).done.creations = []) ∧
    (limit = none ∨ Deadline.InReach (scene.clock state) link.options.connectWait →
      (connect limit).done.creations = [(uri, link.setup)] ∧
      (∀ (before after : Log) (channel : Nat) (result : Except ChannelFailure Unit),
        (connect limit).done = before ++ .opened channel result :: after →
          before.slept = link.options.waited time before.openings.length) ∧
      ∀ results, (connect limit).done.GoesBy results →
        (link.options.mostTries ≠ none ∨ limit ≠ none ∨ (∃ k, ¬ Connect.Passing results k) →
          ∃ last ending, Connect.Ends link.options uri time results last ending) ∧
        ∀ last ending, Connect.Ends link.options uri time results last ending →
          (fuel ≤ last → (connect limit).outcome = .error .unfinished) ∧
          (last < fuel → (connect limit).Connects link time results last ending ∧
            ((∀ attempts reason, ending ≠ .error (.connectTimeout uri attempts reason)) →
              (connect none).done.GoesBy results →
                (connect none).outcome = (connect limit).outcome ∧
                (connect none).done.openings = (connect limit).done.openings))) := by
  intro connect time
  obtain ⟨channel, locator, goes⟩ := Link.connect_by_results running heads steps
  constructor
  · intro ⟨limited, far⟩
    exact Link.connect_far heads fuel limited far
  · intro near
    obtain ⟨creations, waits, settles⟩ := goes fuel limit near
    refine ⟨creations, waits, fun results goesBy => ⟨fun finite => ?_, fun last ending ends => ?_⟩⟩
    · refine Connect.exists_ends _ uri time results (finite.imp_right (Or.imp_left ?_))
      exact fun limited none => limited (Option.map_eq_none_iff.mp none)
    · obtain ⟨unfinished, finished⟩ := settles results last ending goesBy ends
      refine ⟨unfinished, fun less => ?_⟩
      obtain ⟨outcome, openings, slept⟩ := finished less
      refine ⟨.of_opened steps ends outcome openings slept, fun inTime unlimited => ?_⟩
      obtain ⟨-, -, freely⟩ := goes fuel none (.inl rfl)
      obtain ⟨same, alike, -⟩ := (freely results last ending unlimited (ends.unlimited inTime)).2 less
      exact ⟨same.trans outcome.symm, alike.trans openings.symm⟩

def Script.refusing : Script where
  hasRegistry := false
  login _ := .ok .anonymous
  lookups _ := .ok []
  opens _ := .error (.notOpen "refused")
  answers _ := .ok (.ofCode .ok)

def Link.eager (wait : Duration) : Link Nat where
  locator := .direct "http://scheduler:8081"
  login := .anonymous
  options := { connectWait := wait }

theorem Link.eager_heads (wait : Duration) :
    (eager wait).Heads Script.refusing.scene "http://scheduler:8081/api" [] :=
  ⟨rfl, _, _, _, rfl, rfl⟩

theorem Link.eager_triesIn (wait : Duration) :
    (eager wait).options.triesIn (.ofMillis 3500) = 5 := by
  change (eager .zero).options.triesIn (.ofMillis 3500) = 5
  decide +kernel

theorem Link.eager_ends (wait : Duration) :
    Connect.Ends (eager wait).options "http://scheduler:8081/api" (some (.ofMillis 3500))
      Script.refusing.opens 4 (.error (.connectTimeout "http://scheduler:8081/api" 5
        (ChannelFailure.notOpen "refused").message)) where
  failed _ _ := ⟨_, rfl, rfl⟩
  allowed := nofun
  inTime most bound := by
    rw [Option.map_some, eager_triesIn] at bound
    cases bound
    decide
  ending := .late rfl nofun (congrArg some (eager_triesIn wait))

theorem eager_link_makes_five_attempts :
    let scene := Script.refusing.scene
    let performed := scene.perform
      ((Link.eager (.ofSeconds 60)).connect scene.surroundings 9 (some ⟨.ofMillis 3500⟩)) []
    performed.done.openings.length = 5 ∧ performed.done.slept = .ofMillis 3500 ∧
      ∃ after reason, performed.outcome =
        .ok (.error (.connectTimeout "http://scheduler:8081/api" 5 reason), after) ∧
        after.epoch = 0 := by
  intro scene performed
  have goesBy : performed.done.GoesBy Script.refusing.opens :=
    Link.goesBy_of_steady (fun _ _ => rfl) (Link.eager_heads _) 9 _
  have time : (Link.eager (.ofSeconds 60)).timeFor (scene.clock []) (some ⟨.ofMillis 3500⟩) =
      some (.ofMillis 3500) := by
    decide +kernel
  have connects := connecting_goes_by_results scene (fun _ => rfl) (Link.eager_heads (.ofSeconds 60))
    (by decide) 9 (some ⟨.ofMillis 3500⟩)
  rw [time] at connects
  obtain ⟨-, -, settles⟩ := connects.2 (.inr (by decide +kernel))
  obtain ⟨reached, -⟩ := ((settles _ goesBy).2 4 _ (Link.eager_ends _)).2 (by decide)
  obtain ⟨after, outcome, -, epoch⟩ := reached.fails _ rfl
  refine ⟨?_, ?_, after, _, outcome, epoch⟩
  · rw [reached.openings, List.length_map, List.length_range]
  · exact (Option.some.inj (reached.late _ _ _ rfl).2).symm

/-- A link that may connect for ever has the same time for a call, and does not even create a
channel. -/
theorem boundless_link_creates_no_channel :
    let scene := Script.refusing.scene
    let link := Link.eager .longest
    let limit : Option Deadline := some ⟨.ofMillis 3500⟩
    let performed := scene.perform (link.connect scene.surroundings 9 limit) []
    link.Heads scene "http://scheduler:8081/api" [] ∧
      Connect.Ends link.options "http://scheduler:8081/api" (link.timeFor (scene.clock []) limit)
        Script.refusing.opens 4 (.error (.connectTimeout "http://scheduler:8081/api" 5
          (ChannelFailure.notOpen "refused").message)) ∧
      performed.done.creations ≠ [("http://scheduler:8081/api", link.setup)] ∧
      performed.outcome = .error .overflow := by
  intro scene link limit performed
  have far : ¬ Deadline.InReach (scene.clock []) link.options.connectWait := by
    decide +kernel
  obtain ⟨overflows, none⟩ : performed.outcome = .error .overflow ∧ performed.done.creations = [] :=
    Link.connect_far (Link.eager_heads .longest) 9 nofun far
  have time : link.timeFor (scene.clock []) limit = some (.ofMillis 3500) := by
    decide +kernel
  refine ⟨Link.eager_heads .longest, ?_, ?_, overflows⟩
  · rw [time]
    exact Link.eager_ends .longest
  · rw [none]
    nofun

end SchedulerLink
