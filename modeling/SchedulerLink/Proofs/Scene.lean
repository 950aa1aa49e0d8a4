import SchedulerLink.Rehearsal.Log

/-!
Scenes: surroundings whose state tells what was done in it, what came of it, and what time it is.

Nothing is said about the answers that a scene gives. They may depend on all that was done before,
so what holds on every scene holds whatever channels, registries and peers do. Time passes on a
scene only when somebody pauses.
-/

namespace SchedulerLink

variable {σ α β : Type}

theorem StateM.run_bind_of {program : StateM σ α} {state next : σ} {value : α}
    (first : program.run state = (value, next)) (more : α → StateM σ β) :
    (program >>= more).run state = (more value).run next := by
  rw [StateT.run_bind, first]
  rfl

/-- What a computation comes to from a state, and the state after it. -/
def Run.play (program : Run (StateM σ) α) (state : σ) : Except Halt α × σ :=
  (ExceptT.run program).run state

@[simp] theorem Run.play_pure (value : α) (state : σ) :
    Run.play (pure value) state = (.ok value, state) := rfl

@[simp] theorem Run.play_lift (step : StateM σ α) (state : σ) :
    Run.play (liftM step) state = (.ok (step.run state).1, (step.run state).2) := rfl

theorem Run.play_bind (program : Run (StateM σ) α) (next : α → Run (StateM σ) β) (state : σ) :
    Run.play (program >>= next) state =
      match program.play state with
      | (.ok value, middle) => (next value).play middle
      | (.error halt, middle) => (.error halt, middle) := by
  simp only [Run.play, ExceptT.run_bind, StateT.run_bind]
  rcases (ExceptT.run program).run state with ⟨outcome, middle⟩
  cases outcome <;> rfl

theorem Run.play_bind_ok {program : Run (StateM σ) α} {next : α → Run (StateM σ) β}
    {state middle : σ} {value : α} (first : program.play state = (.ok value, middle)) :
    Run.play (program >>= next) state = (next value).play middle := by
  rw [play_bind, first]

theorem Run.play_bind_error {program : Run (StateM σ) α} {next : α → Run (StateM σ) β}
    {state middle : σ} {halt : Halt} (first : program.play state = (.error halt, middle)) :
    Run.play (program >>= next) state = (.error halt, middle) := by
  rw [play_bind, first]

theorem Run.play_view (program : Run (StateM σ) α) (view : α → β) (state : σ) :
    Run.play (program >>= fun value => pure (view value)) state =
      ((program.play state).1.map view, (program.play state).2) := by
  rw [play_bind]
  rcases program.play state with ⟨halt | value, middle⟩ <;> rfl

theorem Run.play_view_map {γ : Type} (program : Run (StateM σ) α) {view : α → β} {part : α → γ}
    {last : β → γ} (same : ∀ value, last (view value) = part value) (state : σ) :
    (Run.play (program >>= fun value => pure (view value)) state).1.map last =
      (program.play state).1.map part := by
  rw [play_view]
  cases (program.play state).1 with
  | error halt => rfl
  | ok value => exact congrArg Except.ok (same value)

namespace Duration

theorem nanos_injective {one other : Duration} (same : one.nanos = other.nanos) : one = other := by
  cases one
  cases other
  exact congrArg _ same

@[simp] theorem nanos_zero : zero.nanos = 0 := rfl

@[simp] theorem nanos_add (one other : Duration) : (one + other).nanos = one.nanos + other.nanos :=
  rfl

@[simp] theorem nanos_sub (one other : Duration) : (one - other).nanos = one.nanos - other.nanos :=
  rfl

@[simp] theorem nanos_min (one other : Duration) :
    (min one other).nanos = min one.nanos other.nanos := rfl

theorem le_iff_nanos {one other : Duration} : one ≤ other ↔ one.nanos ≤ other.nanos := Iff.rfl

theorem eq_zero_iff_nanos {span : Duration} : span = zero ↔ span.nanos = 0 :=
  ⟨fun same => by rw [same]; rfl, nanos_injective⟩

end Duration

namespace Log

def slept (log : Log) : Duration := log.pauses.foldr (· + ·) .zero

@[simp] theorem slept_nil : slept [] = .zero := rfl

@[simp] theorem nanos_slept_append (one other : Log) :
    (slept (one ++ other)).nanos = one.slept.nanos + other.slept.nanos := by
  have joined : pauses (one ++ other) = one.pauses ++ other.pauses := List.filterMap_append
  rw [slept, slept, slept, joined]
  induction one.pauses with
  | nil => simp
  | cons span rest ih =>
    simp only [List.cons_append, List.foldr_cons, Duration.nanos_add, ih]
    omega

@[simp] theorem nanos_slept_pause (span : Duration) (log : Log) :
    (slept (.slept span :: log)).nanos = span.nanos + log.slept.nanos := rfl

theorem slept_cons_of_pauses {entry : Entry} (log : Log) (still : pauses [entry] = []) :
    slept (entry :: log) = slept log := by
  have joined : pauses (entry :: log) = pauses [entry] ++ pauses log := by
    cases entry <;> rfl
  rw [slept, joined, still]
  rfl

theorem slept_le_of_prefix {before whole : Log} (part : before <+: whole) :
    before.slept ≤ whole.slept := by
  obtain ⟨after, rfl⟩ := part
  rw [Duration.le_iff_nanos, nanos_slept_append]
  omega

end Log

/-- Surroundings that can be watched. The log has an entry for everything that is done. -/
structure Scene (σ : Type) where
  surroundings : Surroundings (StateM σ) Nat
  clock : σ → Duration
  stopping : σ → Bool
  log : σ → Log
  now_run (state : σ) : surroundings.now.run state = (clock state, state)
  isStopping_run (state : σ) : surroundings.isStopping.run state = (stopping state, state)
  pause_clock (span : Duration) (state : σ) :
    clock ((surroundings.pause span).run state).2 = clock state + span
  pause_log (span : Duration) (state : σ) :
    log ((surroundings.pause span).run state).2 = log state ++ [.slept span]
  lookup_clock (target : RegistryTarget) (patience : Duration) (state : σ) :
    clock ((surroundings.lookup target patience).play state).2 = clock state
  lookup_log (target : RegistryTarget) (patience : Duration) (state : σ) :
    log ((surroundings.lookup target patience).play state).2 = log state ++
      [.lookedUp target.path patience ((surroundings.lookup target patience).play state).1]
  create_clock (uri : String) (setup : ChannelSetup) (state : σ) :
    clock ((surroundings.create uri setup).run state).2 = clock state
  create_log (uri : String) (setup : ChannelSetup) (state : σ) :
    log ((surroundings.create uri setup).run state).2 = log state ++
      [.created ((surroundings.create uri setup).run state).1 uri setup]
  open_clock (channel : Nat) (state : σ) :
    clock ((surroundings.openChannel channel).run state).2 = clock state
  open_log (channel : Nat) (state : σ) :
    log ((surroundings.openChannel channel).run state).2 = log state ++
      [.opened channel ((surroundings.openChannel channel).run state).1]
  close_clock (channel : Nat) (state : σ) :
    clock ((surroundings.closeChannel channel).run state).2 = clock state
  close_log (channel : Nat) (state : σ) : ∃ wasOpen,
    log ((surroundings.closeChannel channel).run state).2 = log state ++ [.closed channel wasOpen]
  adopt_clock (channel : Nat) (state : σ) :
    clock ((surroundings.adopt channel).run state).2 = clock state
  adopt_log (channel : Nat) (state : σ) :
    log ((surroundings.adopt channel).run state).2 = log state ++ [.adopted channel]
  call_clock (channel : Nat) (sequence : Int32) (method : Method) (arguments : List Json)
    (state : σ) :
    clock ((surroundings.call channel sequence method arguments).play state).2 = clock state
  call_log (channel : Nat) (sequence : Int32) (method : Method) (arguments : List Json)
    (state : σ) :
    log ((surroundings.call channel sequence method arguments).play state).2 = log state ++
      [.called channel sequence method arguments
        ((surroundings.call channel sequence method arguments).play state).1]

structure Performance (σ α : Type) where
  outcome : Except Halt α
  stop : σ
  done : Log

namespace Scene

variable (scene : Scene σ)

def perform (program : Run (StateM σ) α) (state : σ) : Performance σ α :=
  { outcome := (program.play state).1
    stop := (program.play state).2
    done := (scene.log (program.play state).2).drop (scene.log state).length }

/-- From one state to the other, exactly the entries `done` were added, and no time passed but what
they say. -/
structure Passes (state : σ) (done : Log) (stop : σ) : Prop where
  log : scene.log stop = scene.log state ++ done
  clock : scene.clock stop = scene.clock state + done.slept

variable {scene} {state middle stop : σ} {done more : Log}

theorem Passes.nanos (passes : scene.Passes state done stop) :
    (scene.clock stop).nanos = (scene.clock state).nanos + done.slept.nanos :=
  congrArg Duration.nanos passes.clock

theorem Passes.still (passes : scene.Passes state done stop) (still : done.slept = .zero) :
    scene.clock stop = scene.clock state := by
  apply Duration.nanos_injective
  rw [passes.nanos, still]
  rfl

theorem Passes.refl (scene : Scene σ) (state : σ) : scene.Passes state [] state :=
  ⟨(List.append_nil _).symm, rfl⟩

theorem Passes.trans (first : scene.Passes state done middle)
    (second : scene.Passes middle more stop) : scene.Passes state (done ++ more) stop := by
  constructor
  · rw [second.log, first.log, List.append_assoc]
  · apply Duration.nanos_injective
    rw [second.nanos, first.nanos, Duration.nanos_add, Log.nanos_slept_append]
    omega

theorem perform_done {program : Run (StateM σ) α}
    (passes : scene.Passes state done (scene.perform program state).stop) :
    (scene.perform program state).done = done := by
  have log := passes.log
  rw [perform] at log ⊢
  simp only [log, List.drop_left]

theorem perform_eq {program : Run (StateM σ) α} {outcome : Except Halt α}
    (plays : program.play state = (outcome, stop)) (passes : scene.Passes state done stop) :
    scene.perform program state = ⟨outcome, stop, done⟩ := by
  simp only [perform, plays, passes.log, List.drop_left]

theorem Passes.of_still {entry : Entry} (clock : scene.clock stop = scene.clock state)
    (log : scene.log stop = scene.log state ++ [entry]) (still : Log.pauses [entry] = []) :
    scene.Passes state [entry] stop := by
  refine ⟨log, ?_⟩
  rw [Log.slept_cons_of_pauses [] still, clock]
  rfl

theorem pause_passes (scene : Scene σ) (span : Duration) (state : σ) :
    scene.Passes state [.slept span] ((scene.surroundings.pause span).run state).2 :=
  ⟨scene.pause_log span state, scene.pause_clock span state⟩

theorem lookup_passes {target : RegistryTarget} {patience : Duration}
    {answer : Except Halt (Except DiscoveryFailure (List Member))}
    (asked : (scene.surroundings.lookup target patience).play state = (answer, stop)) :
    scene.Passes state [.lookedUp target.path patience answer] stop := by
  have clock := scene.lookup_clock target patience state
  have log := scene.lookup_log target patience state
  rw [asked] at clock log
  exact .of_still clock log rfl

theorem create_passes {uri : String} {setup : ChannelSetup} {channel : Nat}
    (creates : (scene.surroundings.create uri setup).run state = (channel, stop)) :
    scene.Passes state [.created channel uri setup] stop := by
  have clock := scene.create_clock uri setup state
  have log := scene.create_log uri setup state
  rw [creates] at clock log
  exact .of_still clock log rfl

theorem open_passes {channel : Nat} {result : Except ChannelFailure Unit}
    (opens : (scene.surroundings.openChannel channel).run state = (result, stop)) :
    scene.Passes state [.opened channel result] stop := by
  have clock := scene.open_clock channel state
  have log := scene.open_log channel state
  rw [opens] at clock log
  exact .of_still clock log rfl

theorem close_passes (scene : Scene σ) (channel : Nat) (state : σ) : ∃ wasOpen,
    scene.Passes state [.closed channel wasOpen]
      ((scene.surroundings.closeChannel channel).run state).2 := by
  obtain ⟨wasOpen, log⟩ := scene.close_log channel state
  exact ⟨wasOpen, .of_still (scene.close_clock channel state) log rfl⟩

theorem adopt_passes (scene : Scene σ) (channel : Nat) (state : σ) :
    scene.Passes state [.adopted channel] ((scene.surroundings.adopt channel).run state).2 :=
  .of_still (scene.adopt_clock channel state) (scene.adopt_log channel state) rfl

theorem call_passes {channel : Nat} {sequence : Int32} {method : Method} {arguments : List Json}
    {answer : Except Halt (Except CallFailure Response)}
    (calls : (scene.surroundings.call channel sequence method arguments).play state =
      (answer, stop)) :
    scene.Passes state [.called channel sequence method arguments answer] stop := by
  have clock := scene.call_clock channel sequence method arguments state
  have log := scene.call_log channel sequence method arguments state
  rw [calls] at clock log
  exact .of_still clock log rfl

end Scene

end SchedulerLink
