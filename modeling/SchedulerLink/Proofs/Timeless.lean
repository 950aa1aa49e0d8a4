import SchedulerLink.Proofs.Attempting

/-!
Scenes on which the time makes no difference.

Two states of such a scene are alike if they differ in the time and in the pauses that were made.
Whatever is done in them but asking for the time comes to the same. A script that is answered from
whatever the time is such a scene.
-/

namespace SchedulerLink

variable {σ α β : Type}

def Entry.isDeed : Entry → Bool
  | .slept _ => false
  | _ => true

namespace Log

def deeds (log : Log) : Log := log.filter Entry.isDeed

@[simp] theorem deeds_append (one other : Log) : deeds (one ++ other) = one.deeds ++ other.deeds :=
  List.filter_append ..

end Log

/-- Whether something comes to the same in states alike, and leaves them alike. -/
def Run.Respects (alike : σ → σ → Prop) (program : Run (StateM σ) α) : Prop :=
  ∀ one other, alike one other →
    (program.play one).1 = (program.play other).1 ∧
      alike (program.play one).2 (program.play other).2

/-- A scene on which nothing is abandoned and what is done does not depend on the time. -/
structure Scene.Timeless (scene : Scene σ) (alike : σ → σ → Prop) : Prop where
  running (state : σ) : scene.stopping state = false
  refl (state : σ) : alike state state
  pause (span longer : Duration) {one other : σ} (same : alike one other) :
    alike ((scene.surroundings.pause span).run one).2
      ((scene.surroundings.pause longer).run other).2
  lookup (target : RegistryTarget) (patience : Duration) :
    Run.Respects alike (scene.surroundings.lookup target patience)
  create (uri : String) (setup : ChannelSetup) :
    Run.Respects alike (liftM (scene.surroundings.create uri setup))
  openChannel (channel : Nat) :
    Run.Respects alike (liftM (scene.surroundings.openChannel channel))
  closeChannel (channel : Nat) :
    Run.Respects alike (liftM (scene.surroundings.closeChannel channel))
  adopt (channel : Nat) : Run.Respects alike (liftM (scene.surroundings.adopt channel))
  call (channel : Nat) (sequence : Int32) (method : Method) (arguments : List Json) :
    Run.Respects alike (scene.surroundings.call channel sequence method arguments)
  deeds {one other : σ} (same : alike one other) :
    (scene.log one).deeds = (scene.log other).deeds

section Steady

variable {scene : Scene σ} {alike : σ → σ → Prop}

namespace Scene

structure IsSteady (scene : Scene σ) (alike : σ → σ → Prop) (program : Run (StateM σ) α) :
    Prop where
  respects : Run.Respects alike program
  still (state : σ) : scene.clock (program.play state).2 = scene.clock state

namespace IsSteady

variable {program : Run (StateM σ) α}

theorem plays (steady : scene.IsSteady alike program) {one other : σ} (same : alike one other) :
    ∃ outcome next later, program.play one = (outcome, next) ∧
      program.play other = (outcome, later) ∧ alike next later ∧
      scene.clock next = scene.clock one ∧ scene.clock later = scene.clock other := by
  obtain ⟨outcomes, states⟩ := steady.respects one other same
  exact ⟨(program.play one).1, (program.play one).2, (program.play other).2, rfl,
    Prod.ext outcomes.symm rfl, states, steady.still one, steady.still other⟩

theorem pure (value : α) : scene.IsSteady alike (pure value) where
  respects _ _ same := ⟨rfl, same⟩
  still _ := rfl

theorem bind {next : α → Run (StateM σ) β} (first : scene.IsSteady alike program)
    (second : ∀ value, scene.IsSteady alike (next value)) :
    scene.IsSteady alike (program >>= next) where
  respects one other same := by
    obtain ⟨outcome, middle, later, begins, begun, same, _, _⟩ := first.plays same
    cases outcome with
    | error halt =>
      rw [Run.play_bind_error begins, Run.play_bind_error begun]
      exact ⟨rfl, same⟩
    | ok value =>
      rw [Run.play_bind_ok begins, Run.play_bind_ok begun]
      exact (second value).respects middle later same
  still state := by
    have begins := first.still state
    rcases plays : program.play state with ⟨halt | value, middle⟩
    all_goals
      rw [plays] at begins
    · rw [Run.play_bind_error plays]
      exact begins
    · rw [Run.play_bind_ok plays, (second value).still middle]
      exact begins

end IsSteady

namespace Timeless

theorem lookup_steady (timeless : scene.Timeless alike) (target : RegistryTarget)
    (patience : Duration) : scene.IsSteady alike (scene.surroundings.lookup target patience) :=
  ⟨timeless.lookup target patience, scene.lookup_clock target patience⟩

theorem create_steady (timeless : scene.Timeless alike) (uri : String) (setup : ChannelSetup) :
    scene.IsSteady alike (liftM (scene.surroundings.create uri setup)) :=
  ⟨timeless.create uri setup, scene.create_clock uri setup⟩

theorem open_steady (timeless : scene.Timeless alike) (channel : Nat) :
    scene.IsSteady alike (liftM (scene.surroundings.openChannel channel)) :=
  ⟨timeless.openChannel channel, scene.open_clock channel⟩

theorem close_steady (timeless : scene.Timeless alike) (channel : Nat) :
    scene.IsSteady alike (liftM (scene.surroundings.closeChannel channel)) :=
  ⟨timeless.closeChannel channel, scene.close_clock channel⟩

theorem adopt_steady (timeless : scene.Timeless alike) (channel : Nat) :
    scene.IsSteady alike (liftM (scene.surroundings.adopt channel)) :=
  ⟨timeless.adopt channel, scene.adopt_clock channel⟩

theorem call_steady (timeless : scene.Timeless alike) (channel : Nat) (sequence : Int32)
    (method : Method) (arguments : List Json) :
    scene.IsSteady alike (scene.surroundings.call channel sequence method arguments) :=
  ⟨timeless.call channel sequence method arguments,
    scene.call_clock channel sequence method arguments⟩

end Timeless

end Scene

/-! What a link does besides connecting. -/

theorem Locator.rawUrl_steady (timeless : scene.Timeless alike) (locator : Locator) :
    scene.IsSteady alike (locator.rawUrl scene.surroundings) := by
  cases locator with
  | direct uri => exact .pure _
  | registry locator =>
    apply Scene.IsSteady.bind
    · unfold RegistryLocator.rawUrl
      cases locator.found with
      | some url => exact .pure _
      | none =>
        apply (timeless.lookup_steady _ _).bind
        intro answer
        cases locator.leader answer with
        | error failure => exact .pure _
        | ok url => exact .pure _
    · exact fun _ => .pure _

theorem Link.send_steady (timeless : scene.Timeless alike) (link : Link Nat)
    (connection : Connection Nat) (method : Method) (arguments : List Json) :
    scene.IsSteady alike (link.send scene.surroundings connection method arguments) := by
  apply (timeless.call_steady _ _ _ _).bind
  exact fun _ => .pure _

theorem Link.close_steady (timeless : scene.Timeless alike) (link : Link Nat) :
    scene.IsSteady alike (link.close scene.surroundings) := by
  unfold close
  cases link.connection with
  | none => exact .pure _
  | some connection =>
    apply (timeless.close_steady connection.channel).bind
    exact fun _ => .pure _

theorem Link.invalidate_steady (timeless : scene.Timeless alike) (link : Link Nat) :
    scene.IsSteady alike (link.invalidate scene.surroundings) := by
  apply (link.close_steady timeless).bind
  exact fun _ => .pure _

end Steady

/-! Scripts. -/

/-- Answers to whatever is asked, each kind in a sequence of its own that never ends. -/
structure Script where
  hasRegistry : Bool
  login : String → Except LoginError Login
  lookups : Nat → Except DiscoveryFailure (List Member)
  opens : Nat → Except ChannelFailure Unit
  answers : Nat → Except CallFailure Response

namespace Script

def give (answer : Log → α) (entry : α → Entry) : StateM Log α :=
  modifyGet fun log => (answer log, log ++ [entry (answer log)])

def note (entry : Entry) : StateM Log Unit := give (fun _ => ()) fun _ => entry

def surroundings (script : Script) : Surroundings (StateM Log) Nat where
  now := do pure (← get).slept
  pause span := note (.slept span)
  isStopping := pure false
  hasRegistry := script.hasRegistry
  lookup target patience := ExceptT.lift <|
    give (fun log => script.lookups log.lookups.length)
      fun answer => .lookedUp target.path patience (.ok answer)
  create uri setup :=
    give (fun log => log.creations.length) fun channel => .created channel uri setup
  openChannel channel := give (fun log => script.opens log.openings.length) (.opened channel)
  closeChannel channel := note (.closed channel true)
  adopt channel := note (.adopted channel)
  call channel sequence method arguments := ExceptT.lift <|
    give (fun log => script.answers log.calls.length)
      fun answer => .called channel sequence method arguments (.ok answer)
  login := script.login

theorem slept_note (log : Log) {entry : Entry} (still : Log.pauses [entry] = []) :
    Log.slept (log ++ [entry]) = log.slept := by
  apply Duration.nanos_injective
  rw [Log.nanos_slept_append, Log.slept_cons_of_pauses [] still]
  rfl

def scene (script : Script) : Scene Log where
  surroundings := script.surroundings
  clock := Log.slept
  stopping _ := false
  log log := log
  now_run _ := rfl
  isStopping_run _ := rfl
  pause_clock span log := Duration.nanos_injective (Log.nanos_slept_append log [.slept span])
  pause_log _ _ := rfl
  lookup_clock _ _ log := slept_note log rfl
  lookup_log _ _ _ := rfl
  create_clock _ _ log := slept_note log rfl
  create_log _ _ _ := rfl
  open_clock _ log := slept_note log rfl
  open_log _ _ := rfl
  close_clock _ log := slept_note log rfl
  close_log _ _ := ⟨true, rfl⟩
  adopt_clock _ log := slept_note log rfl
  adopt_log _ _ := rfl
  call_clock _ _ _ _ log := slept_note log rfl
  call_log _ _ _ _ _ := rfl

end Script

theorem Log.filterMap_deeds {pick : Entry → Option α} (passes : ∀ span, pick (.slept span) = none)
    (log : Log) : log.deeds.filterMap pick = log.filterMap pick := by
  rw [deeds, List.filterMap_filter]
  congr 1
  funext entry
  cases entry with
  | slept span => simp only [Entry.isDeed, Bool.false_eq_true, ↓reduceIte, passes]
  | _ => rfl

theorem Log.length_eq_of_deeds {pick : Entry → Option α}
    (passes : ∀ span, pick (.slept span) = none) {one other : Log}
    (same : one.deeds = other.deeds) :
    (one.filterMap pick).length = (other.filterMap pick).length := by
  rw [← filterMap_deeds passes one, ← filterMap_deeds passes other, same]

namespace Script

theorem give_respects (answer : Log → α) (entry : α → Entry)
    (steady : ∀ one other : Log, one.deeds = other.deeds → answer one = answer other) :
    Run.Respects (fun one other : Log => one.deeds = other.deeds) (liftM (give answer entry)) := by
  intro one other same
  have answers := steady one other same
  refine ⟨congrArg Except.ok answers, ?_⟩
  change Log.deeds (one ++ [_]) = Log.deeds (other ++ [_])
  rw [Log.deeds_append, Log.deeds_append, same, answers]

/-- A script goes by what was done before, whatever the time. -/
theorem timeless (script : Script) :
    script.scene.Timeless fun one other => one.deeds = other.deeds where
  running _ := rfl
  refl _ := rfl
  pause span longer one other same := by
    change Log.deeds (one ++ [Entry.slept span]) = Log.deeds (other ++ [Entry.slept longer])
    rw [Log.deeds_append, Log.deeds_append, same]
    rfl
  lookup target patience :=
    give_respects _ (fun answer => .lookedUp target.path patience (.ok answer)) fun _ _ same =>
      congrArg script.lookups (Log.length_eq_of_deeds (fun _ => rfl) same)
  create uri setup :=
    give_respects _ (fun channel => .created channel uri setup) fun _ _ same =>
      Log.length_eq_of_deeds (fun _ => rfl) same
  openChannel channel :=
    give_respects _ (.opened channel) fun _ _ same =>
      congrArg script.opens (Log.length_eq_of_deeds (fun _ => rfl) same)
  closeChannel channel :=
    give_respects (fun _ => ()) (fun _ => .closed channel true) fun _ _ _ => rfl
  adopt channel := give_respects (fun _ => ()) (fun _ => .adopted channel) fun _ _ _ => rfl
  call channel sequence method arguments :=
    give_respects _ (fun answer => .called channel sequence method arguments (.ok answer))
      fun _ _ same => congrArg script.answers (Log.length_eq_of_deeds (fun _ => rfl) same)
  deeds same := same

end Script

end SchedulerLink
