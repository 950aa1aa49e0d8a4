import SchedulerLink.Proofs.Fuel
import SchedulerLink.Proofs.Resending

/-!
Calls that are abandoned.

Calls may be told to stop at any time, and are not told otherwise later. They look for that before
each attempt and between two attempts to open a channel, hence after every pause. So a call that is
told while it pauses does next to nothing more.
-/

namespace SchedulerLink

variable {σ : Type} {scene : Scene σ}

/-- A signal to abandon calls. Whether it has been given may depend on all that was done before. It
is not taken back. -/
structure Signal where
  isGiven : Log → Bool
  stays (log more : Log) (given : isGiven log = true) : isGiven (log ++ more) = true

def Scene.heeding (scene : Scene σ) (signal : Signal) : Scene σ :=
  { scene with
    surroundings := { scene.surroundings with
      isStopping := do pure (signal.isGiven (scene.log (← get))) }
    stopping := fun state => signal.isGiven (scene.log state)
    isStopping_run := fun _ => rfl }

/-- Whether the scene has calls abandoned when the signal was given. -/
def Signal.Heeded (signal : Signal) (scene : Scene σ) : Prop :=
  ∀ state, scene.stopping state = signal.isGiven (scene.log state)

theorem Signal.heeded_heeding (signal : Signal) (scene : Scene σ) :
    signal.Heeded (scene.heeding signal) := fun _ => rfl

/-- In what was done after a log, `rest` came after a pause at the end of which the signal was
given. -/
def Signal.Overtakes (signal : Signal) (log done rest : Log) : Prop :=
  ∃ before span, done = before ++ .slept span :: rest ∧
    signal.isGiven (log ++ before ++ [.slept span]) = true

namespace Signal

variable {signal : Signal} {log one other done rest : Log}

theorem Heeded.stopping_after {state stop : σ} (heeded : signal.Heeded scene)
    (passes : scene.Passes state done stop) :
    scene.stopping stop = signal.isGiven (scene.log state ++ done) := by
  rw [heeded, passes.log]

theorem Heeded.stays {state stop : σ} (heeded : signal.Heeded scene)
    (passes : scene.Passes state done stop) (stopping : scene.stopping state = true) :
    scene.stopping stop = true := by
  rw [heeded] at stopping
  rw [heeded.stopping_after passes]
  exact signal.stays _ _ stopping

namespace Overtakes

theorem given (overtakes : signal.Overtakes log done rest) :
    signal.isGiven (log ++ done) = true := by
  obtain ⟨before, span, rfl, given⟩ := overtakes
  have more := signal.stays _ rest given
  simpa only [List.append_assoc, List.cons_append, List.nil_append] using more

theorem stopping {state stop : σ} (heeded : signal.Heeded scene)
    (overtakes : signal.Overtakes (scene.log state) done rest)
    (passes : scene.Passes state done stop) : scene.stopping stop = true := by
  rw [heeded.stopping_after passes]
  exact overtakes.given

theorem ne_still (overtakes : signal.Overtakes log done rest) : done.pauses ≠ [] := by
  obtain ⟨before, span, rfl, _⟩ := overtakes
  rw [Log.pauses_append]
  exact List.append_ne_nil_of_right_ne_nil _ (List.cons_ne_nil span _)

/-- The pause is in the first part or in the second. -/
theorem split (one : Log) {other : Log} (overtakes : signal.Overtakes log (one ++ other) rest) :
    (∃ later, signal.Overtakes log one later ∧ rest = later ++ other) ∨
      signal.Overtakes (log ++ one) other rest := by
  obtain ⟨before, span, same, given⟩ := overtakes
  rcases List.append_eq_append_iff.mp same with ⟨front, rfl, cut⟩ | ⟨back, rfl, cut⟩
  · refine .inr ⟨front, span, cut, ?_⟩
    rwa [List.append_assoc log one front]
  · cases back with
    | nil => exact .inr ⟨[], span, cut.symm, by simpa using given⟩
    | cons entry later =>
      obtain ⟨rfl, rfl⟩ := List.cons.inj cut
      exact .inl ⟨later, ⟨before, span, rfl, given⟩, rfl⟩

theorem later (one : Log) (still : one.pauses = []) {other : Log}
    (overtakes : signal.Overtakes log (one ++ other) rest) :
    signal.Overtakes (log ++ one) other rest := by
  rcases overtakes.split _ with ⟨_, first, _⟩ | second
  · exact absurd still first.ne_still
  · exact second

theorem sooner (other : Log) (still : other.pauses = []) {one : Log}
    (overtakes : signal.Overtakes log (one ++ other) rest) :
    ∃ later, signal.Overtakes log one later ∧ rest = later ++ other := by
  rcases overtakes.split _ with first | second
  · exact first
  · exact absurd still second.ne_still

theorem pause {span : Duration} (overtakes : signal.Overtakes log (.slept span :: done) rest) :
    (signal.isGiven (log ++ [.slept span]) = true ∧ rest = done) ∨
      signal.Overtakes (log ++ [.slept span]) done rest := by
  rcases split [.slept span] overtakes with ⟨later, first, rfl⟩ | second
  · obtain ⟨before, _, same, given⟩ := first
    cases before with
    | nil =>
      cases same
      exact .inl ⟨by simpa using given, rfl⟩
    | cons entry before =>
      exact absurd (List.cons.inj same).2.symm (List.append_ne_nil_of_right_ne_nil _ (by simp))
  · exact .inr second

end Overtakes

end Signal

/-- Registries are left alone and no channel is created, and there is not more of the rest than is
said. -/
structure Log.Sparing (log : Log) (openings calls pauses : Nat) : Prop where
  lookups : log.lookups = []
  creations : log.creations = []
  openings : log.openings.length ≤ openings
  calls : log.calls.length ≤ calls
  pauses : log.pauses.length ≤ pauses

namespace Log.Sparing

variable {one other : Log} {openings calls pauses moreOpenings moreCalls morePauses : Nat}

theorem nil : Sparing [] 0 0 0 where
  lookups := rfl
  creations := rfl
  openings := Nat.le_refl 0
  calls := Nat.le_refl 0
  pauses := Nat.le_refl 0

theorem append (first : Sparing one openings calls pauses)
    (second : Sparing other moreOpenings moreCalls morePauses) :
    Sparing (one ++ other) (openings + moreOpenings) (calls + moreCalls) (pauses + morePauses) := by
  have lookups : Log.lookups (one ++ other) = one.lookups ++ other.lookups :=
    List.filterMap_append
  have creations : Log.creations (one ++ other) = one.creations ++ other.creations :=
    List.filterMap_append
  have joined : Log.openings (one ++ other) = one.openings ++ other.openings :=
    List.filterMap_append
  have called : Log.calls (one ++ other) = one.calls ++ other.calls := List.filterMap_append
  constructor
  · rw [lookups, first.lookups, second.lookups, List.append_nil]
  · rw [creations, first.creations, second.creations, List.append_nil]
  · rw [joined, List.length_append]
    exact Nat.add_le_add first.openings second.openings
  · rw [called, List.length_append]
    exact Nat.add_le_add first.calls second.calls
  · rw [Log.pauses_append, List.length_append]
    exact Nat.add_le_add first.pauses second.pauses

theorem mono (first : Sparing one openings calls pauses) (wider : openings ≤ moreOpenings)
    (longer : calls ≤ moreCalls) (slower : pauses ≤ morePauses) :
    Sparing one moreOpenings moreCalls morePauses where
  lookups := first.lookups
  creations := first.creations
  openings := Nat.le_trans first.openings wider
  calls := Nat.le_trans first.calls longer
  pauses := Nat.le_trans first.pauses slower

theorem opened (channel : Nat) (result : Except ChannelFailure Unit) :
    Sparing [.opened channel result] 1 0 0 where
  lookups := rfl
  creations := rfl
  openings := Nat.le_refl 1
  calls := Nat.le_refl 0
  pauses := Nat.le_refl 0

theorem adopted (channel : Nat) : Sparing [.adopted channel] 0 0 0 where
  lookups := rfl
  creations := rfl
  openings := Nat.le_refl 0
  calls := Nat.le_refl 0
  pauses := Nat.le_refl 0

theorem called (channel : Nat) (sequence : Int32) (method : Method) (arguments : List Json)
    (answer : Except Halt (Except CallFailure Response)) :
    Sparing [.called channel sequence method arguments answer] 0 1 0 where
  lookups := rfl
  creations := rfl
  openings := Nat.le_refl 0
  calls := Nat.le_refl 1
  pauses := Nat.le_refl 0

theorem slept (span : Duration) : Sparing [.slept span] 0 0 1 where
  lookups := rfl
  creations := rfl
  openings := Nat.le_refl 0
  calls := Nat.le_refl 0
  pauses := Nat.le_refl 1

end Log.Sparing

theorem Releasing.sparing {state stop : σ} {connection : Option (Connection Nat)} {done : Log}
    (releasing : Releasing scene state connection done stop) : done.Sparing 0 0 0 := by
  cases releasing with
  | idle => exact .nil
  | @closed connection wasOpen _ =>
    cases wasOpen <;> exact ⟨rfl, rfl, Nat.le_refl 0, Nat.le_refl 0, Nat.le_refl 0⟩

/-! What is still done once the signal was given. -/

/-- What opening a channel may come to that was overtaken by the signal, with what was done then. -/
inductive LateOpening (rest : Log) : Except Halt (Except LinkFailure Unit) → Prop where
  | cutShort : LateOpening rest (.error .unfinished)
  | opened : LateOpening rest (.ok (.ok ()))
  | interrupted {uri : String} : LateOpening rest (.ok (.error (.interrupted uri)))
  | refused {channel : Nat} {failure : ChannelFailure} {uri reason : String}
    (last : .opened channel (.error failure) ∈ rest) :
    LateOpening rest (.ok (.error (.notConnected uri reason)))

theorem Connect.verdict_stopping {options : LinkOptions} {uri : String} {window : Deadline}
    {attempts : Nat} {failure : ChannelFailure} {now : Duration}
    {after : Except LinkFailure Duration}
    (verdict : verdict options uri (some window) attempts failure true now = after) :
    after = .error (.interrupted uri) ∨ ∃ reason, after = .error (.notConnected uri reason) := by
  subst verdict
  unfold Connect.verdict
  split
  · exact .inr ⟨_, rfl⟩
  split
  · exact .inr ⟨_, rfl⟩
  · exact .inl rfl

theorem Opening.late {signal : Signal} (heeded : signal.Heeded scene) {options : LinkOptions}
    {uri : String} {window : Deadline} {channel failed : Nat} {state stop : σ} {done : Log}
    {outcome : Except Halt (Except LinkFailure Unit)} (stopping : scene.stopping state = true)
    (opening : Opening scene options uri (some window) channel failed state done outcome stop) :
    done.Sparing 1 0 0 ∧ LateOpening done outcome := by
  cases opening with
  | unfinished =>
    have sparing := Log.Sparing.nil.mono (Nat.zero_le 1) (Nat.le_refl 0) (Nat.le_refl 0)
    exact ⟨sparing, .cutShort⟩
  | opened _ => exact ⟨.opened _ _, .opened⟩
  | givenUp fails verdict =>
    rw [heeded.stays (Scene.open_passes fails) stopping] at verdict
    refine ⟨.opened _ _, ?_⟩
    rcases Connect.verdict_stopping verdict with same | ⟨reason, same⟩
    · cases same
      exact .interrupted
    · cases same
      exact .refused List.mem_cons_self
  | again fails verdict _ =>
    rw [heeded.stays (Scene.open_passes fails) stopping] at verdict
    rcases Connect.verdict_stopping verdict with same | ⟨_, same⟩ <;> cases same

theorem Opening.overtaken {signal : Signal} (heeded : signal.Heeded scene) {options : LinkOptions}
    {uri : String} {window : Deadline} {channel failed : Nat} {state stop : σ} {done rest : Log}
    {outcome : Except Halt (Except LinkFailure Unit)}
    (opening : Opening scene options uri (some window) channel failed state done outcome stop)
    (overtakes : signal.Overtakes (scene.log state) done rest) :
    rest.Sparing 1 0 0 ∧ LateOpening rest outcome := by
  -- The signal is given in the first pause, or it overtakes the rest of the opening.
  induction opening with
  | unfinished => exact absurd rfl overtakes.ne_still
  | opened _ => exact absurd rfl overtakes.ne_still
  | givenUp _ _ => exact absurd rfl overtakes.ne_still
  | @again _ state next _ _ pause later _ fails _ opening ih =>
    have passes := Scene.open_passes fails
    have rests := passes.trans (scene.pause_passes pause next)
    have paused := overtakes.later [_] rfl
    rcases paused.pause with ⟨given, rfl⟩ | later
    · apply opening.late heeded
      rw [heeded.stopping_after rests, ← List.append_assoc]
      exact given
    · apply ih
      rw [rests.log, ← List.append_assoc]
      exact later

def Link.cameTo {α : Type} (outcome : Except Halt (Except LinkFailure α × Link Nat)) :
    Except Halt (Except LinkFailure Unit) :=
  outcome.map fun result => result.1.map fun _ => ()

theorem Reaching.overtaken {signal : Signal} (heeded : signal.Heeded scene) {deadline : Deadline}
    {link : Link Nat} {base : String} {state stop : σ} {done rest : Log}
    {outcome : Except Halt (Except LinkFailure (Connection Nat) × Link Nat)}
    (reaching : Reaching scene (some deadline) link base state done outcome stop)
    (overtakes : signal.Overtakes (scene.log state) done rest) :
    rest.Sparing 1 0 0 ∧ LateOpening rest (Link.cameTo outcome) := by
  have opening_overtaken : ∀ {uri : String} {window : Option Deadline} {channel : Nat}
      {next last : σ} {tried later : Log} {result : Except Halt (Except LinkFailure Unit)},
      link.window? (scene.clock state) (some deadline) = some window →
      (scene.surroundings.create uri link.setup).run state = (channel, next) →
      Opening scene link.options uri window channel 0 next tried result last →
      signal.Overtakes (scene.log state ++ [.created channel uri link.setup]) tried later →
      later.Sparing 1 0 0 ∧ LateOpening later result := by
    intro uri window channel next last tried later result opens creates opening overtakes
    rw [← (Scene.create_passes creates).log] at overtakes
    obtain ⟨window, _, rfl⟩ := Option.map_eq_some_iff.mp opens
    exact opening.overtaken heeded overtakes
  cases reaching with
  | misaddressed _ => exact absurd rfl overtakes.ne_still
  | overflow _ _ => exact absurd rfl overtakes.ne_still
  | halted _ window creates opening =>
    exact opening_overtaken window creates opening (overtakes.later [_] rfl)
  | unopened _ window creates opening =>
    exact opening_overtaken window creates opening (overtakes.later [_] rfl)
  | connected _ window creates opening =>
    have overtakes := overtakes.later [_] rfl
    obtain ⟨later, tried, rfl⟩ := overtakes.sooner [_] rfl
    obtain ⟨sparing, _⟩ := opening_overtaken window creates opening tried
    exact ⟨sparing.append (.adopted _), .opened⟩

theorem Connecting.overtaken {signal : Signal} (heeded : signal.Heeded scene) {deadline : Deadline}
    {link : Link Nat} {state stop : σ} {done rest : Log}
    {outcome : Except Halt (Except LinkFailure (Connection Nat) × Link Nat)}
    (connecting : Connecting scene (some deadline) link state done outcome stop)
    (overtakes : signal.Overtakes (scene.log state) done rest) :
    rest.Sparing 1 0 0 ∧ LateOpening rest (Link.cameTo outcome) := by
  have still : ∀ {locator : Locator} {found : Log} {middle : σ}
      {located : Except Halt (Except LinkFailure String × Locator)},
      Locating scene state locator found located middle → found.pauses = [] := by
    intro locator found middle located locating
    cases locating <;> rfl
  cases connecting with
  | held _ => exact absurd rfl overtakes.ne_still
  | halted _ locating => exact absurd (still locating) overtakes.ne_still
  | unlocated _ locating => exact absurd (still locating) overtakes.ne_still
  | reached _ locating reaching =>
    have overtakes := overtakes.later _ (still locating)
    rw [← locating.passes.log] at overtakes
    exact reaching.overtaken heeded overtakes

/-- How the last thing that is done decides what a call comes to: a channel cannot be opened, or the
scheduler has answered, or the call cannot be repeated. -/
inductive Entry.Settles (method : Method) (repeatable : Bool) (cluster : String) :
    Entry → Except Halt (Except SessionFailure Response) → Prop where
  | unopened {channel : Nat} {failure : ChannelFailure} {uri reason : String} :
    Settles method repeatable cluster (.opened channel (.error failure))
      (.ok (.error (.unreachable method cluster (.notConnected uri reason))))
  | answered {channel : Nat} {sequence : Int32} {arguments : List Json}
    {result : Except CallFailure Response} {response : Response}
    (success : Outcome.ofResult result repeatable = .success response) :
    Settles method repeatable cluster (.called channel sequence method arguments (.ok result))
      (.ok (.ok response))
  | refused {channel : Nat} {sequence : Int32} {arguments : List Json}
    {result : Except CallFailure Response} {reason advice : String}
    (refused : Outcome.ofResult result repeatable = .refused reason) :
    Settles method repeatable cluster (.called channel sequence method arguments (.ok result))
      (.ok (.error (.refused method advice)))
  | disconnected {channel : Nat} {sequence : Int32} {arguments : List Json}
    {result : Except CallFailure Response} {failure : ChannelFailure}
    (permanent : Outcome.ofResult result repeatable = .permanent (.channel failure)) :
    Settles method repeatable cluster (.called channel sequence method arguments (.ok result))
      (.ok (.error (.disconnected method failure)))
  | failed {channel : Nat} {sequence : Int32} {arguments : List Json}
    {result : Except CallFailure Response} {failure : CallFailure}
    (permanent : Outcome.ofResult result repeatable = .permanent failure)
    (other : ∀ fault, failure ≠ .channel fault) :
    Settles method repeatable cluster (.called channel sequence method arguments (.ok result))
      (.ok (.error (.failed method failure)))
  | halted {channel : Nat} {sequence : Int32} {arguments : List Json} {halt : Halt} :
    Settles method repeatable cluster (.called channel sequence method arguments (.error halt))
      (.error halt)

theorem Entry.Settles.of_ofResult {call : PendingCall} {advice : String}
    {result : Except CallFailure Response} {value : Except SessionFailure Response}
    (finished : Attempt.ofResult call advice result = .finished value) (channel : Nat)
    (sequence : Int32) (cluster : String) :
    (Entry.called channel sequence call.method call.arguments (.ok result)).Settles call.method
      call.repeatable cluster (.ok value) := by
  unfold Attempt.ofResult at finished
  split at finished <;> cases finished
  · rename_i success
    exact .answered success
  · rename_i refused
    exact .refused refused
  · rename_i permanent
    exact .disconnected permanent
  · rename_i other permanent
    exact .failed permanent other

theorem Entry.Settles.isOfAttempt {method : Method} {repeatable : Bool} {cluster : String}
    {entry : Entry} {failure : SessionFailure}
    (settles : entry.Settles method repeatable cluster (.ok (.error failure))) :
    failure.isOfAttempt = true := by
  cases settles <;> rfl

/-- What an attempt may come to that was overtaken by the signal. -/
inductive LateAttempt (call : PendingCall) (cluster : String) (rest : Log) :
    Except Halt (Attempt × Session Nat) → Prop where
  | cutShort : LateAttempt call cluster rest (.error .unfinished)
  | halted {entry : Entry} {halt : Halt} (last : entry ∈ rest)
    (settles : entry.Settles call.method call.repeatable cluster (.error halt)) :
    LateAttempt call cluster rest (.error halt)
  | finished {entry : Entry} {value : Except SessionFailure Response} {after : Session Nat}
    (last : entry ∈ rest)
    (settles : entry.Settles call.method call.repeatable cluster (.ok value)) :
    LateAttempt call cluster rest (.ok (.finished value, after))
  | open {attempt : Attempt} {after : Session Nat} (unfinished : attempt.isFinished = false) :
    LateAttempt call cluster rest (.ok (attempt, after))

theorem Attempting.overtaken {signal : Signal} (heeded : signal.Heeded scene) {call : PendingCall}
    {session : Session Nat} {state stop : σ} {done rest : Log}
    {outcome : Except Halt (Attempt × Session Nat)}
    (attempting : Attempting scene call session state done outcome stop)
    (overtakes : signal.Overtakes (scene.log state) done rest) :
    rest.Sparing 1 1 0 ∧ LateAttempt call session.cluster.name rest outcome := by
  have briefly : ∀ {log : Log}, log.Sparing 1 0 0 → log.Sparing 1 1 0 :=
    fun sparing => sparing.mono (Nat.le_refl 1) (Nat.zero_le 1) (Nat.le_refl 0)
  cases attempting with
  | unbuilt _ => exact absurd rfl overtakes.ne_still
  | halted _ connecting =>
    obtain ⟨sparing, late⟩ := connecting.overtaken heeded overtakes
    cases late
    exact ⟨briefly sparing, .cutShort⟩
  | interrupted _ connecting =>
    obtain ⟨sparing, _⟩ := connecting.overtaken heeded overtakes
    exact ⟨briefly sparing, .open rfl⟩
  | tooLate _ connecting =>
    obtain ⟨_, late⟩ := connecting.overtaken heeded overtakes
    cases late
  | unreachable _ final connecting =>
    obtain ⟨sparing, late⟩ := connecting.overtaken heeded overtakes
    refine ⟨briefly sparing, ?_⟩
    cases late with
    | interrupted => cases final
    | refused last => exact .finished last .unopened
  | callHalted _ connecting _ =>
    obtain ⟨later, connected, rfl⟩ := overtakes.sooner [_] rfl
    obtain ⟨sparing, _⟩ := connecting.overtaken heeded connected
    refine ⟨sparing.append (.called _ _ _ _ _), ?_⟩
    exact .halted (List.mem_append_right _ List.mem_cons_self) .halted
  | answered _ connecting _ success =>
    obtain ⟨later, connected, rfl⟩ := overtakes.sooner [_] rfl
    obtain ⟨sparing, _⟩ := connecting.overtaken heeded connected
    refine ⟨sparing.append (.called _ _ _ _ _), ?_⟩
    exact .finished (List.mem_append_right _ List.mem_cons_self) (.answered success)
  | @failed _ ready connection _ parting result _ _ _ _ connecting _ _ releasing =>
    have ending := (Log.Sparing.called connection.channel connection.next.sequence call.method
      call.arguments (.ok result)).append releasing.sparing
    obtain ⟨later, connected, rfl⟩ := overtakes.sooner (_ :: parting)
      (List.eq_nil_of_length_eq_zero (Nat.le_zero.mp ending.pauses))
    obtain ⟨sparing, _⟩ := connecting.overtaken heeded connected
    refine ⟨sparing.append ending, ?_⟩
    cases became : Attempt.ofResult call ready.login.advice result with
    | finished value =>
      exact .finished (List.mem_append_right _ List.mem_cons_self) (.of_ofResult became _ _ _)
    | transient reason => exact .open rfl
    | interrupted => exact .open rfl

/-- The signal overtakes an attempt that leaves the call open, or what comes after it. -/
theorem Attempting.overtaken_or_later {signal : Signal} (heeded : signal.Heeded scene)
    {call : PendingCall} {session after : Session Nat} {state middle : σ} {attempt : Attempt}
    {done more rest : Log}
    (attempting : Attempting scene call session state done (.ok (attempt, after)) middle)
    (overtakes : signal.Overtakes (scene.log state) (done ++ more) rest) :
    (∃ later, later.Sparing 1 1 0 ∧ rest = later ++ more ∧ scene.stopping middle = true) ∨
      signal.Overtakes (scene.log middle) more rest := by
  rcases overtakes.split done with ⟨later, first, rfl⟩ | second
  · obtain ⟨sparing, _⟩ := attempting.overtaken heeded first
    exact .inl ⟨later, sparing, rfl, first.stopping heeded attempting.passes⟩
  · rw [← attempting.passes.log] at second
    exact .inr second

/-- What a call may come to that was overtaken by the signal. -/
inductive LateCall (method : Method) (repeatable : Bool) (cluster : String) (rest : Log) :
    Except Halt (Except SessionFailure Response) → Prop where
  | cutShort : LateCall method repeatable cluster rest (.error .unfinished)
  | terminated : LateCall method repeatable cluster rest (.ok (.error (.terminated method cluster)))
  | settled {entry : Entry} {value : Except Halt (Except SessionFailure Response)}
    (last : entry ∈ rest) (settles : entry.Settles method repeatable cluster value) :
    LateCall method repeatable cluster rest value

theorem Course.late {call : PendingCall} {made : Nat} {lastError : String} {session : Session Nat}
    {state stop : σ} {done : Log}
    {outcome : Except Halt (Except SessionFailure Response × Session Nat)}
    (stopping : scene.stopping state = true)
    (course : Course scene call made lastError session state done outcome stop) (rest : Log) :
    done = [] ∧
      LateCall call.method call.repeatable session.cluster.name rest (outcome.map Prod.fst) := by
  have never : ∀ {answer : Prop}, scene.stopping state = false → answer := by
    intro answer running
    rw [stopping] at running
    cases running
  cases course with
  | unfinished => exact ⟨rfl, .cutShort⟩
  | terminated _ => exact ⟨rfl, .terminated⟩
  | timedOut running _ _ => exact never running
  | halted running _ _ => exact never running
  | finished running _ _ => exact never running
  | interrupted running _ _ _ => exact never running
  | paused running _ _ _ _ => exact never running
  | spent running _ _ _ _ => exact never running

theorem Course.overtaken {signal : Signal} (heeded : signal.Heeded scene) {call : PendingCall}
    {made : Nat} {lastError : String} {session : Session Nat} {state stop : σ} {done rest : Log}
    {outcome : Except Halt (Except SessionFailure Response × Session Nat)}
    (course : Course scene call made lastError session state done outcome stop)
    (overtakes : signal.Overtakes (scene.log state) done rest) :
    rest.Sparing 1 1 1 ∧
      LateCall call.method call.repeatable session.cluster.name rest (outcome.map Prod.fst) := by
  have briefly : ∀ {log : Log}, log.Sparing 1 1 0 → log.Sparing 1 1 1 :=
    fun sparing => sparing.mono (Nat.le_refl 1) (Nat.le_refl 1) (Nat.zero_le 1)
  -- The signal is given in an attempt, in the pause behind it, or later. In the first two cases
  -- the next round finds it given.
  induction course with
  | unfinished => exact absurd rfl overtakes.ne_still
  | terminated _ => exact absurd rfl overtakes.ne_still
  | timedOut _ _ _ => exact absurd rfl overtakes.ne_still
  | halted _ _ attempting =>
    obtain ⟨sparing, late⟩ := attempting.overtaken heeded overtakes
    refine ⟨briefly sparing, ?_⟩
    cases late with
    | cutShort => exact .cutShort
    | halted last settles => exact .settled last settles
  | finished _ _ attempting =>
    obtain ⟨sparing, late⟩ := attempting.overtaken heeded overtakes
    refine ⟨briefly sparing, ?_⟩
    cases late with
    | finished last settles => exact .settled last settles
    | «open» unfinished => cases unfinished
  | interrupted _ _ attempting course ih =>
    rw [attempting.frame] at course ih
    rcases attempting.overtaken_or_later heeded overtakes with
      ⟨later, sparing, rfl, stopping⟩ | second
    · obtain ⟨rfl, late⟩ := course.late stopping (later ++ [])
      exact ⟨(briefly sparing).append .nil, late⟩
    · exact ih second
  | @paused _ _ _ _ _ _ middle _ _ _ pause _ _ _ attempting _ course ih =>
    rw [attempting.frame] at course ih
    have rests := scene.pause_passes pause middle
    rcases attempting.overtaken_or_later heeded overtakes with
      ⟨later, sparing, rfl, stopping⟩ | second
    · obtain ⟨rfl, late⟩ := course.late (heeded.stays rests stopping) (later ++ [.slept pause])
      exact ⟨sparing.append (.slept pause), late⟩
    rcases second.pause with ⟨given, rfl⟩ | third
    · rw [← rests.log, ← heeded] at given
      obtain ⟨rfl, late⟩ := course.late given []
      exact ⟨Log.Sparing.nil.mono (Nat.zero_le 1) (Nat.zero_le 1) (Nat.zero_le 1), late⟩
    · rw [← rests.log] at third
      exact ih third
  | spent _ _ attempting _ course ih =>
    rw [attempting.frame] at course ih
    rcases attempting.overtaken_or_later heeded overtakes with
      ⟨later, sparing, rfl, stopping⟩ | second
    · obtain ⟨rfl, late⟩ := course.late stopping (later ++ [])
      exact ⟨(briefly sparing).append .nil, late⟩
    · exact ih second

/-! Calls on a scene that heeds a signal. -/

theorem Invoking.overtaken {signal : Signal} (heeded : signal.Heeded scene) {session : Session Nat}
    {request : Request} {repeatable : Bool} {state stop : σ} {done rest : Log}
    {outcome : Except Halt (Except SessionFailure Response × Session Nat)}
    (invoking : Invoking scene session request repeatable state done outcome stop)
    (overtakes : signal.Overtakes (scene.log state) done rest) :
    rest.Sparing 1 1 1 ∧
      LateCall request.method repeatable session.cluster.name rest (outcome.map Prod.fst) := by
  cases invoking with
  | misfit _ => exact absurd rfl overtakes.ne_still
  | overflow _ _ => exact absurd rfl overtakes.ne_still
  | course _ _ course => exact course.overtaken heeded overtakes

/-- What runs out of steps after a pause at the end of which the signal was given was allowed hardly
more pauses than were made before that, unless it was the call itself that ran out of steps. -/
theorem CutShort.of_sparing {allowed : Nat} {before rest : Log} {span : Duration}
    (short : CutShort allowed (before ++ .slept span :: rest) .unfinished)
    (sparing : rest.Sparing 1 1 1) :
    allowed ≤ before.pauses.length + 2 ∨ ∃ channel sequence method arguments,
      .called channel sequence method arguments (.error .unfinished) ∈ rest := by
  cases short with
  | spent paused =>
    have few := sparing.pauses
    have same : Log.pauses (.slept span :: rest) = span :: rest.pauses := rfl
    rw [Log.pauses_append, List.length_append, same, List.length_cons] at paused
    exact .inl (by omega)
  | @last _ entry last halts =>
    have member : entry ∈ rest := by
      rw [List.getLast?_append] at last
      rcases Option.or_eq_some_iff.mp last with last | ⟨empty, _⟩
      · rcases List.mem_cons.mp (List.mem_of_getLast? last) with rfl | member
        · cases halts
        · exact member
      · cases List.getLast?_eq_none_iff.mp empty
    cases entry with
    | lookedUp path patience answer =>
      have asked := List.filterMap_eq_nil_iff.mp sparing.lookups _ member
      cases asked
    | called channel sequence method arguments answer =>
      rw [halts] at member
      exact .inr ⟨channel, sequence, method, arguments, member⟩
    | _ => cases halts

/-- Once the signal to abandon calls has been given, a call that was pausing asks no registry and
creates no channel. It tries to open a channel once at most, sends one call at most and pauses once
at most, and it says that it was abandoned unless just that opening or that call decides what it
comes to. From then on no other call does anything. -/
theorem signal_ends_calls (scene : Scene σ) (signal : Signal) (fuel : Nat) (session : Session Nat)
    (request : Request) (repeatable : Bool) (state : σ) :
    let heeding := scene.heeding signal
    let performed :=
      heeding.perform (session.invoke heeding.surroundings fuel request repeatable) state
    (∀ (before : Log) (span : Duration) (rest : Log),
      performed.done = before ++ .slept span :: rest →
      signal.isGiven (scene.log state ++ before ++ [.slept span]) = true →
      rest.Sparing 1 1 1 ∧
      (∀ method cluster lastError after,
        performed.outcome ≠ .ok (.error (.timedOut method cluster lastError), after)) ∧
      (before.pauses.length + 3 < fuel →
        (∃ after, performed.outcome =
          .ok (.error (.terminated request.method session.cluster.name), after)) ∨
        ∃ entry ∈ rest, entry.Settles request.method repeatable session.cluster.name
          (performed.outcome.map Prod.fst))) ∧
    ∀ (log : Log) (later : σ), signal.isGiven log = true → log <+: scene.log later →
      ∀ (steps : Nat) (next : Session Nat) (asked : Request) (again : Bool) (arguments : List Json),
        0 < steps → asked.method.signature.fit asked.arguments = .ok arguments →
        Deadline.InReach (scene.clock later) next.policy.longestWait →
        heeding.perform (next.invoke heeding.surroundings steps asked again) later =
          { outcome := .ok (.error (.terminated asked.method next.cluster.name), next)
            stop := later
            done := [] } := by
  intro heeding performed
  have heeded : signal.Heeded heeding := signal.heeded_heeding scene
  have invoking : Invoking heeding session request repeatable state performed.done
    performed.outcome performed.stop := .of_invoke heeding fuel session request repeatable state
  refine ⟨?_, ?_⟩
  · intro before span rest same given
    have overtakes : signal.Overtakes (heeding.log state) performed.done rest :=
      ⟨before, span, same, given⟩
    obtain ⟨sparing, late⟩ := invoking.overtaken heeded overtakes
    refine ⟨sparing, ?_, ?_⟩
    · intro method cluster lastError after timedOut
      rw [timedOut] at late
      cases late with
      | settled _ settles => cases settles.isOfAttempt
    -- Steps that ran out would have gone into pauses, of which there is one at most.
    · intro enough
      rcases came : performed.outcome with halt | ⟨result, after⟩
      all_goals
        rw [came] at late
      · cases late with
        | cutShort =>
          have short := session.invoke_cutShort heeding fuel request repeatable state came
          change CutShort _ performed.done _ at short
          rw [same] at short
          rcases short.of_sparing sparing with few | ⟨channel, sequence, method, arguments, sent⟩
          · omega
          · have member : .called channel sequence method arguments (.error .unfinished) ∈
                performed.done := by
              rw [same]
              exact List.mem_append_right _ (List.mem_cons_of_mem _ sent)
            obtain ⟨rfl, _⟩ := invoking.sends member
            exact .inr ⟨_, sent, .halted⟩
        | settled last settles => exact .inr ⟨_, last, settles⟩
      · generalize ended : Except.map Prod.fst (Except.ok (result, after)) = value at late
        cases late with
        | cutShort => cases ended
        | terminated =>
          cases ended
          exact .inl ⟨after, rfl⟩
        | settled last settles => exact .inr ⟨_, last, settles⟩
  · intro log later given grown steps next asked again arguments enough fits near
    have stopping : heeding.stopping later = true := by
      obtain ⟨more, same⟩ := grown
      change signal.isGiven (scene.log later) = true
      rw [← same]
      exact signal.stays log more given
    have plays : (next.invoke heeding.surroundings steps asked again).play later =
        (.ok (.error (.terminated asked.method next.cluster.name), next), later) := by
      obtain ⟨steps, rfl⟩ := Nat.exists_eq_succ_of_ne_zero (Nat.ne_of_gt enough)
      have inTime : Deadline.after? (heeding.clock later) next.policy.longestWait =
          some ⟨scene.clock later + next.policy.longestWait⟩ :=
        Deadline.after?_eq_some.mpr ⟨near, rfl⟩
      simp only [Session.invoke_play, fits, inTime, Session.attempts_play_stopping stopping]
    rw [Scene.perform, plays]
    simp only [List.drop_length]

def Signal.after (span : Duration) : Signal where
  isGiven log := decide (span ≤ log.slept)
  stays log more given := by
    rw [decide_eq_true_eq] at given ⊢
    exact Nat.le_trans given (Log.slept_le_of_prefix (List.prefix_append log more))

theorem Log.exists_first_pause {log : Log} {span : Duration} {more : List Duration}
    (pauses : log.pauses = span :: more) :
    ∃ before rest : Log, log = before ++ .slept span :: rest ∧ before.pauses = [] := by
  obtain ⟨before, entry, rest, rfl, still, slept, _⟩ := List.filterMap_eq_cons_iff.mp pauses
  refine ⟨before, rest, ?_, List.filterMap_eq_nil_iff.mpr still⟩
  cases entry <;> cases slept
  rfl

def Stage.deserted : Stage := { opensLater := some (.notOpen "refused") }

/-- The signal is given in the first pause, and the second opening is the last. -/
theorem signal_ends_hasty_call :
    let scene := Stage.deserted.scene fun _ => .ok .anonymous
    let heeding := scene.heeding (.after (.ofSeconds 1))
    let request : Request := ⟨.getJobs, [.null]⟩
    let invoke := Session.hasty.invoke heeding.surroundings 9 request false
    let performed := heeding.perform invoke Stage.deserted
    (∃ (before : Log) (span : Duration) (rest : Log),
      performed.done = before ++ .slept span :: rest ∧ rest.Sparing 1 1 1 ∧
      ∃ after, performed.outcome = .ok (.error (.terminated .getJobs "west"), after)) ∧
    (heeding.perform invoke performed.stop).done = [] := by
  intro scene heeding request invoke performed
  have pauses : performed.done.pauses = [.ofSeconds 1] := by
    decide +kernel
  have late : performed.failure?.map (·.isOfAttempt) = some false := by
    decide +kernel
  obtain ⟨failure, fails, own⟩ := Option.map_eq_some_iff.mp late
  obtain ⟨after, failed⟩ := Performance.failure?_eq_some.mp fails
  obtain ⟨before, rest, same, still⟩ := Log.exists_first_pause pauses
  have given : Signal.isGiven (.after (.ofSeconds 1))
      (scene.log Stage.deserted ++ before ++ [.slept (.ofSeconds 1)]) = true := by
    apply decide_eq_true
    rw [Duration.le_iff_nanos, Log.nanos_slept_append]
    exact Nat.le_add_left _ _
  obtain ⟨during, later⟩ := signal_ends_calls scene (.after (.ofSeconds 1)) 9 Session.hasty request
    false Stage.deserted
  obtain ⟨sparing, _, settled⟩ := during before (.ofSeconds 1) rest same given
  have again := later (scene.log performed.stop) performed.stop (by decide +kernel)
    (List.prefix_refl _) 9 Session.hasty request false [.null] (by decide) rfl
      (by decide +kernel)
  refine ⟨⟨before, .ofSeconds 1, rest, same, sparing, ?_⟩, congrArg Performance.done again⟩
  rcases settled (by rw [still]; decide) with terminated | ⟨entry, _, settles⟩
  · exact terminated
  · change entry.Settles _ _ _ (performed.outcome.map Prod.fst) at settles
    rw [failed] at settles
    rw [settles.isOfAttempt] at own
    cases own

end SchedulerLink
