import SchedulerLink.Link.Connect
import SchedulerLink.Proofs.Scene

/-!
What opening a channel does on a scene.

`Opening` describes every way in which `Connect.openUntil` can go, with the entries that it adds to
the log. It says all there is to say about the loop: later proofs go by its cases and do not look at
the loop again.
-/

namespace SchedulerLink

variable {σ : Type}

namespace Connect

def verdict (options : LinkOptions) (uri : String) (limit : Option Deadline) (attempts : Nat)
    (failure : ChannelFailure) (stopping : Bool) (now : Duration) : Except LinkFailure Duration :=
  if !failure.isNetwork then .error (.notConnected uri failure.message)
  else if options.connectAttempts.any (· ≤ attempts) then
    .error (.notConnected uri s!"{failure.message} (after {attempts} attempts)")
  else
    match limit with
    | none => .ok options.connectInterval
    | some deadline =>
      if stopping then .error (.interrupted uri)
      else if deadline.remaining now = .zero then
        .error (.connectTimeout uri attempts failure.message)
      else .ok (min options.connectInterval (deadline.remaining now))

theorem pauseAfter_play (scene : Scene σ) (options : LinkOptions) (uri : String)
    (limit : Option Deadline) (attempts : Nat) (failure : ChannelFailure) (state : σ) :
    (pauseAfter scene.surroundings options uri limit attempts failure).play state =
      (.ok (verdict options uri limit attempts failure (scene.stopping state) (scene.clock state)),
        state) := by
  unfold pauseAfter verdict
  split
  · rfl
  split
  · rfl
  cases limit with
  | none => rfl
  | some deadline =>
    simp only [Run.play_bind, Run.play_lift, scene.isStopping_run]
    split
    · rfl
    simp only [Run.play_bind, Run.play_lift, scene.now_run]
    split <;> rfl

theorem verdict_eq_ok {options : LinkOptions} {uri : String} {limit : Option Deadline}
    {attempts : Nat} {failure : ChannelFailure} {stopping : Bool} {now pause : Duration}
    (again : verdict options uri limit attempts failure stopping now = .ok pause) :
    failure.isNetwork = true ∧ options.connectAttempts.any (· ≤ attempts) = false ∧
      match limit with
      | none => pause = options.connectInterval
      | some deadline =>
        stopping = false ∧ deadline.remaining now ≠ .zero ∧
          pause = min options.connectInterval (deadline.remaining now) := by
  unfold verdict at again
  split at again
  · cases again
  rename_i network
  split at again
  · cases again
  rename_i room
  refine ⟨by simpa using network, by simpa using room, ?_⟩
  cases limit with
  | none => cases again; rfl
  | some deadline =>
    simp only at again ⊢
    split at again
    · cases again
    rename_i running
    split at again
    · cases again
    rename_i left
    cases again
    exact ⟨by simpa using running, left, rfl⟩

theorem openUntil_play (scene : Scene σ) (options : LinkOptions) (uri : String)
    (limit : Option Deadline) (channel fuel failed : Nat) (state : σ) :
    (openUntil scene.surroundings options uri limit channel (fuel + 1) failed).play state =
      match (scene.surroundings.openChannel channel).run state with
      | (.ok (), next) => (.ok (.ok ()), next)
      | (.error failure, next) =>
        match verdict options uri limit (failed + 1) failure (scene.stopping next)
          (scene.clock next) with
        | .error reason => (.ok (.error reason), next)
        | .ok pause =>
          (openUntil scene.surroundings options uri limit channel fuel (failed + 1)).play
            ((scene.surroundings.pause pause).run next).2 := by
  rw [openUntil, Run.play_bind, Run.play_lift]
  rcases (scene.surroundings.openChannel channel).run state with ⟨failure | _, next⟩
  · simp only [Run.play_bind, pauseAfter_play]
    cases verdict options uri limit (failed + 1) failure (scene.stopping next)
      (scene.clock next) with
    | error reason => rfl
    | ok pause => simp only [Run.play_bind, Run.play_lift]
  · rfl

end Connect

/-- How opening a channel goes on which `failed` attempts have been made. -/
inductive Opening (scene : Scene σ) (options : LinkOptions) (uri : String) (limit : Option Deadline)
    (channel : Nat) :
    (failed : Nat) → σ → Log → Except Halt (Except LinkFailure Unit) → σ → Prop where
  | unfinished {failed : Nat} {state : σ} :
    Opening scene options uri limit channel failed state [] (.error .unfinished) state
  | opened {failed : Nat} {state next : σ}
    (opens : (scene.surroundings.openChannel channel).run state = (.ok (), next)) :
    Opening scene options uri limit channel failed state [.opened channel (.ok ())] (.ok (.ok ()))
      next
  | givenUp {failed : Nat} {state next : σ} {failure : ChannelFailure} {reason : LinkFailure}
    (fails : (scene.surroundings.openChannel channel).run state = (.error failure, next))
    (verdict : Connect.verdict options uri limit (failed + 1) failure (scene.stopping next)
      (scene.clock next) = .error reason) :
    Opening scene options uri limit channel failed state [.opened channel (.error failure)]
      (.ok (.error reason)) next
  | again {failed : Nat} {state next stop : σ} {failure : ChannelFailure} {pause : Duration}
    {rest : Log} {outcome : Except Halt (Except LinkFailure Unit)}
    (fails : (scene.surroundings.openChannel channel).run state = (.error failure, next))
    (verdict : Connect.verdict options uri limit (failed + 1) failure (scene.stopping next)
      (scene.clock next) = .ok pause)
    (later : Opening scene options uri limit channel (failed + 1)
      ((scene.surroundings.pause pause).run next).2 rest outcome stop) :
    Opening scene options uri limit channel failed state
      (.opened channel (.error failure) :: .slept pause :: rest) outcome stop

namespace Opening

variable {scene : Scene σ} {options : LinkOptions} {uri : String} {limit : Option Deadline}
  {channel failed : Nat} {state stop : σ} {done : Log}
  {outcome : Except Halt (Except LinkFailure Unit)}

theorem of_openUntil (scene : Scene σ) (options : LinkOptions) (uri : String)
    (limit : Option Deadline) (channel fuel failed : Nat) (state : σ) :
    let opened :=
      (Connect.openUntil scene.surroundings options uri limit channel fuel failed).play state
    ∃ done, Opening scene options uri limit channel failed state done opened.1 opened.2 := by
  induction fuel generalizing failed state with
  | zero => exact ⟨[], .unfinished⟩
  | succ fuel ih =>
    rw [Connect.openUntil, Run.play_bind, Run.play_lift]
    rcases result : (scene.surroundings.openChannel channel).run state with ⟨_ | _, next⟩
    · rename_i failure
      simp only [Run.play_bind, Connect.pauseAfter_play]
      cases verdict : Connect.verdict options uri limit (failed + 1) failure (scene.stopping next)
        (scene.clock next) with
      | error reason => exact ⟨_, .givenUp result verdict⟩
      | ok pause =>
        obtain ⟨rest, later⟩ := ih (failed + 1) ((scene.surroundings.pause pause).run next).2
        simp only [Run.play_bind, Run.play_lift]
        exact ⟨_, .again result verdict later⟩
    · exact ⟨_, .opened result⟩

theorem passes (opening : Opening scene options uri limit channel failed state done outcome stop) :
    scene.Passes state done stop := by
  induction opening with
  | unfinished => exact .refl scene _
  | opened opens => exact Scene.open_passes opens
  | givenUp fails _ => exact Scene.open_passes fails
  | again fails _ _ ih => exact (Scene.open_passes fails).trans ((scene.pause_passes _ _).trans ih)

end Opening

end SchedulerLink
