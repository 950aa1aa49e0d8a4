import SchedulerLink.Link.Basic
import SchedulerLink.Proofs.Opening

/-!
What connecting a link does on a scene: finding the scheduler, then opening a channel to it.

As with `Opening`, each relation lists every way in which one definition can go.
-/

namespace SchedulerLink

variable {σ : Type}

/-- How the address of a scheduler is found. -/
inductive Locating (scene : Scene σ) (state : σ) :
    Locator → Log → Except Halt (Except LinkFailure String × Locator) → σ → Prop where
  | fixed {uri : String} :
    Locating scene state (.direct uri) [] (.ok (.ok uri, .direct uri)) state
  | known {locator : RegistryLocator} {url : String} (found : locator.found = some url) :
    Locating scene state (.registry locator) [] (.ok (.ok url, .registry locator)) state
  | found {locator : RegistryLocator} {url : String} {stop : σ}
    {answer : Except DiscoveryFailure (List Member)} (unknown : locator.found = none)
    (asked : (scene.surroundings.lookup locator.target locator.patience).play state =
      (.ok answer, stop))
    (leader : locator.leader answer = .ok url) :
    Locating scene state (.registry locator)
      [.lookedUp locator.target.path locator.patience (.ok answer)]
      (.ok (.ok url, .registry { locator with found := some url })) stop
  | nobody {locator : RegistryLocator} {failure : LinkFailure} {stop : σ}
    {answer : Except DiscoveryFailure (List Member)} (unknown : locator.found = none)
    (asked : (scene.surroundings.lookup locator.target locator.patience).play state =
      (.ok answer, stop))
    (leader : locator.leader answer = .error failure) :
    Locating scene state (.registry locator)
      [.lookedUp locator.target.path locator.patience (.ok answer)]
      (.ok (.error failure, .registry locator)) stop
  | halted {locator : RegistryLocator} {halt : Halt} {stop : σ} (unknown : locator.found = none)
    (asked : (scene.surroundings.lookup locator.target locator.patience).play state =
      (.error halt, stop)) :
    Locating scene state (.registry locator)
      [.lookedUp locator.target.path locator.patience (.error halt)] (.error halt) stop

namespace Locating

variable {scene : Scene σ} {state stop : σ} {locator : Locator} {done : Log}
  {outcome : Except Halt (Except LinkFailure String × Locator)}

theorem of_rawUrl (scene : Scene σ) (locator : Locator) (state : σ) :
    ∃ done, Locating scene state locator done
      ((locator.rawUrl scene.surroundings).play state).1
      ((locator.rawUrl scene.surroundings).play state).2 := by
  cases locator with
  | direct uri => exact ⟨[], .fixed⟩
  | registry locator =>
    rw [Locator.rawUrl, Run.play_bind, RegistryLocator.rawUrl]
    cases known : locator.found with
    | some url => exact ⟨[], .known known⟩
    | none =>
      simp only [Run.play_bind]
      rcases asked : (scene.surroundings.lookup locator.target locator.patience).play state with
        ⟨halt | answer, stop⟩
      · exact ⟨_, .halted known asked⟩
      · cases leader : locator.leader answer with
        | ok url => simpa only [leader] using ⟨_, .found known asked leader⟩
        | error failure => simpa only [leader] using ⟨_, .nobody known asked leader⟩

theorem passes (locating : Locating scene state locator done outcome stop) :
    scene.Passes state done stop := by
  cases locating with
  | fixed => exact .refl scene state
  | known _ => exact .refl scene state
  | found _ asked _ => exact Scene.lookup_passes asked
  | nobody _ asked _ => exact Scene.lookup_passes asked
  | halted _ asked => exact Scene.lookup_passes asked

theorem slept_eq (locating : Locating scene state locator done outcome stop) : done.slept = .zero := by
  cases locating <;> rfl

end Locating

namespace Deadline

variable {deadline limit : Deadline} {now budget : Duration}

theorem InReach.mono {later longer : Duration} (near : InReach later longer) (before : now ≤ later)
    (within : budget ≤ longer) : InReach now budget :=
  Nat.le_trans (Nat.div_le_div_right (Nat.add_le_add before within)) near

theorem after?_eq_some :
    after? now budget = some limit ↔ InReach now budget ∧ limit = ⟨now + budget⟩ := by
  by_cases near : InReach now budget
  · have inTime : after? now budget = some ⟨now + budget⟩ := if_pos near
    rw [inTime, Option.some.injEq, eq_comm]
    exact (and_iff_right near).symm
  · have none : after? now budget = none := if_neg near
    rw [none]
    exact iff_of_false nofun fun caps => near caps.1

theorem after?_eq_none : after? now budget = none ↔ ¬ InReach now budget := by
  rw [Option.eq_none_iff_forall_ne_some]
  constructor
  · intro never near
    exact never _ (after?_eq_some.mpr ⟨near, rfl⟩)
  · intro far limit inTime
    exact far (after?_eq_some.mp inTime).1

theorem capped?_eq_some :
    deadline.capped? now budget = some limit ↔
      InReach now budget ∧ limit = ⟨min deadline.expiry (now + budget)⟩ := by
  rw [capped?, Option.map_eq_some_iff]
  constructor
  · rintro ⟨later, inTime, rfl⟩
    obtain ⟨near, rfl⟩ := after?_eq_some.mp inTime
    exact ⟨near, rfl⟩
  · rintro ⟨near, rfl⟩
    exact ⟨_, after?_eq_some.mpr ⟨near, rfl⟩, rfl⟩

theorem capped?_eq_none : deadline.capped? now budget = none ↔ ¬ InReach now budget :=
  Option.map_eq_none_iff.trans after?_eq_none

end Deadline

namespace Link

def window? (link : Link Nat) (now : Duration) : Option Deadline → Option (Option Deadline)
  | none => some none
  | some deadline => (deadline.capped? now link.options.connectWait).map some

theorem window?_eq_none {link : Link Nat} {now : Duration} {deadline : Deadline} :
    link.window? now (some deadline) = none ↔
      ¬ Deadline.InReach now link.options.connectWait :=
  Option.map_eq_none_iff.trans Deadline.capped?_eq_none

theorem connectDeadline_play (scene : Scene σ) (link : Link Nat) (limit : Option Deadline)
    (state : σ) :
    (link.connectDeadline scene.surroundings limit).play state =
      match link.window? (scene.clock state) limit with
      | some window => (.ok window, state)
      | none => (.error .overflow, state) := by
  cases limit with
  | none => rfl
  | some deadline =>
    simp only [connectDeadline, Surroundings.capped, window?, Run.play_bind, Run.play_lift,
      scene.now_run]
    cases deadline.capped? (scene.clock state) link.options.connectWait <;> rfl

def setup (link : Link Nat) : ChannelSetup := .ofOptions link.options link.login

end Link

/-- How a link connects to the scheduler at a base address. -/
inductive Reaching (scene : Scene σ) (limit : Option Deadline) (link : Link Nat) (base : String)
    (state : σ) :
    Log → Except Halt (Except LinkFailure (Connection Nat) × Link Nat) → σ → Prop where
  | misaddressed {failure : LinkFailure} (address : Connect.interfaceUri base = .error failure) :
    Reaching scene limit link base state [] (.ok (.error failure, link)) state
  | overflow {uri : String} (address : Connect.interfaceUri base = .ok uri)
    (tooFar : link.window? (scene.clock state) limit = none) :
    Reaching scene limit link base state [] (.error .overflow) state
  | halted {uri : String} {window : Option Deadline} {channel : Nat} {next stop : σ} {tried : Log}
    {halt : Halt} (address : Connect.interfaceUri base = .ok uri)
    (inTime : link.window? (scene.clock state) limit = some window)
    (creates : (scene.surroundings.create uri link.setup).run state = (channel, next))
    (opening : Opening scene link.options uri window channel 0 next tried (.error halt) stop) :
    Reaching scene limit link base state (.created channel uri link.setup :: tried) (.error halt)
      stop
  | unopened {uri : String} {window : Option Deadline} {channel : Nat} {next stop : σ} {tried : Log}
    {failure : LinkFailure} (address : Connect.interfaceUri base = .ok uri)
    (inTime : link.window? (scene.clock state) limit = some window)
    (creates : (scene.surroundings.create uri link.setup).run state = (channel, next))
    (opening : Opening scene link.options uri window channel 0 next tried (.ok (.error failure))
      stop) :
    Reaching scene limit link base state (.created channel uri link.setup :: tried)
      (.ok (.error failure, link)) stop
  | connected {uri : String} {window : Option Deadline} {channel : Nat} {next stop : σ}
    {tried : Log}
    (address : Connect.interfaceUri base = .ok uri)
    (inTime : link.window? (scene.clock state) limit = some window)
    (creates : (scene.surroundings.create uri link.setup).run state = (channel, next))
    (opening : Opening scene link.options uri window channel 0 next tried (.ok (.ok ())) stop) :
    Reaching scene limit link base state
      (.created channel uri link.setup :: (tried ++ [.adopted channel]))
      (.ok (.ok { channel },
        { link with connection := some { channel }, epoch := link.epoch + 1 }))
      ((scene.surroundings.adopt channel).run stop).2

namespace Reaching

variable {scene : Scene σ} {limit : Option Deadline} {link : Link Nat} {base : String}
  {state stop : σ} {done : Log}
  {outcome : Except Halt (Except LinkFailure (Connection Nat) × Link Nat)}

theorem of_connectTo (scene : Scene σ) (fuel : Nat) (limit : Option Deadline) (link : Link Nat)
    (base : String) (state : σ) :
    ∃ done, Reaching scene limit link base state done
      ((link.connectTo scene.surroundings fuel limit base).play state).1
      ((link.connectTo scene.surroundings fuel limit base).play state).2 := by
  unfold Link.connectTo
  cases address : Connect.interfaceUri base with
  | error failure => exact ⟨[], .misaddressed address⟩
  | ok uri =>
    simp only [Run.play_bind, Link.connectDeadline_play]
    cases inTime : link.window? (scene.clock state) limit with
    | none => exact ⟨[], .overflow address inTime⟩
    | some window =>
      simp only [Connect.openChannel, Run.play_bind, Run.play_lift]
      rcases creates : (scene.surroundings.create uri link.setup).run state with ⟨channel, next⟩
      obtain ⟨tried, opening⟩ :=
        Opening.of_openUntil scene link.options uri window channel fuel 0 next
      rcases opens : (Connect.openUntil scene.surroundings link.options uri window channel fuel
        0).play next with ⟨halt | failure | _, stop⟩
      all_goals
        rw [opens] at opening
        rw [Link.setup] at creates
        simp only [creates, opens]
      · exact ⟨_, .halted address inTime creates opening⟩
      · exact ⟨_, .unopened address inTime creates opening⟩
      · exact ⟨_, .connected address inTime creates opening⟩

theorem passes (reaching : Reaching scene limit link base state done outcome stop) :
    scene.Passes state done stop := by
  cases reaching with
  | misaddressed _ => exact .refl scene state
  | overflow _ _ => exact .refl scene state
  | halted _ _ creates opening => exact (Scene.create_passes creates).trans opening.passes
  | unopened _ _ creates opening => exact (Scene.create_passes creates).trans opening.passes
  | connected _ _ creates opening =>
    exact (Scene.create_passes creates).trans (opening.passes.trans (scene.adopt_passes _ _))

end Reaching

/-- How a link gets its connection. -/
inductive Connecting (scene : Scene σ) (limit : Option Deadline) (link : Link Nat) (state : σ) :
    Log → Except Halt (Except LinkFailure (Connection Nat) × Link Nat) → σ → Prop where
  | held {connection : Connection Nat} (holds : link.connection = some connection) :
    Connecting scene limit link state [] (.ok (.ok connection, link)) state
  | halted {done : Log} {halt : Halt} {stop : σ} (idle : link.connection = none)
    (locating : Locating scene state link.locator done (.error halt) stop) :
    Connecting scene limit link state done (.error halt) stop
  | unlocated {done : Log} {failure : LinkFailure} {locator : Locator} {stop : σ}
    (idle : link.connection = none)
    (locating : Locating scene state link.locator done (.ok (.error failure, locator)) stop) :
    Connecting scene limit link state done
      (.ok (.error failure, { link with locator, connection := none })) stop
  | reached {done more : Log} {base : String} {locator : Locator} {middle stop : σ}
    {outcome : Except Halt (Except LinkFailure (Connection Nat) × Link Nat)}
    (idle : link.connection = none)
    (locating : Locating scene state link.locator done (.ok (.ok base, locator)) middle)
    (reaching : Reaching scene limit { link with locator, connection := none } base middle more
      outcome stop) :
    Connecting scene limit link state (done ++ more) outcome stop

namespace Connecting

variable {scene : Scene σ} {limit : Option Deadline} {link : Link Nat}
  {state stop : σ} {done : Log}
  {outcome : Except Halt (Except LinkFailure (Connection Nat) × Link Nat)}

theorem of_connect (scene : Scene σ) (fuel : Nat) (limit : Option Deadline) (link : Link Nat)
    (state : σ) :
    ∃ done, Connecting scene limit link state done
      ((link.connect scene.surroundings fuel limit).play state).1
      ((link.connect scene.surroundings fuel limit).play state).2 := by
  unfold Link.connect
  cases holds : link.connection with
  | some connection => exact ⟨[], .held holds⟩
  | none =>
    obtain ⟨done, locating⟩ := Locating.of_rawUrl scene link.locator state
    simp only [Run.play_bind]
    revert locating
    rcases (link.locator.rawUrl scene.surroundings).play state with
      ⟨halt | ⟨failure | base, locator⟩, middle⟩
    · exact fun locating => ⟨done, .halted holds locating⟩
    · exact fun locating => ⟨done, .unlocated holds locating⟩
    · intro locating
      obtain ⟨more, reaching⟩ :=
        Reaching.of_connectTo scene fuel limit { link with locator, connection := none } base middle
      exact ⟨_, .reached holds locating reaching⟩

theorem passes (connecting : Connecting scene limit link state done outcome stop) :
    scene.Passes state done stop := by
  cases connecting with
  | held _ => exact .refl scene state
  | halted _ locating => exact locating.passes
  | unlocated _ locating => exact locating.passes
  | reached _ locating reaching => exact locating.passes.trans reaching.passes

theorem frame {after : Link Nat} {result : Except LinkFailure (Connection Nat)}
    (connecting : Connecting scene limit link state done (.ok (result, after)) stop) :
    after = { link with
      locator := after.locator, connection := after.connection, epoch := after.epoch } := by
  cases connecting with
  | held _ => rfl
  | unlocated _ _ => rfl
  | reached _ _ reaching => cases reaching <;> rfl

theorem options {after : Link Nat} {result : Except LinkFailure (Connection Nat)}
    (connecting : Connecting scene limit link state done (.ok (result, after)) stop) :
    after.options = link.options := by
  rw [connecting.frame]

theorem login {after : Link Nat} {result : Except LinkFailure (Connection Nat)}
    (connecting : Connecting scene limit link state done (.ok (result, after)) stop) :
    after.login = link.login := by
  rw [connecting.frame]

end Connecting

end SchedulerLink
