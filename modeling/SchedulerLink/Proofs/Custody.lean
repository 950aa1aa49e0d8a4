import SchedulerLink.Proofs.Deeds

/-!
Who holds an open channel, and that no more than one is ever open.

A small machine reads the log and keeps the one channel that is live. It stops at whatever must not
be done just then: a second channel, a call over a closed one, a pause with one open. What a link
holds is what the machine keeps, whichever way an operation goes.
-/

namespace SchedulerLink

namespace Log

def made (log : Log) : List Nat :=
  log.filterMap fun
    | .created channel _ _ => some channel
    | _ => none

def connected (log : Log) : List Nat :=
  log.filterMap fun
    | .opened channel (.ok _) => some channel
    | _ => none

def released (log : Log) : List Nat :=
  log.filterMap fun
    | .closed channel _ => some channel
    | _ => none

@[simp] theorem made_append (one other : Log) : made (one ++ other) = made one ++ made other :=
  List.filterMap_append

@[simp] theorem connected_append (one other : Log) :
    connected (one ++ other) = connected one ++ connected other :=
  List.filterMap_append

@[simp] theorem released_append (one other : Log) :
    released (one ++ other) = released one ++ released other :=
  List.filterMap_append

end Log

/-- Whether an entry may come after a log: channels are created and opened, registries asked and
pauses made only while no channel is live, and calls are made over the one that is. -/
def Entry.Timely (before : Log) : Entry → Prop
  | .slept _ => before.connected = before.released
  | .lookedUp _ _ _ => before.connected = before.released
  | .created _ _ _ => before.connected = before.released
  | .opened _ _ => before.connected = before.released
  | .closed channel _ => before.connected = before.released ++ [channel]
  | .adopted channel => before.connected = before.released ++ [channel]
  | .called channel _ _ _ _ => before.connected = before.released ++ [channel]
  | _ => True

/-- The account of a log at the end of which `held` is live: every channel that was opened but that
one was closed again, and nothing was done out of time. -/
structure Log.Custody (log : Log) (held : Option Nat) : Prop where
  live : log.connected = log.released ++ held.toList
  timely : ∀ before entry after, log = before ++ entry :: after → entry.Timely before
  once : log.connected.Sublist log.made

/-! The machine. -/

def Entry.live? (held : Option Nat) : Entry → Option (Option Nat)
  | .slept _ => if held = none then some none else none
  | .lookedUp _ _ _ => if held = none then some none else none
  | .created _ _ _ => if held = none then some none else none
  | .opened _ (.error _) => if held = none then some none else none
  | .opened channel (.ok _) => if held = none then some (some channel) else none
  | .closed channel _ => if held = some channel then some none else none
  | .adopted channel => if held = some channel then some held else none
  | .called channel _ _ _ _ => if held = some channel then some held else none
  | .posted _ _ => some held
  | .requested _ => some held
  | .printed _ => some held

def Log.live? (held : Option Nat) : Log → Option (Option Nat)
  | [] => some held
  | entry :: rest => (entry.live? held).bind fun next => live? next rest

theorem Log.live?_append {one other : Log} {held middle : Option Nat}
    (first : one.live? held = some middle) :
    Log.live? held (one ++ other) = other.live? middle := by
  induction one generalizing held with
  | nil =>
    cases first
    rfl
  | cons entry rest ih =>
    obtain ⟨next, step, later⟩ := Option.bind_eq_some_iff.mp first
    rw [List.cons_append, live?, step]
    exact ih later

theorem Entry.live?_sound {entry : Entry} {log : Log} {held next : Option Nat}
    (balance : log.connected = log.released ++ held.toList) (step : entry.live? held = some next) :
    entry.Timely log ∧
      Log.connected (log ++ [entry]) = Log.released (log ++ [entry]) ++ next.toList := by
  rw [Log.connected_append, Log.released_append, balance]
  -- An entry needs that no channel is live, or that its own is.
  have idle : ∀ {after : Option Nat}, (if held = none then some after else none) = some next →
      log.released ++ held.toList = log.released ∧ held.toList = [] ∧ after = next := by
    intro after moves
    split at moves
    · rename_i free
      cases moves
      simp [free]
    · cases moves
  have busy : ∀ {channel : Nat} {after : Option Nat},
      (if held = some channel then some after else none) = some next →
      log.released ++ held.toList = log.released ++ [channel] ∧ held.toList = [channel] ∧
        after = next := by
    intro channel after moves
    split at moves
    · rename_i holds
      cases moves
      simp [holds]
    · cases moves
  cases entry with
  | slept span =>
    obtain ⟨timely, empty, rfl⟩ := idle step
    exact ⟨balance.trans timely, by simp [empty, Log.connected, Log.released]⟩
  | lookedUp path patience answer =>
    obtain ⟨timely, empty, rfl⟩ := idle step
    exact ⟨balance.trans timely, by simp [empty, Log.connected, Log.released]⟩
  | created channel uri setup =>
    obtain ⟨timely, empty, rfl⟩ := idle step
    exact ⟨balance.trans timely, by simp [empty, Log.connected, Log.released]⟩
  | opened channel result =>
    cases result with
    | error failure =>
      obtain ⟨timely, empty, rfl⟩ := idle step
      exact ⟨balance.trans timely, by simp [empty, Log.connected, Log.released]⟩
    | ok done =>
      obtain ⟨timely, empty, rfl⟩ := idle step
      exact ⟨balance.trans timely, by simp [empty, Log.connected, Log.released]⟩
  | closed channel wasOpen =>
    obtain ⟨timely, holds, rfl⟩ := busy step
    exact ⟨balance.trans timely, by simp [holds, Log.connected, Log.released]⟩
  | adopted channel =>
    obtain ⟨timely, holds, rfl⟩ := busy step
    exact ⟨balance.trans timely, by simp [holds, Log.connected, Log.released]⟩
  | called channel sequence method arguments answer =>
    obtain ⟨timely, holds, rfl⟩ := busy step
    exact ⟨balance.trans timely, by simp [holds, Log.connected, Log.released]⟩
  | posted channel message =>
    cases step
    exact ⟨trivial, by simp [Log.connected, Log.released]⟩
  | requested request =>
    cases step
    exact ⟨trivial, by simp [Log.connected, Log.released]⟩
  | printed text =>
    cases step
    exact ⟨trivial, by simp [Log.connected, Log.released]⟩

theorem Log.live?_sound {log more : Log} {held last : Option Nat}
    (balance : log.connected = log.released ++ held.toList) (goes : more.live? held = some last) :
    Log.connected (log ++ more) = Log.released (log ++ more) ++ last.toList ∧
      ∀ before entry after, more = before ++ entry :: after → entry.Timely (log ++ before) := by
  -- Each entry is moved over to the log, which says what is live before the next one.
  induction more generalizing log held with
  | nil =>
    cases goes
    refine ⟨by rw [List.append_nil]; exact balance, ?_⟩
    intro before entry after split
    cases before <;> cases split
  | cons head rest ih =>
    obtain ⟨next, step, later⟩ := Option.bind_eq_some_iff.mp goes
    obtain ⟨timely, balanced⟩ := Entry.live?_sound balance step
    obtain ⟨settled, orderly⟩ := ih balanced later
    rw [List.append_assoc, List.singleton_append] at settled
    refine ⟨settled, ?_⟩
    intro before entry after split
    cases before with
    | nil =>
      cases split
      rw [List.append_nil]
      exact timely
    | cons first before =>
      cases split
      have moment := orderly before entry after rfl
      rw [List.append_assoc, List.singleton_append] at moment
      exact moment

theorem Log.Custody.nil : Log.Custody [] none where
  live := rfl
  timely before entry after split := by cases before <;> cases split
  once := .slnil

/-- What is done in a stretch of time, from one live channel to the next. -/
structure Log.Handover (done : Log) (held last : Option Nat) : Prop where
  live : done.live? held = some last
  once : done.connected.Sublist done.made

theorem Log.Custody.extend {log done : Log} {held last : Option Nat} (custody : log.Custody held)
    (handover : done.Handover held last) : Log.Custody (log ++ done) last := by
  obtain ⟨live, timely⟩ := live?_sound custody.live handover.live
  refine ⟨live, ?_, ?_⟩
  · intro before entry after split
    -- The entry is one of the new ones, the first of them, or an old one.
    rcases List.append_eq_append_iff.mp split with
      ⟨between, rfl, late⟩ | ⟨between, early, rest⟩
    · exact timely between entry after late
    · cases between with
      | nil =>
        rw [List.append_nil] at early
        subst early
        have moment := timely [] entry after rest.symm
        rwa [List.append_nil] at moment
      | cons first between =>
        cases rest
        exact custody.timely before entry between early
  · rw [connected_append, made_append]
    exact custody.once.append handover.once

theorem Log.Handover.nil (held : Option Nat) : Log.Handover [] held held := ⟨rfl, .slnil⟩

theorem Log.Handover.append {one other : Log} {held middle last : Option Nat}
    (first : one.Handover held middle) (second : other.Handover middle last) :
    Log.Handover (one ++ other) held last := by
  refine ⟨(live?_append first.live).trans second.live, ?_⟩
  rw [connected_append, made_append]
  exact first.once.append second.once

theorem Log.Handover.of_entry {entry : Entry} {held last : Option Nat}
    (live : entry.live? held = some last) (idle : connected [entry] = []) :
    Log.Handover [entry] held last := by
  refine ⟨?_, ?_⟩
  · rw [live?, live]
    rfl
  · rw [idle]
    exact List.nil_sublist _

def Locator.isKnown : Locator → Bool
  | .direct _ => true
  | .registry locator => locator.found.isSome

/-! What a link holds. -/

namespace Link

def held (link : Link Nat) : Option Nat := link.connection.map (·.channel)

def bare (link : Link Nat) : Link Nat :=
  { link with locator := link.locator.forget, connection := none, epoch := 0 }

/-- A link that was made as `origin` says. If it holds a channel, it knows where its scheduler is,
so it need not ask. -/
structure Sound (origin : Except LinkFailure (Link Nat)) (link : Link Nat) : Prop where
  settled : link.held ≠ none → link.locator.isKnown = true
  bare : origin = .ok link.bare

end Link

def heldBy (owner : Option (Link Nat)) : Option Nat := owner.bind Link.held

def epochOf (owner : Option (Link Nat)) : Nat := (owner.map (·.epoch)).getD 0

def Owned (origin : Except LinkFailure (Link Nat)) (owner : Option (Link Nat)) : Prop :=
  ∀ link, owner = some link → link.Sound origin

/-- What was done by one who may have a link, and what link they have after it. -/
structure Tended (origin : Except LinkFailure (Link Nat)) (owner : Option (Link Nat)) (done : Log)
    (after : Option (Link Nat)) : Prop where
  handover : done.Handover (heldBy owner) (heldBy after)
  epoch : ∀ link, after = some link → link.epoch = epochOf owner + done.connected.length
  owned : Owned origin after

def Tends (origin : Except LinkFailure (Link Nat)) (owner : Option (Link Nat)) (done : Log) :
    Except Halt (Option (Link Nat)) → Prop
  | .ok after => Tended origin owner done after
  | .error _ => ∃ last, done.Handover (heldBy owner) last

variable {origin : Except LinkFailure (Link Nat)}

theorem Owned.of_link {link : Link Nat} (sound : link.Sound origin) : Owned origin (some link) := by
  intro same kept
  cases kept
  exact sound

namespace Tended

variable {owner after : Option (Link Nat)} {link : Link Nat} {done more : Log}

theorem refl (owned : Owned origin owner) : Tended origin owner [] owner := by
  refine ⟨.nil _, ?_, owned⟩
  intro same kept
  rw [kept]
  rfl

theorem trans (first : Tended origin owner done (some link))
    (second : Tended origin (some link) more after) : Tended origin owner (done ++ more) after := by
  refine ⟨first.handover.append second.handover, ?_, second.owned⟩
  intro last kept
  have earlier : link.epoch = epochOf owner + done.connected.length := first.epoch link rfl
  have later : last.epoch = link.epoch + more.connected.length := second.epoch last kept
  rw [Log.connected_append, List.length_append]
  omega

theorem trans_tends {outcome : Except Halt (Option (Link Nat))}
    (first : Tended origin owner done (some link))
    (second : Tends origin (some link) more outcome) :
    Tends origin owner (done ++ more) outcome := by
  cases outcome with
  | ok after => exact first.trans second
  | error halt =>
    obtain ⟨last, handover⟩ := second
    exact ⟨last, first.handover.append handover⟩

end Tended

variable {σ : Type} {scene : Scene σ}

namespace Opening

def won (channel : Nat) : Except Halt (Except LinkFailure Unit) → Option Nat
  | .ok (.ok _) => some channel
  | _ => none

variable {options : LinkOptions} {uri : String} {limit : Option Deadline} {channel failed : Nat}
  {state stop : σ} {done : Log} {outcome : Except Halt (Except LinkFailure Unit)}

theorem live? (opening : Opening scene options uri limit channel failed state done outcome stop) :
    done.live? none = some (won channel outcome) := by
  induction opening with
  | unfinished => rfl
  | opened _ => rfl
  | givenUp _ _ => rfl
  | again _ _ _ ih => exact ih

theorem connected
    (opening : Opening scene options uri limit channel failed state done outcome stop) :
    done.connected = (won channel outcome).toList := by
  induction opening with
  | unfinished => rfl
  | opened _ => rfl
  | givenUp _ _ => rfl
  | again _ _ _ ih => exact ih

theorem handover {setup : ChannelSetup}
    (opening : Opening scene options uri limit channel failed state done outcome stop) :
    Log.Handover (.created channel uri setup :: done) none (won channel outcome) := by
  refine ⟨opening.live?, ?_⟩
  change List.Sublist (Log.connected done) (channel :: Log.made done)
  rw [opening.connected]
  unfold won
  split
  · exact (List.nil_sublist _).cons_cons channel
  · exact List.nil_sublist _

end Opening

namespace Locating

variable {state stop : σ} {locator after : Locator} {done : Log} {base : String}
  {outcome : Except Halt (Except LinkFailure String × Locator)}

theorem handover (locating : Locating scene state locator done outcome stop) :
    done.Handover none none := by
  cases locating with
  | fixed => exact .nil none
  | known _ => exact .nil none
  | found _ _ _ => exact .of_entry rfl rfl
  | nobody _ _ _ => exact .of_entry rfl rfl
  | halted _ _ => exact .of_entry rfl rfl

theorem connected (locating : Locating scene state locator done outcome stop) :
    done.connected = [] := by
  cases locating <;> rfl

theorem forget {result : Except LinkFailure String}
    (locating : Locating scene state locator done (.ok (result, after)) stop) :
    after.forget = locator.forget := by
  cases locating <;> rfl

theorem isKnown (locating : Locating scene state locator done (.ok (.ok base, after)) stop) :
    after.isKnown = true := by
  cases locating with
  | fixed => rfl
  | known found => rw [Locator.isKnown, found]; rfl
  | found _ _ _ => rfl

theorem quiet (locating : Locating scene state locator done outcome stop)
    (known : locator.isKnown = true) :
    done = [] ∧ ∃ result, outcome = .ok (result, locator) := by
  cases locating with
  | fixed => exact ⟨rfl, _, rfl⟩
  | known _ => exact ⟨rfl, _, rfl⟩
  | found unknown _ _ => rw [Locator.isKnown, unknown] at known; cases known
  | nobody unknown _ _ => rw [Locator.isKnown, unknown] at known; cases known
  | halted unknown _ => rw [Locator.isKnown, unknown] at known; cases known

end Locating

@[simp] theorem Locator.forget_forget (locator : Locator) :
    locator.forget.forget = locator.forget := by
  cases locator <;> rfl

theorem Link.bare_released (link : Link Nat) : link.released.bare = link.bare := by
  simp only [bare, released, Locator.forget_forget]

theorem Link.Sound.of_idle {link idle : Link Nat} (sound : link.Sound origin)
    (still : idle.connection = none) (same : idle.bare = link.bare) : idle.Sound origin := by
  refine ⟨?_, sound.bare.trans (by rw [same])⟩
  intro holds
  rw [held, still] at holds
  exact absurd rfl holds

theorem heldBy_eq_none {link : Link Nat} (idle : link.connection = none) :
    heldBy (some link) = none := by
  change link.connection.map _ = none
  rw [idle]
  rfl

theorem Tended.of_idle {link idle : Link Nat} {done : Log} (sound : link.Sound origin)
    (free : link.connection = none) (still : idle.connection = none)
    (epoch : idle.epoch = link.epoch) (same : idle.bare = link.bare)
    (handover : done.Handover none none) (unconnected : done.connected = []) :
    Tended origin (some link) done (some idle) := by
  refine ⟨?_, ?_, .of_link (sound.of_idle still same)⟩
  · rw [heldBy_eq_none free, heldBy_eq_none still]
    exact handover
  · intro kept has
    cases has
    rw [unconnected]
    exact epoch

namespace Reaching

variable {limit : Option Deadline} {link : Link Nat} {base : String} {state stop : σ} {done : Log}
  {outcome : Except Halt (Except LinkFailure (Connection Nat) × Link Nat)}

theorem tends (reaching : Reaching scene limit link base state done outcome stop)
    (sound : link.Sound origin) (idle : link.connection = none)
    (known : link.locator.isKnown = true) :
    Tends origin (some link) done (outcome.map fun result => some result.2) := by
  cases reaching with
  | misaddressed _ => exact .refl (.of_link sound)
  | overflow _ _ => exact ⟨_, .nil _⟩
  | halted _ _ _ opening => exact ⟨_, heldBy_eq_none idle ▸ opening.handover⟩
  | unopened _ _ _ opening =>
    exact .of_idle sound idle idle rfl rfl opening.handover opening.connected
  | @connected _ _ channel _ _ tried _ _ _ opening =>
    refine ⟨?_, ?_, .of_link ⟨fun _ => known, sound.bare⟩⟩
    · rw [heldBy_eq_none idle]
      exact opening.handover.append (.of_entry (if_pos rfl) rfl)
    · intro kept has
      cases has
      have one : Log.connected tried = [channel] := opening.connected
      change link.epoch + 1 = link.epoch + (Log.connected (tried ++ [.adopted channel])).length
      rw [Log.connected_append, one]
      rfl

end Reaching

namespace Connecting

variable {limit : Option Deadline} {link : Link Nat} {state stop : σ} {done : Log}
  {outcome : Except Halt (Except LinkFailure (Connection Nat) × Link Nat)}

theorem tends (connecting : Connecting scene limit link state done outcome stop)
    (sound : link.Sound origin) :
    Tends origin (some link) done (outcome.map fun result => some result.2) := by
  cases connecting with
  | held _ => exact .refl (.of_link sound)
  | halted idle locating => exact ⟨none, heldBy_eq_none idle ▸ locating.handover⟩
  | @unlocated _ _ locator _ idle locating =>
    have same : Link.bare { link with locator, connection := none } = link.bare := by
      simp only [Link.bare, locating.forget]
    exact .of_idle sound idle rfl rfl same locating.handover locating.connected
  | @reached _ _ _ locator _ _ _ idle locating reaching =>
    have same : Link.bare { link with locator, connection := none } = link.bare := by
      simp only [Link.bare, locating.forget]
    have located : Tended origin (some link) _ (some { link with locator, connection := none }) :=
      .of_idle sound idle rfl rfl same locating.handover locating.connected
    exact located.trans_tends (reaching.tends (located.owned _ rfl) rfl locating.isKnown)

theorem tended {result : Except LinkFailure (Connection Nat)} {after : Link Nat}
    (connecting : Connecting scene limit link state done (.ok (result, after)) stop)
    (sound : link.Sound origin) : Tended origin (some link) done (some after) :=
  connecting.tends sound

end Connecting

theorem Releasing.handover {state stop : σ} {connection : Option (Connection Nat)} {done : Log}
    (releasing : Releasing scene state connection done stop) :
    done.Handover (connection.map (·.channel)) none := by
  cases releasing with
  | idle => exact .nil none
  | closed _ => exact .of_entry (if_pos rfl) rfl

theorem Releasing.connected {state stop : σ} {connection : Option (Connection Nat)} {done : Log}
    (releasing : Releasing scene state connection done stop) : done.connected = [] := by
  cases releasing <;> rfl

theorem Tended.of_releasing {state stop : σ} {link idle : Link Nat} {done : Log}
    (sound : link.Sound origin) (releasing : Releasing scene state link.connection done stop)
    (still : idle.connection = none) (epoch : idle.epoch = link.epoch)
    (same : idle.bare = link.bare) : Tended origin (some link) done (some idle) := by
  refine ⟨?_, ?_, .of_link (sound.of_idle still same)⟩
  · rw [heldBy_eq_none still]
    exact releasing.handover
  · intro kept has
    cases has
    rw [releasing.connected]
    exact epoch

theorem Log.Handover.of_call {connection : Connection Nat} {link : Link Nat} {sequence : Int32}
    {method : Method} {arguments : List Json} {answer : Except Halt (Except CallFailure Response)}
    (holds : link.connection = some connection) :
    Log.Handover [.called connection.channel sequence method arguments answer]
      (heldBy (some link)) (some connection.channel) := by
  have held : heldBy (some link) = some connection.channel := by
    change link.connection.map _ = _
    rw [holds]
    rfl
  rw [held]
  exact .of_entry (if_pos rfl) rfl

theorem Link.Sound.next {connection : Connection Nat} {link : Link Nat}
    (sound : link.Sound origin) (holds : link.connection = some connection) :
    Link.Sound origin { link with connection := some connection.next } := by
  refine ⟨?_, sound.bare⟩
  intro _
  apply sound.settled
  rw [held, holds]
  exact Option.some_ne_none _

theorem Tended.of_call {connection : Connection Nat} {link : Link Nat} {sequence : Int32}
    {method : Method} {arguments : List Json} {answer : Except Halt (Except CallFailure Response)}
    (holds : link.connection = some connection) (sound : link.Sound origin) :
    Tended origin (some link) [.called connection.channel sequence method arguments answer]
      (some { link with connection := some connection.next }) := by
  refine ⟨.of_call holds, ?_, .of_link (sound.next holds)⟩
  intro kept has
  cases has
  rfl

namespace Tended

variable {owner : Option (Link Nat)} {idle : Link Nat} {done : Log}

theorem released (tended : Tended origin owner done (some idle)) (still : idle.connection = none) :
    Tended origin owner done (some idle.released) := by
  refine ⟨?_, ?_, .of_link ((tended.owned idle rfl).of_idle rfl idle.bare_released)⟩
  · have handover := tended.handover
    rw [heldBy_eq_none still] at handover
    exact handover
  · intro kept has
    cases has
    exact tended.epoch idle rfl

theorem discarded (tended : Tended origin owner done (some idle)) (still : idle.connection = none) :
    Tended origin owner done none := by
  refine ⟨?_, ?_, ?_⟩
  · have handover := tended.handover
    rw [heldBy_eq_none still] at handover
    exact handover
  · intro kept has
    cases has
  · intro kept has
    cases has

end Tended

/-! Calls of sessions. -/

structure Session.Sound (scene : Scene σ) (origin : Except LinkFailure (Link Nat))
    (session : Session Nat) : Prop where
  makes : Link.ofCluster scene.surroundings session.cluster session.options = origin
  owned : Owned origin session.link

theorem Tended.of_linkOf {session : Session Nat} {link : Link Nat}
    (sound : session.Sound scene origin) (built : session.linkOf scene.surroundings = .ok link) :
    Tended origin session.link [] (some link) := by
  unfold Session.linkOf at built
  cases has : session.link with
  | some known =>
    simp only [has, Except.ok.injEq] at built
    subst built
    exact .refl (has ▸ sound.owned)
  | none =>
    simp only [has] at built
    have new := Link.isNew_of_ofCluster built
    have same : link = link.bare := by
      obtain ⟨locator, login, options, connection, epoch⟩ := link
      obtain ⟨idle, first, forgetful⟩ := new
      cases idle
      cases first
      simp only [Link.bare, forgetful]
    refine ⟨?_, ?_, .of_link ⟨?_, ?_⟩⟩
    · rw [heldBy_eq_none new.idle]
      exact .nil none
    · intro kept has
      cases has
      exact new.epoch
    · intro holds
      rw [Link.held, new.idle] at holds
      exact absurd rfl holds
    · rw [← sound.makes, built, ← same]

namespace Attempting

variable {call : PendingCall} {session after : Session Nat} {state stop : σ} {done : Log}
  {outcome : Except Halt (Attempt × Session Nat)}

theorem tends (attempting : Attempting scene call session state done outcome stop)
    (sound : session.Sound scene origin) :
    Tends origin session.link done (outcome.map fun result => result.2.link) := by
  have connected : ∀ {link ready : Link Nat} {result : Except LinkFailure (Connection Nat)}
      {middle : σ} {tried : Log}, session.linkOf scene.surroundings = .ok link →
      Connecting scene (some call.deadline) link state tried (.ok (result, ready)) middle →
      Tended origin session.link tried (some ready) := by
    intro link ready result middle tried built connecting
    have made := Tended.of_linkOf sound built
    exact made.trans (connecting.tended (made.owned link rfl))
  cases attempting with
  | unbuilt _ => exact .refl sound.owned
  | halted built connecting =>
    have made := Tended.of_linkOf sound built
    exact made.trans_tends (connecting.tends (made.owned _ rfl))
  | interrupted built connecting => exact connected built connecting
  | tooLate built connecting => exact (connected built connecting).released connecting.idle_of_error
  | unreachable built _ connecting =>
    exact (connected built connecting).discarded connecting.idle_of_error
  | callHalted built connecting _ =>
    have ready := connected built connecting
    exact ready.trans_tends ⟨_, .of_call connecting.ready_of_ok⟩
  | answered built connecting _ _ =>
    have ready := connected built connecting
    exact ready.trans (.of_call connecting.ready_of_ok (ready.owned _ rfl))
  | @failed _ last _ _ parting _ _ _ _ built connecting _ _ releasing =>
    have ready := connected built connecting
    have known := ready.owned last rfl
    refine ready.trans ?_
    change Tended _ _ ([.called _ _ _ _ _] ++ parting) _
    exact Tended.trans (.of_call connecting.ready_of_ok known)
      (.of_releasing (known.next connecting.ready_of_ok) releasing rfl rfl last.bare_released)

theorem tended {attempt : Attempt}
    (attempting : Attempting scene call session state done (.ok (attempt, after)) stop)
    (sound : session.Sound scene origin) : Tended origin session.link done after.link :=
  attempting.tends sound

theorem sound {attempt : Attempt}
    (attempting : Attempting scene call session state done (.ok (attempt, after)) stop)
    (sound : session.Sound scene origin) : after.Sound scene origin := by
  refine ⟨?_, (attempting.tended sound).owned⟩
  cases attempting <;> exact sound.makes

theorem idle {attempt : Attempt}
    (attempting : Attempting scene call session state done (.ok (attempt, after)) stop)
    (unfinished : attempt.isFinished = false) :
    ∃ link, after.link = some link ∧ link.connection = none := by
  cases attempting with
  | unbuilt _ => cases unfinished
  | interrupted _ connecting => exact ⟨_, rfl, connecting.idle_of_error⟩
  | tooLate _ _ => exact ⟨_, rfl, rfl⟩
  | unreachable _ _ _ => cases unfinished
  | answered _ _ _ _ => cases unfinished
  | failed _ _ _ _ _ => exact ⟨_, rfl, rfl⟩

/-- What follows an attempt that is not the last one is done with an idle link. -/
theorem trans_tends {attempt : Attempt} {more : Log} {ending : Except Halt (Option (Link Nat))}
    (attempting : Attempting scene call session state done (.ok (attempt, after)) stop)
    (unfinished : attempt.isFinished = false) (sound : session.Sound scene origin)
    (later : ∀ link, after.link = some link → link.Sound origin → link.connection = none →
      Tends origin (some link) more ending) :
    Tends origin session.link (done ++ more) ending := by
  obtain ⟨link, linked, idle⟩ := attempting.idle unfinished
  have tended := attempting.tended sound
  rw [linked] at tended
  exact tended.trans_tends (later link linked (tended.owned link rfl) idle)

end Attempting

namespace Course

variable {call : PendingCall} {made : Nat} {lastError : String} {session after : Session Nat}
  {state stop : σ} {done : Log}
  {outcome : Except Halt (Except SessionFailure Response × Session Nat)}

theorem tends (course : Course scene call made lastError session state done outcome stop)
    (sound : session.Sound scene origin) :
    Tends origin session.link done (outcome.map fun result => result.2.link) := by
  induction course with
  | unfinished => exact ⟨_, .nil _⟩
  | terminated _ => exact .refl sound.owned
  | timedOut _ _ _ => exact .refl sound.owned
  | halted _ _ attempting => exact attempting.tends sound
  | finished _ _ attempting => exact attempting.tends sound
  | interrupted _ _ attempting _ ih =>
    apply attempting.trans_tends rfl sound
    intro link linked _ _
    exact linked ▸ ih (attempting.sound sound)
  | @paused _ _ _ _ _ _ _ _ _ _ pause _ _ _ attempting _ _ ih =>
    apply attempting.trans_tends rfl sound
    intro link linked known idle
    have rested : Tended origin (some link) [.slept pause] (some link) :=
      .of_idle known idle idle rfl rfl (.of_entry rfl rfl) rfl
    exact rested.trans_tends (linked ▸ ih (attempting.sound sound))
  | spent _ _ attempting _ _ ih =>
    apply attempting.trans_tends rfl sound
    intro link linked _ _
    exact linked ▸ ih (attempting.sound sound)

end Course

theorem Invoking.tends {session : Session Nat} {request : Request} {repeatable : Bool}
    {state stop : σ} {done : Log}
    {outcome : Except Halt (Except SessionFailure Response × Session Nat)}
    (invoking : Invoking scene session request repeatable state done outcome stop)
    (sound : session.Sound scene origin) :
    Tends origin session.link done (outcome.map fun result => result.2.link) := by
  cases invoking with
  | misfit _ => exact .refl sound.owned
  | overflow _ _ => exact ⟨_, .nil _⟩
  | course _ _ course => exact course.tends sound

end SchedulerLink
