import SchedulerLink.Proofs.Discovery
import SchedulerLink.Proofs.Serverset.Election

/-!
When a directory is read that may have no live member yet.

The times of the readings and their number are told without following the loop: one reading at once,
one after each whole interval before the time is over, and one at the very end of that time.
-/

namespace SchedulerLink

variable {σ : Type} {scene : Scene σ}

theorem Scene.reads_disk {disk : Disk σ} {files : FileStore (StateM σ)} (holds : disk.Holds files) :
    scene.Reads files where
  list path state := by
    rw [holds.list]
    exact ⟨.refl scene state, trivial⟩
  read path state := by
    rw [holds.read]
    exact ⟨.refl scene state, trivial⟩

def Scene.Lasts (scene : Scene σ) (kept : σ → Prop) : Prop :=
  ∀ span state, kept state → kept ((scene.surroundings.pause span).run state).2

namespace Directory

/-! The pauses between readings. -/

def pausesIn (patience : Duration) : Nat := (patience.nanos + interval.nanos - 1) / interval.nanos

/-- The time of a reading that so many pauses have preceded. -/
def waited (patience : Duration) (paused : Nat) : Duration :=
  ⟨min (paused * interval.nanos) patience.nanos⟩

def nextPause (patience : Duration) (paused : Nat) : Duration :=
  waited patience (paused + 1) - waited patience paused

theorem interval_nanos : interval.nanos = 250000000 := rfl

theorem waited_nanos (patience : Duration) (paused : Nat) :
    (waited patience paused).nanos = min (paused * 250000000) patience.nanos := rfl

theorem waited_of_lt {patience : Duration} {paused : Nat} (early : paused < pausesIn patience) :
    (waited patience paused).nanos = paused * interval.nanos ∧
      waited patience paused < patience := by
  rw [pausesIn, interval_nanos] at early
  have less : paused * 250000000 < patience.nanos := by omega
  refine ⟨(waited_nanos _ _).trans (Nat.min_eq_left (Nat.le_of_lt less)), ?_⟩
  exact Nat.lt_of_le_of_lt (Nat.min_le_left _ _) less

theorem waited_pausesIn (patience : Duration) : waited patience (pausesIn patience) = patience := by
  have full : patience.nanos ≤ pausesIn patience * interval.nanos := by
    rw [pausesIn, interval_nanos]
    omega
  exact congrArg Duration.mk (Nat.min_eq_right full)

theorem nextPause_of_lt {patience : Duration} {paused : Nat} (early : paused < pausesIn patience) :
    min interval (patience - waited patience paused) = nextPause patience paused := by
  obtain ⟨whole, -⟩ := waited_of_lt early
  apply Duration.nanos_injective
  rw [nextPause, Duration.nanos_min, Duration.nanos_sub, Duration.nanos_sub, whole,
    waited_nanos, interval_nanos]
  omega

def pausesBefore (patience : Duration) (paused : Nat) : Log :=
  (List.range paused).map fun earlier => .slept (nextPause patience earlier)

theorem pausesBefore_succ (patience : Duration) (paused : Nat) :
    pausesBefore patience (paused + 1) =
      pausesBefore patience paused ++ [.slept (nextPause patience paused)] := by
  rw [pausesBefore, List.range_succ, List.map_append]
  rfl

theorem slept_pausesBefore (patience : Duration) (paused : Nat) :
    (pausesBefore patience paused).slept = waited patience paused := by
  apply Duration.nanos_injective
  induction paused with
  | zero =>
    rw [waited_nanos, Nat.zero_mul, Nat.zero_min]
    rfl
  | succ paused ih =>
    rw [pausesBefore_succ, Log.nanos_slept_append, ih, Log.nanos_slept_pause, Log.slept_nil,
      Duration.nanos_zero, nextPause, Duration.nanos_sub, waited_nanos, waited_nanos]
    omega

/-! The states at the readings. -/

section Readings

variable {α : Type}

def afterPauses (scene : Scene σ) (read : StateM σ α) (patience : Duration) (state : σ) : Nat → σ
  | 0 => state
  | paused + 1 =>
    ((scene.surroundings.pause (nextPause patience paused)).run
      (read.run (afterPauses scene read patience state paused)).2).2

theorem afterPauses_passes {read : StateM σ α} (quiet : scene.IsQuiet read fun _ => True)
    (patience : Duration) (state : σ) (paused : Nat) :
    scene.Passes state (pausesBefore patience paused)
      (afterPauses scene read patience state paused) := by
  induction paused with
  | zero => exact .refl scene state
  | succ paused ih =>
    rw [pausesBefore_succ]
    exact ih.trans ((quiet _).1.trans (scene.pause_passes _ _))

theorem afterPauses_clock {read : StateM σ α} (quiet : scene.IsQuiet read fun _ => True)
    (patience : Duration) (state : σ) (paused : Nat) :
    scene.clock (afterPauses scene read patience state paused) =
      scene.clock state + waited patience paused := by
  rw [(afterPauses_passes quiet patience state paused).clock, slept_pausesBefore]

end Readings

/-! One reading. -/

section Step

variable {files : FileStore (StateM σ)} {directory path : String} {patience : Duration}
  {deadline : Deadline} {state next : σ} {answer : Except DiscoveryFailure (List Member)}

/-- A reading that finds somebody or fails is the last one. -/
theorem poll_decided
    (reads : (readMembers (scene.watch files) directory).run state = (answer, next))
    (decided : answer ≠ .ok []) (fuel : Nat) :
    (poll (scene.watch files) directory path patience deadline (fuel + 1)).play state =
      (.ok answer, next) := by
  rw [poll, Run.play_bind, Run.play_lift, reads]
  rcases answer with failure | _ | ⟨first, rest⟩
  · rfl
  · exact absurd rfl decided
  · rfl

theorem poll_nobody (reads : (readMembers (scene.watch files) directory).run state = (.ok [], next))
    (fuel : Nat) :
    (poll (scene.watch files) directory path patience deadline (fuel + 1)).play state =
      let remaining := deadline.remaining (scene.clock next)
      if remaining = .zero then (.ok (.error (.timeout path patience)), next)
      else (poll (scene.watch files) directory path patience deadline fuel).play
        ((scene.surroundings.pause (min interval remaining)).run next).2 := by
  have now : (scene.watch files).now.run next = (scene.clock next, next) := scene.now_run next
  simp only [poll, Run.play_bind, Run.play_lift, reads, now]
  split
  · rfl
  · simp only [Run.play_bind, Run.play_lift]
    rfl

end Step

/-! All readings. -/

/-- What a lookup comes to when its last reading is the one that so many pauses have preceded. -/
inductive Ends (path : String) (patience : Duration)
    (answers : Nat → Except DiscoveryFailure (List Member)) (paused : Nat) :
    Except DiscoveryFailure (List Member) → Prop where
  | decided (somebody : answers paused ≠ .ok []) :
    Ends path patience answers paused (answers paused)
  | late (nobody : answers paused = .ok []) (last : paused = pausesIn patience) :
    Ends path patience answers paused (.error (.timeout path patience))

/-- Only the end of the time makes a lookup take too long. -/
theorem Ends.of_timeout {path place : String} {patience span : Duration}
    {answers : Nat → Except DiscoveryFailure (List Member)} {paused : Nat}
    {result : Except DiscoveryFailure (List Member)}
    (ends : Ends path patience answers paused result) (late : result = .error (.timeout place span))
    (fails : ∀ failure, answers paused = .error failure →
      ∃ detail, failure = .unavailable detail) :
    answers paused = .ok [] ∧ paused = pausesIn patience ∧ place = path ∧ span = patience := by
  cases ends with
  | decided somebody =>
    obtain ⟨detail, other⟩ := fails _ late
    cases other
  | late nobody last =>
    cases late
    exact ⟨nobody, last, rfl, rfl⟩

section Course

variable {files : FileStore (StateM σ)} {directory : String} {patience : Duration}

theorem poll_ends (path : String) (state : σ)
    (quiet : scene.IsQuiet (readMembers (scene.watch files) directory) fun _ => True)
    {fuel paused : Nat} (inTime : paused ≤ pausesIn patience)
    (enough : pausesIn patience < paused + fuel) :
    let read := readMembers (scene.watch files) directory
    let before := afterPauses scene read patience state
    let answers := fun paused => (read.run (before paused)).1
    ∃ last, paused ≤ last ∧ last ≤ pausesIn patience ∧
      (∀ earlier, paused ≤ earlier → earlier < last → answers earlier = .ok []) ∧
      ∃ result, Ends path patience answers last result ∧
        (poll (scene.watch files) directory path patience ⟨scene.clock state + patience⟩ fuel).play
          (before paused) = (.ok result, (read.run (before last)).2) := by
  intro read before answers
  -- By induction on the readings that may still be made; `paused` counts those that were.
  induction fuel generalizing paused with
  | zero => omega
  | succ fuel ih =>
    rcases reads : read.run (before paused) with ⟨answer, next⟩
    have answered : answers paused = answer := congrArg Prod.fst reads
    by_cases decided : answer = .ok []
    · subst decided
      -- The reading takes no time, so what is left is known.
      have left : (Deadline.mk (scene.clock state + patience)).remaining (scene.clock next) =
          patience - waited patience paused := by
        have passes := (quiet (before paused)).1
        rw [reads] at passes
        apply Duration.nanos_injective
        rw [passes.still rfl, afterPauses_clock quiet, Deadline.remaining, Duration.nanos_sub,
          Duration.nanos_sub, Duration.nanos_add, Duration.nanos_add]
        omega
      rw [poll_nobody reads, left]
      rcases Nat.eq_or_lt_of_le inTime with last | early
      · have spent : patience - waited patience paused = .zero := by
          rw [last, waited_pausesIn]
          exact Duration.eq_zero_iff_nanos.mpr (Nat.sub_self _)
        refine ⟨paused, Nat.le_refl _, inTime, fun earlier start stop => by omega, _,
          .late answered last, ?_⟩
        simp only [spent, if_true, reads]
      · have remains : patience - waited patience paused ≠ .zero := by
          have less : (waited patience paused).nanos < patience.nanos := (waited_of_lt early).2
          rw [Ne, Duration.eq_zero_iff_nanos, Duration.nanos_sub]
          omega
        obtain ⟨last, later, within, nobody, result, ends, polls⟩ :=
          ih (Nat.succ_le_of_lt early) (by omega)
        refine ⟨last, by omega, within, ?_, result, ends, ?_⟩
        · intro earlier start stop
          rcases Nat.eq_or_lt_of_le start with rfl | after
          · exact answered
          · exact nobody earlier after stop
        · simp only [remains, if_false, nextPause_of_lt early]
          have same : next = (read.run (before paused)).2 := (congrArg Prod.snd reads).symm
          rw [same]
          exact polls
    · refine ⟨paused, Nat.le_refl _, inTime, fun earlier start stop => by omega, answer, ?_, ?_⟩
      · rw [← answered] at decided ⊢
        exact .decided decided
      · rw [poll_decided reads decided, reads]

theorem lookup_polls {root path : String} {state : σ}
    (representable : Deadline.InReach (scene.clock state) patience) (steps : Nat) :
    (lookup (scene.watch files) steps root path patience).play state =
      (poll (scene.watch files) (directoryOf root path) path patience
        ⟨scene.clock state + patience⟩ steps).play state := by
  have now : (scene.watch files).now.run state = (scene.clock state, state) := scene.now_run state
  have inTime := Deadline.after?_eq_some.mpr ⟨representable, rfl⟩
  simp only [lookup, Run.play_bind, Run.play_lift, now, inTime]

theorem lookup_ends {root : String} (path : String) {steps : Nat} (state : σ)
    (quiet : scene.IsQuiet (readMembers (scene.watch files) (directoryOf root path)) fun _ => True)
    (representable : Deadline.InReach (scene.clock state) patience)
    (enough : pausesIn patience < steps) :
    let read := readMembers (scene.watch files) (directoryOf root path)
    let before := afterPauses scene read patience state
    let answers := fun paused => (read.run (before paused)).1
    ∃ last ≤ pausesIn patience, (∀ earlier < last, answers earlier = .ok []) ∧
      ∃ result, Ends path patience answers last result ∧
        scene.perform (lookup (scene.watch files) steps root path patience) state =
          ⟨.ok result, (read.run (before last)).2, pausesBefore patience last⟩ := by
  intro read before answers
  obtain ⟨last, -, inTime, nobody, result, ends, polls⟩ :=
    poll_ends path state quiet (Nat.zero_le _)
      (Nat.zero_add steps ▸ enough)
  refine ⟨last, inTime, fun earlier => nobody earlier (Nat.zero_le _), result, ends, ?_⟩
  refine Scene.perform_eq ((lookup_polls representable steps).trans polls) ?_
  have passes := (afterPauses_passes quiet patience state last).trans (quiet (before last)).1
  rwa [List.append_nil] at passes

end Course

/-- The directory of a registry is read at once, after each whole interval before the time is over
and at the very end of that time, as long as all readings find nobody. The first reading that does
not is the answer. Only if none of them does, the lookup has taken too long; then it has slept for
exactly that time, and never for more. -/
theorem lookup_reads_until_timeout (scene : Scene σ) {files : FileStore (StateM σ)}
    (reads : scene.Reads files) (root path : String) (patience : Duration) (state : σ)
    (representable : Deadline.InReach (scene.clock state) patience) (steps : Nat)
    (enough : pausesIn patience < steps) :
    let read := readMembers (scene.watch files) (directoryOf root path)
    let before := afterPauses scene read patience state
    let answers := fun paused => (read.run (before paused)).1
    let searched := scene.perform (lookup (scene.watch files) steps root path patience) state
    (∀ paused, scene.clock (before paused) = scene.clock state + waited patience paused) ∧
      (∀ paused < pausesIn patience,
        (waited patience paused).nanos = paused * interval.nanos ∧
          waited patience paused < patience) ∧
      waited patience (pausesIn patience) = patience ∧
      (∃ last ≤ pausesIn patience, (∀ earlier < last, answers earlier = .ok []) ∧
        ∃ result, Ends path patience answers last result ∧
          searched = ⟨.ok result, (read.run (before last)).2, pausesBefore patience last⟩) ∧
      (∀ paused failure, answers paused = .error failure →
        ∃ detail, failure = .unavailable detail) ∧
      ((∃ place span, searched.outcome = .ok (.error (.timeout place span))) ↔
        ∀ paused ≤ pausesIn patience, answers paused = .ok []) ∧
      searched.done.slept ≤ patience ∧
      ∀ place span, searched.outcome = .ok (.error (.timeout place span)) →
        place = path ∧ span = patience ∧ searched.done.slept = patience := by
  intro read before answers searched
  have quiet : scene.IsQuiet read fun _ => True := fun state =>
    ⟨(readMembers_quiet reads _ state).1, trivial⟩
  have fails : ∀ paused failure, answers paused = .error failure →
      ∃ detail, failure = .unavailable detail := fun _ _ => readMembers_failure
  obtain ⟨last, inTime, nobody, result, ends, performed⟩ :=
    lookup_ends path state quiet representable enough
  have same : searched = ⟨.ok result, (read.run (before last)).2, pausesBefore patience last⟩ :=
    performed
  obtain ⟨-, slept, patient⟩ := lookup_patient reads steps root path patience state
  refine ⟨afterPauses_clock quiet patience state, fun _ => waited_of_lt, waited_pausesIn patience,
    ⟨last, inTime, nobody, result, ends, same⟩, fails, ?_, slept, ?_⟩
  · constructor
    · rintro ⟨place, span, late⟩
      rw [same] at late
      obtain ⟨none, full, -⟩ := ends.of_timeout (Except.ok.inj late) (fails last)
      intro paused within
      rcases Nat.eq_or_lt_of_le within with rfl | early
      · exact full ▸ none
      · exact nobody paused (full ▸ early)
    · intro all
      rw [same]
      cases ends with
      | decided somebody => exact absurd (all last inTime) somebody
      | late _ _ => exact ⟨path, patience, rfl⟩
  · intro place span late
    have slow := patient place span late
    rw [same] at late
    obtain ⟨-, -, here, long⟩ := ends.of_timeout (Except.ok.inj late) (fails last)
    exact ⟨here, long, slow⟩

/-! A leader at the last moment. -/

def lateLeader : Disk Stage where
  list stage _ :=
    if stage.clock < .ofMillis 600 then .error .notFound else .ok ["member_0000000001"]
  read _ _ := textFile (schedulerText "leader")

theorem readMembers_lateLeader {watch : Watch (StateM Stage)} (holds : lateLeader.Holds watch.files)
    (directory : String) (stage : Stage) :
    ((readMembers watch directory).run stage).1 =
      if stage.clock < .ofMillis 600 then .ok [] else .ok [scheduler "leader"] := by
  split
  · rename_i early
    have lists : lateLeader.list stage directory = .error .notFound := if_pos early
    rw [readMembers, StateM.run_bind_of (lists ▸ holds.list directory stage)]
    rfl
  · rename_i late
    have looks (path : String) : lateLeader.look stage path = .ok (schedulerText "leader") :=
      asText_textFile _
    rw [readMembers_disk watch holds (if_neg late) (memberNames_singleton (by decide +kernel))]
    · simp only [List.filterMap_cons, List.filterMap_nil, looks,
        described_eq_some.mpr describes_leader]
    · intro name _
      rw [looks]
      exact .text _

theorem late_leader_is_found :
    let scene := Stage.scene {} fun _ => .ok .anonymous
    let search := lookup (scene.watch lateLeader.files) 9 "/serversets" "/west" (.ofMillis 600)
    let searched := scene.perform search {}
    searched.outcome = .ok (.ok [scheduler "leader"]) ∧ searched.done.slept = .ofMillis 600 := by
  intro scene search searched
  obtain ⟨clocks, times, full, ⟨last, inTime, nobody, result, ends, same⟩, -⟩ :=
    lookup_reads_until_timeout scene (Scene.reads_disk lateLeader.holds_files) "/serversets" "/west"
      (.ofMillis 600) {} (by decide) 9 (by decide)
  have three : pausesIn (.ofMillis 600) = 3 := by decide
  rw [three] at times full inTime
  have clock (paused : Nat) : (afterPauses scene _ (.ofMillis 600) {} paused).clock =
      waited (.ofMillis 600) paused :=
    (clocks paused).trans (Duration.nanos_injective (Nat.zero_add _))
  have holds : lateLeader.Holds (scene.watch lateLeader.files).files := lateLeader.holds_files
  simp only [readMembers_lateLeader holds, clock] at ends
  have begun : ¬ waited (.ofMillis 600) 3 < .ofMillis 600 := by
    rw [full]
    decide
  cases ends with
  | late none last =>
    rw [last, three, if_neg begun] at none
    cases none
  | decided somebody =>
    have third : last = 3 := by
      refine Nat.le_antisymm inTime (Nat.le_of_not_lt fun early => ?_)
      exact somebody (if_pos (times last early).2)
    have found : searched = ⟨_, _, _⟩ := same
    rw [found, third]
    exact ⟨congrArg Except.ok (if_neg begun), by rw [slept_pausesBefore, full]⟩

end Directory

end SchedulerLink
