import SchedulerLink.Proofs.Serverset.Polling

/-!
What a file of a member without a live member in it changes.

If the octets in such a file are a text, whichever, a lookup is the same as without the file. If
they are no text, the lookup fails at once.
-/

namespace SchedulerLink

variable {σ : Type}

def Disk.without (disk : Disk σ) (directory name : String) : Disk σ where
  list state path :=
    if path = directory then (disk.list state path).map (·.filter (· ≠ name))
    else disk.list state path
  read state path :=
    if path = Path.join directory name then .error .notFound else disk.read state path

theorem Disk.list_without (disk : Disk σ) (directory name : String) (state : σ) :
    (disk.without directory name).list state directory =
      (disk.list state directory).map (·.filter (· ≠ name)) := if_pos rfl

theorem Disk.look_without (disk : Disk σ) {directory name path : String}
    (elsewhere : path ≠ Path.join directory name) (state : σ) :
    (disk.without directory name).look state path = disk.look state path := by
  have same : (disk.without directory name).read state path = disk.read state path :=
    if_neg elsewhere
  rw [look, same, look]

structure Disk.Has (disk : Disk σ) (directory name : String) (contents : Bytes) (state : σ) :
    Prop where
  listed : ∃ names, disk.list state directory = .ok names ∧ name ∈ names
  read : disk.read state (Path.join directory name) = .ok contents

theorem Disk.Has.look {disk : Disk σ} {directory name : String} {contents : Bytes} {state : σ}
    (has : disk.Has directory name contents state) :
    disk.look state (Path.join directory name) = contents.asText := by
  rw [Disk.look, has.read]
  rfl

namespace Directory

theorem relative_of_marked {name : String} (marked : name.startsWith memberMark = true) :
    name.startsWith "/" = false := by
  obtain ⟨rest, begins⟩ := String.startsWith_string_iff.mp marked
  refine Bool.eq_false_iff.mpr fun absolute => ?_
  obtain ⟨others, starts⟩ := String.startsWith_string_iff.mp absolute
  rw [← starts] at begins
  simp only [memberMark, String.reduceToList, List.cons_append, List.cons.injEq] at begins
  exact absurd begins.1 (by decide)

theorem memberNames_filter (names : List String) (name : String) :
    memberNames (names.filter (· ≠ name)) = (memberNames names).filter (· ≠ name) := by
  have same : (memberNames (names.filter (· ≠ name))).Perm
      ((memberNames names).filter (· ≠ name)) := by
    refine (memberNames_perm _).trans (.trans (.of_eq ?_) ((memberNames_perm names).symm.filter _))
    rw [List.filter_filter, List.filter_filter]
    exact List.filter_congr fun _ _ => Bool.and_comm _ _
  exact same.eq_of_pairwise (fun _ _ _ _ => String.le_antisymm) (memberNames_pairwise _)
    ((memberNames_pairwise names).filter _)

/-! Reading with the file and without it. -/

section Reading

variable {disk : Disk σ} {directory name : String} {one other : Watch (StateM σ)} {state : σ}

theorem look_without (disk : Disk σ) (directory : String) {name different : String}
    (marked : name.startsWith memberMark = true)
    (marks : different.startsWith memberMark = true) (unlike : different ≠ name) (state : σ) :
    (disk.without directory name).look state (Path.join directory different) =
      disk.look state (Path.join directory different) := by
  refine disk.look_without (fun same => ?_) state
  exact unlike ((Path.join_inj (relative_of_marked marks) (relative_of_marked marked)).mp same)

theorem readFiles_without (holds : disk.Holds one.files)
    (fewer : (disk.without directory name).Holds other.files)
    (marked : name.startsWith memberMark = true)
    (passed : IsPassed (disk.look state (Path.join directory name)))
    (unfit : described (disk.look state (Path.join directory name)) = none) {names : List String}
    (marks : ∀ name ∈ names, name.startsWith memberMark = true) :
    ((readFiles one directory names).run state).1 =
      ((readFiles other directory (names.filter (· ≠ name))).run state).1 := by
  induction names with
  | nil => rfl
  | cons first rest ih =>
    obtain ⟨mark, others⟩ := List.forall_mem_cons.mp marks
    have reads := holds.read (Path.join directory first) state
    by_cases same : first = name
    · subst same
      rw [List.filter_cons_of_neg (by simp), readFiles_passed_cons reads passed, unfit, ← ih others]
      cases ((readFiles one directory rest).run state).1 <;> rfl
    · have alike := fewer.read (Path.join directory first) state
      rw [look_without disk directory marked mark same] at alike
      rw [List.filter_cons_of_pos (by simpa using same)]
      rcases isPassed_or_unreadable (disk.look state (Path.join directory first)) with
        passes | ⟨fault, fails, present⟩
      · rw [readFiles_passed_cons reads passes, readFiles_passed_cons alike passes, ih others]
      · rw [fails] at reads alike
        rw [readFiles_unreadable_cons reads present, readFiles_unreadable_cons alike present]

theorem readFiles_with (holds : disk.Holds one.files)
    (fewer : (disk.without directory name).Holds other.files)
    (marked : name.startsWith memberMark = true) {fault : FileFault}
    (fails : disk.look state (Path.join directory name) = .error fault)
    (present : fault ≠ .notFound) {names : List String}
    (marks : ∀ name ∈ names, name.startsWith memberMark = true)
    (listed : name ∈ names) :
    ∃ failure, ((readFiles one directory names).run state).1 = .error failure ∧
      (failure = unreadable (Path.join directory name) fault ∨
        ((readFiles other directory (names.filter (· ≠ name))).run state).1 = .error failure) := by
  induction names with
  | nil => cases listed
  | cons first rest ih =>
    obtain ⟨mark, others⟩ := List.forall_mem_cons.mp marks
    have reads := holds.read (Path.join directory first) state
    -- Any other file is read alike from the directory with it and the one without.
    by_cases same : first = name
    · subst same
      rw [fails] at reads
      exact ⟨_, readFiles_unreadable_cons reads present, .inl rfl⟩
    · have alike := fewer.read (Path.join directory first) state
      rw [look_without disk directory marked mark same] at alike
      rw [List.filter_cons_of_pos (by simpa using same)]
      rcases isPassed_or_unreadable (disk.look state (Path.join directory first)) with
        passes | ⟨found, broken, there⟩
      · have later : name ∈ rest := (List.mem_cons.mp listed).resolve_left (Ne.symm same)
        obtain ⟨failure, ends, cause⟩ := ih others later
        refine ⟨failure, ?_, cause.imp_right fun without => ?_⟩
        · rw [readFiles_passed_cons reads passes, ends]
          rfl
        · rw [readFiles_passed_cons alike passes, without]
          rfl
      · rw [broken] at reads alike
        exact ⟨_, readFiles_unreadable_cons reads there,
          .inr (readFiles_unreadable_cons alike there)⟩

theorem memberNames_marked (names : List String) :
    ∀ name ∈ memberNames names, name.startsWith memberMark = true := fun _ member =>
  (mem_memberNames.mp member).2

/-- A directory is read as without a file that is passed and describes nobody. -/
theorem readMembers_without (one other : Watch (StateM σ)) (holds : disk.Holds one.files)
    (fewer : (disk.without directory name).Holds other.files)
    (marked : name.startsWith memberMark = true)
    (passed : IsPassed (disk.look state (Path.join directory name)))
    (unfit : described (disk.look state (Path.join directory name)) = none) :
    (readMembers one directory).run state = (readMembers other directory).run state := by
  refine Prod.ext ?_ ((readMembers_stays one holds).trans (readMembers_stays other fewer).symm)
  have lists := holds.list directory state
  have less := fewer.list directory state
  rw [Disk.list_without] at less
  cases listed : disk.list state directory with
  | error fault =>
    rw [listed] at lists less
    rw [readMembers, readMembers, StateM.run_bind_of lists, StateM.run_bind_of less]
    cases fault <;> rfl
  | ok names =>
    rw [listed] at lists less
    rw [readMembers_run lists, readMembers_run less, memberNames_filter]
    exact readFiles_without holds fewer marked passed unfit (memberNames_marked names)

theorem readMembers_with (one other : Watch (StateM σ)) (holds : disk.Holds one.files)
    (fewer : (disk.without directory name).Holds other.files)
    (marked : name.startsWith memberMark = true) {names : List String}
    (lists : disk.list state directory = .ok names) (listed : name ∈ names) {fault : FileFault}
    (fails : disk.look state (Path.join directory name) = .error fault)
    (present : fault ≠ .notFound) :
    ∃ failure, (readMembers one directory).run state = (.error failure, state) ∧
      (failure = unreadable (Path.join directory name) fault ∨
        (readMembers other directory).run state = (.error failure, state)) := by
  obtain ⟨failure, ends, cause⟩ := readFiles_with holds fewer marked fails present
    (memberNames_marked names) (mem_memberNames.mpr ⟨listed, marked⟩)
  refine ⟨failure, ?_, cause.imp_right fun without => ?_⟩
  · refine Prod.ext ?_ (readMembers_stays one holds)
    rw [readMembers_run (lists ▸ holds.list directory state), ends]
  · have less := fewer.list directory state
    rw [Disk.list_without, lists] at less
    refine Prod.ext ?_ (readMembers_stays other fewer)
    rw [readMembers_run less, memberNames_filter, without]

end Reading

/-! Looking up. -/

section Lookup

variable {scene : Scene σ} {files others : FileStore (StateM σ)} {directory path : String}
  {kept : σ → Prop}

/-- What is read alike, now and after pauses, is looked up alike. -/
theorem poll_congr (lasts : scene.Lasts kept)
    (alike : ∀ state, kept state →
      (readMembers (scene.watch files) directory).run state =
        (readMembers (scene.watch others) directory).run state)
    (stays : ∀ state, kept state → kept ((readMembers (scene.watch files) directory).run state).2)
    (patience : Duration) (deadline : Deadline) (fuel : Nat) {state : σ} (now : kept state) :
    (poll (scene.watch files) directory path patience deadline fuel).play state =
      (poll (scene.watch others) directory path patience deadline fuel).play state := by
  induction fuel generalizing state with
  | zero => rfl
  | succ fuel ih =>
    rcases reads : (readMembers (scene.watch files) directory).run state with ⟨answer, next⟩
    have same := (alike state now).symm.trans reads
    have later := stays state now
    rw [reads] at later
    by_cases nobody : answer = .ok []
    · subst nobody
      rw [poll_nobody reads, poll_nobody same]
      simp only [ih (lasts _ next later)]
    · rw [poll_decided reads nobody, poll_decided same nobody]

theorem lookup_congr {root : String} (lasts : scene.Lasts kept)
    (alike : ∀ state, kept state →
      (readMembers (scene.watch files) (directoryOf root path)).run state =
        (readMembers (scene.watch others) (directoryOf root path)).run state)
    (stays : ∀ state, kept state →
      kept ((readMembers (scene.watch files) (directoryOf root path)).run state).2)
    (steps : Nat) (patience : Duration) {state : σ} (now : kept state) :
    (lookup (scene.watch files) steps root path patience).play state =
      (lookup (scene.watch others) steps root path patience).play state := by
  have clock (files : FileStore (StateM σ)) :
    (scene.watch files).now.run state = (scene.clock state, state) := scene.now_run state
  simp only [lookup, Run.play_bind, Run.play_lift, clock]
  cases Deadline.after? (scene.clock state) patience with
  | none => rfl
  | some deadline => exact poll_congr lasts alike stays patience deadline steps now

theorem failure_decided (failure : DiscoveryFailure) :
    (Except.error failure : Except DiscoveryFailure (List Member)) ≠ .ok [] := by
  intro same
  cases same

theorem lookup_decided {root : String} (patience : Duration) {steps : Nat} {state : σ}
    {answer : Except DiscoveryFailure (List Member)}
    (reads : (readMembers (scene.watch files) (directoryOf root path)).run state = (answer, state))
    (decided : answer ≠ .ok [])
    (representable : Deadline.InReach (scene.clock state) patience) (begun : 0 < steps) :
    scene.perform (lookup (scene.watch files) steps root path patience) state =
      ⟨.ok answer, state, []⟩ := by
  obtain ⟨fuel, rfl⟩ := Nat.exists_eq_succ_of_ne_zero (Nat.ne_of_gt begun)
  refine Scene.perform_eq ?_ (.refl scene state)
  rw [lookup_polls representable, poll_decided reads decided]

end Lookup

/-- A member file in which there is no live member makes no difference to a lookup if its contents
are a text, be it no description of a member at all. If they are no text, the lookup fails at once,
whatever other members there are. -/
theorem unfit_member_is_passed_if_text (scene : Scene σ) {disk : Disk σ}
    {files others : FileStore (StateM σ)} (root path : String) {name : String}
    (holds : disk.Holds files)
    (fewer : (disk.without (directoryOf root path) name).Holds others)
    (marked : name.startsWith memberMark = true) (kept : σ → Prop) (lasts : scene.Lasts kept)
    {contents : Bytes}
    (has : ∀ state, kept state → disk.Has (directoryOf root path) name contents state)
    (unfit : ∀ member, ¬ Describes contents.asText member) (steps : Nat) (patience : Duration)
    (state : σ) (now : kept state) :
    let lookedUp files := scene.perform (lookup (scene.watch files) steps root path patience) state
    (contents.toString?.isSome = true → lookedUp files = lookedUp others) ∧
      (contents.toString? = none → Deadline.InReach (scene.clock state) patience → 0 < steps →
        ∃ failure, lookedUp files = ⟨.ok (.error failure), state, []⟩ ∧
          (failure = unreadable (Path.join (directoryOf root path) name) .notText ∨
            lookedUp others = ⟨.ok (.error failure), state, []⟩)) := by
  intro lookedUp
  constructor
  · intro readable
    obtain ⟨text, encodes⟩ := Option.isSome_iff_exists.mp readable
    have isText : contents.asText = .ok text := by rw [Bytes.asText, encodes]
    have alike (state : σ) (here : kept state) :
        (readMembers (scene.watch files) (directoryOf root path)).run state =
          (readMembers (scene.watch others) (directoryOf root path)).run state := by
      apply readMembers_without (scene.watch files) (scene.watch others) holds fewer marked
      all_goals rw [(has state here).look]
      · exact isText ▸ .text text
      · exact Option.eq_none_iff_forall_ne_some.mpr fun member lives =>
          unfit member (described_eq_some.mp lives)
    have stays (state : σ) (here : kept state) :
        kept ((readMembers (scene.watch files) (directoryOf root path)).run state).2 := by
      rw [readMembers_stays (scene.watch files) holds]
      exact here
    simp only [lookedUp, Scene.perform, lookup_congr lasts alike stays steps patience now]
  · intro broken representable begun
    have fails : contents.asText = .error .notText := by rw [Bytes.asText, broken]
    obtain ⟨names, lists, listed⟩ := (has state now).listed
    obtain ⟨failure, ends, cause⟩ := readMembers_with (scene.watch files) (scene.watch others) holds
      fewer marked lists listed ((has state now).look.trans fails) (by decide)
    have decided := failure_decided failure
    refine ⟨failure, lookup_decided patience ends decided representable begun, ?_⟩
    exact cause.imp_right fun without =>
      lookup_decided patience without decided representable begun

/-! A leader beside a file without a member. -/

def withLeader (contents : Bytes) : List (String × Except FileFault Bytes) :=
  [("member_0000000001", .ok contents), ("member_0000000002", textFile (schedulerText "leader"))]

def beside (contents : Bytes) : Disk Stage :=
  .still (directoryOf "/serversets" "/west") (withLeader contents)

theorem read_beside {contents : Bytes} (entry : String × Except FileFault Bytes)
    (among : entry ∈ withLeader contents) (stage : Stage) :
    (beside contents).read stage (Path.join (directoryOf "/serversets" "/west") entry.1) =
      entry.2 := by
  have distinct : ((withLeader contents).map Prod.fst).Nodup :=
    show ["member_0000000001", "member_0000000002"].Nodup by decide
  have relative : ∀ name ∈ ["member_0000000001", "member_0000000002"],
    name.startsWith "/" = false := by decide +kernel
  exact Disk.read_still distinct (fun _ among => relative _ (List.mem_map_of_mem among)) among stage

theorem beside_has (contents : Bytes) (stage : Stage) :
    (beside contents).Has (directoryOf "/serversets" "/west") "member_0000000001" contents stage :=
  ⟨⟨_, Disk.list_still _ _ _, .head _⟩, read_beside _ (.head _) stage⟩

theorem lookup_leader_alone (contents : Bytes) :
    let scene := Stage.scene {} fun _ => .ok .anonymous
    let alone := (beside contents).without (directoryOf "/serversets" "/west") "member_0000000001"
    scene.perform (lookup (scene.watch alone.files) 1 "/serversets" "/west" .zero) {} =
      ⟨.ok (.ok [scheduler "leader"]), {}, []⟩ := by
  intro scene alone
  have lists : alone.list {} (directoryOf "/serversets" "/west") = .ok ["member_0000000002"] := by
    rw [Disk.list_without, beside, Disk.list_still]
    rfl
  have looks : alone.look {} (Path.join (directoryOf "/serversets" "/west") "member_0000000002") =
      .ok (schedulerText "leader") := by
    rw [Disk.look_without _ (by decide +kernel), Disk.look,
      read_beside (_, textFile (schedulerText "leader")) (.tail _ (.head _))]
    exact asText_textFile _
  have reads := readMembers_disk (scene.watch alone.files) alone.holds_files lists
    (memberNames_singleton (by decide +kernel)) (List.forall_mem_singleton.mpr (looks ▸ .text _))
  simp only [List.filterMap_cons, List.filterMap_nil, looks,
    described_eq_some.mpr describes_leader] at reads
  exact lookup_decided .zero reads nofun (by decide) Nat.one_pos

theorem half_written_member_is_passed :
    let scene := Stage.scene {} fun _ => .ok .anonymous
    let files := (beside (Bytes.ofString "\x7bnot json")).files
    (scene.perform (lookup (scene.watch files) 1 "/serversets" "/west" .zero) {}).outcome =
      .ok (.ok [scheduler "leader"]) := by
  intro scene files
  have unfit : described (Bytes.asText (Bytes.ofString "\x7bnot json")) = none := by
    decide +kernel
  have same := (unfit_member_is_passed_if_text scene "/serversets" "/west"
    (Disk.holds_files _) (Disk.holds_files _) (by decide +kernel) (fun _ => True)
    (fun _ _ _ => trivial) (fun stage _ => beside_has _ stage)
    (fun member describes => by rw [described_eq_some.mpr describes] at unfit; cases unfit) 1 .zero
    {} trivial).1 (by decide +kernel)
  exact congrArg Performance.outcome (same.trans (lookup_leader_alone _))

/-- An octet that is no text, in the place of a member, hides the leader. -/
theorem octet_hides_leader :
    let scene := Stage.scene {} fun _ => .ok .anonymous
    let directory := directoryOf "/serversets" "/west"
    let disk := beside [0xff]
    let lookedUp (disk : Disk Stage) :=
      (scene.perform (lookup (scene.watch disk.files) 1 "/serversets" "/west" .zero) {}).outcome
    (∀ stage, disk.Has directory "member_0000000001" [0xff] stage) ∧
      (∀ member, ¬ Describes (Bytes.asText [0xff]) member) ∧
      lookedUp (disk.without directory "member_0000000001") = .ok (.ok [scheduler "leader"]) ∧
      ∃ failure, lookedUp disk = .ok (.error failure) := by
  intro scene directory disk lookedUp
  have broken : Bytes.toString? [0xff] = none := by decide +kernel
  have fails : Bytes.asText [0xff] = .error .notText := by rw [Bytes.asText, broken]
  refine ⟨beside_has _, fun member describes => ?_, ?_, ?_⟩
  · rw [fails] at describes
    cases describes
  · exact congrArg Performance.outcome (lookup_leader_alone [0xff])
  · have has := beside_has [0xff] {}
    obtain ⟨names, lists, listed⟩ := has.listed
    obtain ⟨failure, ends, -⟩ := readMembers_with (scene.watch disk.files)
      (scene.watch (disk.without directory "member_0000000001").files) disk.holds_files
      (Disk.holds_files _) (by decide +kernel) lists listed (has.look.trans fails) (by decide)
    exact ⟨failure, congrArg Performance.outcome
      (lookup_decided .zero ends (failure_decided failure) (by decide) Nat.one_pos)⟩

end Directory

end SchedulerLink
