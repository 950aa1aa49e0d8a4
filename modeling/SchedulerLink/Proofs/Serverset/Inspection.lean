import SchedulerLink.Proofs.Scene
import SchedulerLink.Rehearsal.Stage

/-!
What a reading of a directory comes to, by what reading each of its files comes to.

The files of members are read one after another. A file that has vanished and a text without a live
member in it make no difference, and the first file that cannot be read ends the reading.
-/

namespace SchedulerLink

variable {σ : Type}

/-! Paths of files in a directory. -/

namespace Path

theorem join_inj {directory one other : String} (relative : one.startsWith "/" = false)
    (below : other.startsWith "/" = false) :
    join directory one = join directory other ↔ one = other := by
  simp only [join, relative, below, Bool.false_eq_true, if_false]
  split <;> rw [String.append_right_inj]

end Path

/-! Disks. -/

def Bytes.asText (contents : Bytes) : Except FileFault String :=
  match contents.toString? with
  | some text => .ok text
  | none => .error .notText

theorem Bytes.asText_ofString (text : String) : (ofString text).asText = .ok text := by
  rw [asText, toString?_ofString]

/-- The names in directories and the octets in files, as they are in a state. -/
structure Disk (σ : Type) where
  list : σ → String → Except FileFault (List String)
  read : σ → String → Except FileFault Bytes

namespace Disk

def look (disk : Disk σ) (state : σ) (path : String) : Except FileFault String :=
  (disk.read state path).bind Bytes.asText

def files (disk : Disk σ) : FileStore (StateM σ) where
  list path := do pure (disk.list (← get) path)
  read path := do pure (disk.look (← get) path)
  append _ _ := pure (.error (.other "Read-only file system (os error 30)"))

structure Holds (disk : Disk σ) (files : FileStore (StateM σ)) : Prop where
  list (path : String) (state : σ) : (files.list path).run state = (disk.list state path, state)
  read (path : String) (state : σ) : (files.read path).run state = (disk.look state path, state)

theorem holds_files (disk : Disk σ) : disk.Holds disk.files where
  list _ _ := rfl
  read _ _ := rfl

def still (directory : String) (entries : List (String × Except FileFault Bytes)) : Disk σ where
  list _ path := if path = directory then .ok (entries.map Prod.fst) else .error .notFound
  read _ path :=
    match entries.find? fun entry => decide (Path.join directory entry.1 = path) with
    | some entry => entry.2
    | none => .error .notFound

theorem list_still (directory : String) (entries : List (String × Except FileFault Bytes))
    (state : σ) : (still directory entries).list state directory = .ok (entries.map Prod.fst) :=
  if_pos rfl

theorem read_still {directory : String} {entries : List (String × Except FileFault Bytes)}
    (distinct : (entries.map Prod.fst).Nodup)
    (relative : ∀ entry ∈ entries, entry.1.startsWith "/" = false) {name : String}
    {contents : Except FileFault Bytes} (among : (name, contents) ∈ entries) (state : σ) :
    (still directory entries).read state (Path.join directory name) = contents := by
  have same : entries.find? (fun entry =>
      decide (Path.join directory entry.1 = Path.join directory name)) = some (name, contents) := by
    induction entries with
    | nil => cases among
    | cons entry rest ih =>
      obtain ⟨first, others⟩ := List.forall_mem_cons.mp relative
      obtain ⟨fresh, different⟩ := List.nodup_cons.mp distinct
      rcases List.mem_cons.mp among with rfl | later
      · exact List.find?_cons_of_pos (decide_eq_true rfl)
      · rw [List.find?_cons_of_neg, ih different others later]
        rw [decide_eq_true_eq, Path.join_inj first (others _ later)]
        intro same
        exact fresh (same ▸ List.mem_map_of_mem later)
  simp only [still, same]

end Disk

namespace Directory

abbrev Findings := List (String × Except FileFault String)

/-- Reads files of a directory one after another, whatever comes of it. -/
def inspect (files : FileStore (StateM σ)) (directory : String) :
    List String → StateM σ Findings
  | [] => pure []
  | name :: rest => do
    let found ← files.read (Path.join directory name)
    let others ← inspect files directory rest
    pure ((name, found) :: others)

inductive IsPassed : Except FileFault String → Prop where
  | text (text : String) : IsPassed (.ok text)
  | vanished : IsPassed (.error .notFound)

theorem isPassed_or_unreadable (found : Except FileFault String) :
    IsPassed found ∨ ∃ fault, found = .error fault ∧ fault ≠ .notFound := by
  cases found with
  | ok text => exact .inl (.text text)
  | error fault =>
    by_cases vanished : fault = .notFound
    · exact .inl (vanished ▸ .vanished)
    · exact .inr ⟨fault, rfl, vanished⟩

/-- Whether a file describes a live member. -/
inductive Describes : Except FileFault String → Member → Prop where
  | alive {text : String} {member : Member}
    (unpacks : Member.unpack (Bytes.ofString text) = .ok member) (alive : member.status = .alive) :
    Describes (.ok text) member

def described (found : Except FileFault String) : Option Member :=
  found.toOption.bind liveMember

theorem liveMember_eq_some {text : String} {member : Member} :
    liveMember text = some member ↔
      Member.unpack (Bytes.ofString text) = .ok member ∧ member.status = .alive := by
  unfold liveMember
  cases Member.unpack (Bytes.ofString text) with
  | error fault => simp only [reduceCtorEq, false_and]
  | ok read =>
    simp only [Except.ok.injEq]
    split
    · rename_i alive
      constructor
      · rintro ⟨⟩
        exact ⟨rfl, alive⟩
      · rintro ⟨rfl, -⟩
        rfl
    · rename_i idle
      simp only [reduceCtorEq, false_iff]
      rintro ⟨rfl, alive⟩
      exact idle alive

theorem described_eq_some {found : Except FileFault String} {member : Member} :
    described found = some member ↔ Describes found member := by
  constructor
  · intro live
    cases found with
    | error fault => cases live
    | ok text =>
      obtain ⟨unpacks, alive⟩ := liveMember_eq_some.mp live
      exact .alive unpacks alive
  · rintro ⟨unpacks, alive⟩
    exact liveMember_eq_some.mpr ⟨unpacks, alive⟩

theorem Describes.unique {found : Except FileFault String} {one other : Member}
    (first : Describes found one) (second : Describes found other) : one = other :=
  Option.some.inj ((described_eq_some.mpr first).symm.trans (described_eq_some.mpr second))

section Reading

variable {watch : Watch (StateM σ)} {directory name : String} {rest : List String}
  {found : Except FileFault String} {state next : σ}

theorem readFiles_passed_cons
    (read : (watch.files.read (Path.join directory name)).run state = (found, next))
    (passed : IsPassed found) :
    ((readFiles watch directory (name :: rest)).run state).1 =
      ((readFiles watch directory rest).run next).1.map ((described found).toList ++ ·) := by
  rw [readFiles, StateM.run_bind_of read]
  rcases others : (readFiles watch directory rest).run next with ⟨failure | members, stop⟩
  all_goals
    cases passed with
    | vanished => exact congrArg Prod.fst others
    | text text =>
      rw [StateM.run_bind_of others]
      rfl

theorem readFiles_unreadable_cons {fault : FileFault}
    (read : (watch.files.read (Path.join directory name)).run state = (.error fault, next))
    (present : fault ≠ .notFound) :
    ((readFiles watch directory (name :: rest)).run state).1 =
      .error (unreadable (Path.join directory name) fault) := by
  rw [readFiles, StateM.run_bind_of read]
  cases fault with
  | notFound => exact absurd rfl present
  | _ => rfl

theorem readFiles_failure {names : List String} {failure : DiscoveryFailure}
    (fails : ((readFiles watch directory names).run state).1 = .error failure) :
    ∃ detail, failure = .unavailable detail := by
  induction names generalizing state with
  | nil => cases fails
  | cons name rest ih =>
    rcases read : (watch.files.read (Path.join directory name)).run state with ⟨found, next⟩
    rcases isPassed_or_unreadable found with passed | ⟨fault, rfl, present⟩
    · rw [readFiles_passed_cons read passed] at fails
      rcases others : ((readFiles watch directory rest).run next).1 with other | members
      · rw [others] at fails
        cases fails
        exact ih others
      · rw [others] at fails
        cases fails
    · rw [readFiles_unreadable_cons read present] at fails
      cases fails
      exact ⟨_, rfl⟩

theorem readMembers_failure {failure : DiscoveryFailure}
    (fails : ((readMembers watch directory).run state).1 = .error failure) :
    ∃ detail, failure = .unavailable detail := by
  rcases lists : (watch.files.list directory).run state with ⟨fault | names, next⟩
  · rw [readMembers, StateM.run_bind_of lists] at fails
    cases fault with
    | notFound => cases fails
    | _ =>
      cases fails
      exact ⟨_, rfl⟩
  · rw [readMembers, StateM.run_bind_of lists] at fails
    exact readFiles_failure fails

theorem inspect_cons
    (read : (watch.files.read (Path.join directory name)).run state = (found, next)) :
    ((inspect watch.files directory (name :: rest)).run state).1 =
      (name, found) :: ((inspect watch.files directory rest).run next).1 := by
  rw [inspect, StateM.run_bind_of read]
  rfl

theorem inspect_names (files : FileStore (StateM σ)) (directory : String) (names : List String)
    (state : σ) : ((inspect files directory names).run state).1.map Prod.fst = names := by
  induction names generalizing state with
  | nil => rfl
  | cons name rest ih =>
    exact congrArg (name :: ·) (ih ((files.read (Path.join directory name)).run state).2)

theorem inspect_disk {files : FileStore (StateM σ)} {disk : Disk σ} (holds : disk.Holds files)
    (directory : String) (names : List String) (state : σ) :
    (inspect files directory names).run state =
      (names.map fun name => (name, disk.look state (Path.join directory name)), state) := by
  induction names with
  | nil => rfl
  | cons name rest ih =>
    rw [inspect, StateM.run_bind_of (holds.read _ state), StateM.run_bind_of ih]
    rfl

theorem readMembers_run {names : List String}
    (lists : (watch.files.list directory).run state = (.ok names, next)) :
    (readMembers watch directory).run state =
      (readFiles watch directory (memberNames names)).run next := by
  rw [readMembers, StateM.run_bind_of lists]

/-- When every file is passed, a reading comes to the live members that are described, in their
order. -/
theorem readFiles_passed {names : List String}
    (passed : ∀ file ∈ ((inspect watch.files directory names).run state).1, IsPassed file.2) :
    ((readFiles watch directory names).run state).1 =
      .ok (((inspect watch.files directory names).run state).1.filterMap (described ·.2)) := by
  induction names generalizing state with
  | nil => rfl
  | cons name rest ih =>
    rcases read : (watch.files.read (Path.join directory name)).run state with ⟨found, next⟩
    rw [inspect_cons read] at passed ⊢
    obtain ⟨first, others⟩ := List.forall_mem_cons.mp passed
    rw [readFiles_passed_cons read first, ih others, List.filterMap_cons]
    cases described found <;> rfl

theorem readFiles_unreadable {names : List String} {before after : Findings} {fault : FileFault}
    (part : ((inspect watch.files directory names).run state).1 =
      before ++ (name, .error fault) :: after)
    (passed : ∀ file ∈ before, IsPassed file.2) (present : fault ≠ .notFound) :
    ((readFiles watch directory names).run state).1 =
      .error (unreadable (Path.join directory name) fault) := by
  induction names generalizing state before with
  | nil => cases before <;> cases part
  | cons first rest ih =>
    rcases read : (watch.files.read (Path.join directory first)).run state with ⟨found, next⟩
    rw [inspect_cons read] at part
    cases before with
    | nil =>
      obtain ⟨same, -⟩ := List.cons.inj part
      cases same
      exact readFiles_unreadable_cons read present
    | cons file before =>
      obtain ⟨rfl, others⟩ := List.cons.inj part
      obtain ⟨begun, more⟩ := List.forall_mem_cons.mp passed
      rw [readFiles_passed_cons read begun, ih others more]
      rfl

end Reading

/-! Reading a directory on a disk. -/

section Disk

variable (watch : Watch (StateM σ)) {disk : Disk σ} {directory : String} {state : σ}

theorem readFiles_stays (holds : disk.Holds watch.files) (names : List String) :
    ((readFiles watch directory names).run state).2 = state := by
  induction names with
  | nil => rfl
  | cons name rest ih =>
    rw [readFiles, StateM.run_bind_of (holds.read _ state)]
    split
    · exact ih
    · rfl
    · rcases others : (readFiles watch directory rest).run state with ⟨failure | members, stop⟩
      all_goals
        rw [others] at ih
        rw [StateM.run_bind_of others]
        exact ih

theorem readMembers_stays (holds : disk.Holds watch.files) :
    ((readMembers watch directory).run state).2 = state := by
  rw [readMembers, StateM.run_bind_of (holds.list _ state)]
  split
  · rfl
  · rfl
  · exact readFiles_stays watch holds _

theorem readFiles_disk (holds : disk.Holds watch.files) {names : List String}
    (passed : ∀ name ∈ names, IsPassed (disk.look state (Path.join directory name))) :
    (readFiles watch directory names).run state =
      (.ok (names.filterMap fun name => described (disk.look state (Path.join directory name))),
        state) := by
  have looks := inspect_disk holds directory names state
  refine Prod.ext ?_ (readFiles_stays watch holds names)
  rw [readFiles_passed, looks, List.filterMap_map]
  · rfl
  · rw [looks]
    exact List.forall_mem_map.mpr passed

/-- What reading a directory comes to when all files of members can be read or have vanished. -/
theorem readMembers_disk (holds : disk.Holds watch.files) {names order : List String}
    (lists : disk.list state directory = .ok names) (ordered : memberNames names = order)
    (passed : ∀ name ∈ order, IsPassed (disk.look state (Path.join directory name))) :
    (readMembers watch directory).run state =
      (.ok (order.filterMap fun name => described (disk.look state (Path.join directory name))),
        state) := by
  rw [readMembers_run (lists ▸ holds.list directory state), ordered,
    readFiles_disk watch holds passed]

end Disk

end Directory

end SchedulerLink
