import SchedulerLink.Proofs.Json.Wording
import SchedulerLink.Proofs.Serverset.Spoiling
import SchedulerLink.Proofs.Serverset.Unpacking

/-!
The leader of a list of members, kept in a directory and as it is.

A registry in a directory passes over members that are not alive. A registry that is a fixed list
does not look at their states.
-/

namespace SchedulerLink

variable {σ τ : Type} {scene : Scene σ}

theorem Member.asText_pack {member : Member} (sorted : Member.InOrder member.additional) :
    ∃ text, member.pack.asText = .ok text ∧
      Member.unpack (Bytes.ofString text) = .ok member := by
  obtain ⟨text, octets⟩ := Json.isText_encode (.obj member.packedFields)
  have same : Bytes.ofString text = member.pack := octets
  refine ⟨text, same ▸ Bytes.asText_ofString text, ?_⟩
  rw [same]
  exact (Member.carries_pack member).unpack sorted

namespace Directory

/-! Members that are kept in a directory. -/

def memberName (number : Nat) : String :=
  memberMark ++ String.ofList (List.leftpad 10 '0' (Nat.toDigits 10 number))

theorem isNumbered_memberName {number : Nat} (small : number < 10 ^ 10) :
    IsNumbered 10 (memberName number) := by
  have short : (Nat.toDigits 10 number).length ≤ 10 :=
    (Nat.length_toDigits_le_iff (by decide) (by decide)).mpr small
  refine .digits (fun digit member => ?_) ?_
  · rcases List.mem_append.mp member with padding | written
    · rw [List.eq_of_mem_replicate padding]
      decide
    · exact Nat.isDigit_of_mem_toDigits (by decide) (by decide) written
  · rw [List.length_leftpad, Nat.max_eq_left short]

theorem arrival_memberName (number : Nat) : arrival (memberName number) = number := by
  rw [memberName, arrival_mark, List.leftpad, Nat.ofDigitChars_append,
    Nat.ofDigitChars_replicate_zero, Nat.mul_zero,
    Nat.ofDigitChars_toDigits (by decide) (by decide)]

theorem marked_memberName (number : Nat) :
    (memberName number).startsWith memberMark = true := by
  rw [String.startsWith_string_iff, memberName, String.toList_append]
  exact List.prefix_append _ _

def memberNamesFrom (start count : Nat) : List String := (List.range' start count).map memberName

theorem memberNamesFrom_length (members : List Member) (start : Nat) :
    memberNamesFrom start members.length =
      (members.zipIdx start).map fun entry => memberName entry.2 := by
  rw [memberNamesFrom, ← List.zipIdx_map_snd, List.map_map]
  rfl

theorem memberNamesFrom_pairwise (start count : Nat) :
    (memberNamesFrom start count).Pairwise (arrival · < arrival ·) := by
  rw [memberNamesFrom, List.pairwise_map]
  simp only [arrival_memberName]
  exact List.pairwise_lt_range'

theorem memberNamesFrom_nodup (start count : Nat) : (memberNamesFrom start count).Nodup :=
  (memberNamesFrom_pairwise start count).imp fun less same =>
    Nat.ne_of_lt less (congrArg arrival same)

/-- However they are listed, they are read in order. -/
theorem memberNames_of_perm {names : List String} {start count : Nat}
    (small : start + count ≤ 10 ^ 10) (same : names.Perm (memberNamesFrom start count)) :
    memberNames names = memberNamesFrom start count := by
  have each : ∀ name ∈ names, ∃ number < 10 ^ 10, name = memberName number := fun name listed => by
    obtain ⟨number, within, rfl⟩ := List.mem_map.mp (same.mem_iff.mp listed)
    have bounds := List.mem_range'_1.mp within
    exact ⟨number, by omega, rfl⟩
  have ordered := memberNamesFrom_pairwise start count
  have distinct := memberNamesFrom_nodup start count
  have numbered : ∀ name ∈ names, name.startsWith memberMark = true → IsNumbered 10 name := by
    intro name listed _
    obtain ⟨number, small, rfl⟩ := each name listed
    exact isNumbered_memberName small
  refine memberNames_eq (same.nodup_iff.mpr distinct) numbered ordered ?_
  rw [List.filter_eq_self.mpr]
  · exact same
  · intro name listed
    obtain ⟨number, -, rfl⟩ := each name listed
    exact marked_memberName number

/-- Whether a directory has exactly the files of packed members, which are numbered in their
order. -/
structure Packs (disk : Disk σ) (directory : String) (members : List Member) (start : Nat)
    (state : σ) : Prop where
  listed : ∃ names, disk.list state directory = .ok names ∧
    names.Perm (memberNamesFrom start members.length)
  packed : ∀ entry ∈ members.zipIdx start,
    disk.read state (Path.join directory (memberName entry.2)) = .ok entry.1.pack

def packedFiles (members : List Member) (start : Nat) : List (String × Except FileFault Bytes) :=
  (members.zipIdx start).map fun entry => (memberName entry.2, .ok entry.1.pack)

theorem packedFiles_names (members : List Member) (start : Nat) :
    (packedFiles members start).map Prod.fst = memberNamesFrom start members.length := by
  rw [memberNamesFrom_length, packedFiles, List.map_map]
  rfl

theorem packs_still (directory : String) (members : List Member) (start : Nat) (state : σ) :
    Packs (.still directory (packedFiles members start)) directory members start state where
  listed := ⟨_, Disk.list_still _ _ state, .of_eq (packedFiles_names members start)⟩
  packed entry among := by
    have distinct : ((packedFiles members start).map Prod.fst).Nodup := by
      rw [packedFiles_names]
      exact memberNamesFrom_nodup start members.length
    have relative : ∀ file ∈ packedFiles members start, file.1.startsWith "/" = false :=
      List.forall_mem_map.mpr fun entry _ => relative_of_marked (marked_memberName entry.2)
    have file : (memberName entry.2, .ok entry.1.pack) ∈ packedFiles members start :=
      List.mem_map_of_mem among
    exact Disk.read_still distinct relative file state

def liveMembers (members : List Member) : List Member := members.filter (·.status = .alive)

theorem liveMembers_zipIdx (members : List Member) (start : Nat) :
    (members.zipIdx start).filterMap (fun entry =>
      if entry.1.status = .alive then some entry.1 else none) = liveMembers members := by
  induction members generalizing start with
  | nil => rfl
  | cons member rest ih =>
    rw [List.zipIdx_cons, List.filterMap_cons, ih, liveMembers, liveMembers, List.filter_cons]
    by_cases alive : member.status = .alive
    · simp only [alive, decide_true, if_true]
    · simp only [alive, decide_false, if_false, Bool.false_eq_true]

theorem Packs.look {disk : Disk σ} {directory : String} {members : List Member}
    {start : Nat} {state : σ} (packs : Packs disk directory members start state)
    (sorted : ∀ member ∈ members, Member.InOrder member.additional) {entry : Member × Nat}
    (among : entry ∈ members.zipIdx start) :
    ∃ text, disk.look state (Path.join directory (memberName entry.2)) = .ok text ∧
      liveMember text = if entry.1.status = .alive then some entry.1 else none := by
  obtain ⟨text, encodes, unpacks⟩ :=
    Member.asText_pack (sorted entry.1 (List.fst_mem_of_mem_zipIdx among))
  refine ⟨text, ?_, ?_⟩
  · rw [Disk.look, packs.packed entry among]
    exact encodes
  · rw [liveMember, unpacks]

theorem Packs.readMembers {disk : Disk σ} {directory : String} {members : List Member}
    {start : Nat} {state : σ} (packs : Packs disk directory members start state)
    (watch : Watch (StateM σ)) (holds : disk.Holds watch.files)
    (small : start + members.length ≤ 10 ^ 10)
    (sorted : ∀ member ∈ members, Member.InOrder member.additional) :
    (readMembers watch directory).run state = (.ok (liveMembers members), state) := by
  obtain ⟨names, lists, same⟩ := packs.listed
  have order := memberNames_of_perm small same
  rw [memberNamesFrom_length] at order
  have looks := fun (entry : Member × Nat) (among : entry ∈ members.zipIdx start) =>
    packs.look sorted among
  rw [readMembers_disk watch holds lists order, List.filterMap_map,
    ← liveMembers_zipIdx members start]
  · refine congrArg (fun found => (Except.ok found, state)) (List.filterMap_congr ?_)
    intro entry among
    obtain ⟨text, reads, lives⟩ := looks entry among
    rw [Function.comp, reads]
    exact lives
  · refine List.forall_mem_map.mpr fun entry among => ?_
    obtain ⟨text, reads, -⟩ := looks entry among
    exact reads ▸ .text text

/-! Looking up what never changes. -/

section Lookup

variable {files : FileStore (StateM σ)} {disk : Disk σ} {root path : String} {kept : σ → Prop}

theorem afterPauses_kept {α : Type} {read : StateM σ α} (lasts : scene.Lasts kept)
    (stays : ∀ state, kept state → kept (read.run state).2) (patience : Duration) {state : σ}
    (now : kept state) (paused : Nat) : kept (afterPauses scene read patience state paused) := by
  induction paused with
  | zero => exact now
  | succ paused ih => exact lasts _ _ (stays _ ih)

theorem lookup_unchanging (holds : disk.Holds files) (lasts : scene.Lasts kept)
    {members : List Member}
    (reads : ∀ state, kept state →
      (readMembers (scene.watch files) (directoryOf root path)).run state = (.ok members, state))
    {patience : Duration} {state : σ} (now : kept state)
    (representable : Deadline.InReach (scene.clock state) patience) {steps : Nat}
    (enough : pausesIn patience < steps) :
    ((lookup (scene.watch files) steps root path patience).play state).1 =
      .ok (if members = [] then .error (.timeout path patience) else .ok members) := by
  have stays (state : σ) (here : kept state) :
      kept ((readMembers (scene.watch files) (directoryOf root path)).run state).2 := by
    rw [reads state here]
    exact here
  by_cases none : members = []
  · subst none
    have quiet := readMembers_quiet (scene.reads_disk holds) (directoryOf root path)
    obtain ⟨last, -, -, result, ends, same⟩ := lookup_ends path state
      (fun state => ⟨(quiet state).1, trivial⟩) representable enough
    refine (congrArg Performance.outcome same).trans (congrArg Except.ok ?_)
    have nobody := congrArg Prod.fst (reads _ (afterPauses_kept lasts stays patience now last))
    cases ends with
    | decided somebody => exact absurd nobody somebody
    | late _ _ => rfl
  · rw [if_neg none]
    have somebody : (Except.ok members : Except DiscoveryFailure (List Member)) ≠ .ok [] :=
      fun same => none (Except.ok.inj same)
    exact congrArg Performance.outcome
      (lookup_decided patience (reads state now) somebody representable (Nat.zero_lt_of_lt enough))

end Lookup

end Directory

/-! Locators. -/

namespace RegistryLocator

variable {locator : RegistryLocator}

theorem rawUrl_result (unknown : locator.found = none) (around : Surroundings (StateM σ) Nat)
    (state : σ) :
    ((locator.rawUrl around).play state).1.map Prod.fst =
      ((around.lookup locator.target locator.patience).play state).1.map locator.leader := by
  simp only [rawUrl, unknown, Run.play_bind]
  rcases (around.lookup locator.target locator.patience).play state with ⟨halt | answer, stop⟩
  · rfl
  · change _ = Except.ok (locator.leader answer)
    cases leads : locator.leader answer <;> simp only [leads, Run.play_pure, Except.map]

theorem leader_eq_leader_iff {one other : List Member} :
    locator.leader (.ok one) = locator.leader (.ok other) ↔
      one.head?.map Member.url = other.head?.map Member.url := by
  cases one <;> cases other <;>
    simp only [leader, List.head?_nil, List.head?_cons, Option.map_none, Option.map_some,
      Except.ok.injEq, Option.some.injEq, reduceCtorEq]

end RegistryLocator

theorem Stage.lookup_fixed (stage : Stage) {members : List Member}
    (fixed : stage.registry = .fixed members) (start : Stage) (answering : Answering)
    (login : String → Except LoginError Login) (target : RegistryTarget) (patience : Duration) :
    (((start.surroundings answering login).lookup target patience).play stage).1 =
      .ok (.ok members) := by
  have answer : (((start.surroundings answering login).lookup target patience).play stage).1 =
      .ok (ask stage.registry).1 := rfl
  rw [answer, fixed]
  rfl

/-- The first member leads whom a directory, which is not changed meanwhile, is read as. -/
theorem RegistryLocator.rawUrl_directory {disk : Disk σ} {files : FileStore (StateM σ)}
    (holds : disk.Holds files) {settings : Settings} {root : String}
    (rooted : settings.registryRoot = some root) {locator : RegistryLocator}
    (unknown : locator.found = none) (kept : σ → Prop) (lasts : scene.Lasts kept)
    {members : List Member}
    (reads : ∀ state, kept state →
      (Directory.readMembers (scene.watch files)
        (Directory.directoryOf root locator.target.path)).run state = (.ok members, state))
    {state : σ} (now : kept state)
    (representable : Deadline.InReach (scene.clock state) locator.patience) {steps : Nat}
    (enough : Directory.pausesIn locator.patience < steps) :
    let around := settings.registry (scene.watch files) steps scene.surroundings
    ((locator.rawUrl around).play state).1.map Prod.fst = .ok (locator.leader (.ok members)) := by
  intro around
  have looks : ((around.lookup locator.target locator.patience).play state).1 =
      .ok (if members = [] then .error (.timeout locator.target.path locator.patience)
        else .ok members) := by
    simp only [around]
    rw [Settings.registry_searching rooted (scene.watch files) steps scene]
    exact Directory.lookup_unchanging holds lasts reads now representable enough
  rw [rawUrl_result unknown, looks]
  by_cases nobody : members = []
  · rw [if_pos nobody, nobody]
    rfl
  · rw [if_neg nobody]
    rfl

/-- A registry in a directory has the first live member lead, a fixed one the first of all members.
So they agree exactly if that is the same address, or if neither has such a member. Where nobody
leads, there is no scheduler after the time for which the registry is waited. -/
theorem registries_agree_on_live_leader (scene : Scene σ) {disk : Disk σ}
    {files : FileStore (StateM σ)} (holds : disk.Holds files) (settings : Settings) {root : String}
    (rooted : settings.registryRoot = some root) (locator : RegistryLocator)
    (unknown : locator.found = none) (members : List Member) (start : Nat)
    (small : start + members.length ≤ 10 ^ 10)
    (sorted : ∀ member ∈ members, Member.InOrder member.additional) (kept : σ → Prop)
    (lasts : scene.Lasts kept)
    (packs : ∀ state, kept state →
      Directory.Packs disk (Directory.directoryOf root locator.target.path) members start state)
    (state : σ) (now : kept state)
    (representable : Deadline.InReach (scene.clock state) locator.patience) (steps : Nat)
    (enough : Directory.pausesIn locator.patience < steps)
    (fixed : Surroundings (StateM τ) Nat) (other : τ)
    (knows : ∀ target patience, ((fixed.lookup target patience).play other).1 = .ok (.ok members)) :
    let live := Directory.liveMembers members
    let around := settings.registry (scene.watch files) steps scene.surroundings
    let mirrored := ((locator.rawUrl around).play state).1.map Prod.fst
    let listed := ((locator.rawUrl fixed).play other).1.map Prod.fst
    mirrored = .ok (locator.leader (.ok live)) ∧ listed = .ok (locator.leader (.ok members)) ∧
      (mirrored = listed ↔ live.head?.map Member.url = members.head?.map Member.url) := by
  intro live around mirrored listed
  have reads (state : σ) (here : kept state) :=
    (packs state here).readMembers (scene.watch files) holds small sorted
  have here : mirrored = .ok (locator.leader (.ok live)) :=
    RegistryLocator.rawUrl_directory holds rooted unknown kept lasts reads now representable enough
  have there : listed = .ok (locator.leader (.ok members)) := by
    simp only [listed, RegistryLocator.rawUrl_result unknown, knows]
    rfl
  refine ⟨here, there, ?_⟩
  rw [here, there, Except.ok.injEq]
  exact RegistryLocator.leader_eq_leader_iff

def Settings.mirrored : Settings := { registryRoot := some "/serversets" }

def RegistryLocator.hasty : RegistryLocator :=
  { target := ⟨"west", "zk", 2181, "/west"⟩, proxyUrl := none, patience := .zero }

def RegistryLocator.mirrored (members : List Member) : Except Halt (Except LinkFailure String) :=
  let scene := Stage.scene {} fun _ => .ok .anonymous
  let disk : Disk Stage :=
    .still (Directory.directoryOf "/serversets" "/west") (Directory.packedFiles members 0)
  let around := Settings.mirrored.registry (scene.watch disk.files) 1 scene.surroundings
  ((hasty.rawUrl around).play {}).1.map Prod.fst

def RegistryLocator.listed (members : List Member) : Except Halt (Except LinkFailure String) :=
  let stage : Stage := { registry := .fixed members }
  ((hasty.rawUrl (stage.surroundings .script fun _ => .ok .anonymous)).play stage).1.map Prod.fst

def Member.gone : Member := { endpoint := ⟨"gone", 8081⟩, status := .dead }

theorem first_live_member_leads_both :
    let members := [Directory.scheduler "leader", Member.gone]
    RegistryLocator.mirrored members = .ok (.ok "http://leader:8081") ∧
      RegistryLocator.mirrored members = RegistryLocator.listed members := by
  intro members
  have sorted : ∀ member ∈ members, Member.InOrder member.additional :=
    List.forall_mem_cons.mpr ⟨.nil, List.forall_mem_singleton.mpr .nil⟩
  obtain ⟨here, -, agree⟩ := registries_agree_on_live_leader
    (Stage.scene {} fun _ => .ok .anonymous) (Disk.holds_files _)
    .mirrored rfl .hasty rfl members 0 (by decide) sorted (fun _ => True)
    (fun _ _ _ => trivial) (fun stage _ => Directory.packs_still _ _ _ stage) {} trivial
    (by decide) 1 (by decide)
    (Stage.surroundings { registry := .fixed members } .script fun _ => .ok .anonymous)
    { registry := .fixed members } (Stage.lookup_fixed _ rfl _ _ _)
  exact ⟨here, agree.mpr rfl⟩

/-- A fixed registry has a scheduler lead that has died, where a directory has nobody lead. -/
theorem dead_member_leads_fixed_registry :
    let members := [Member.gone]
    RegistryLocator.mirrored members = .ok (.error (.noScheduler "west" .zero)) ∧
      RegistryLocator.listed members = .ok (.ok "http://gone:8081") := by
  intro members
  have packs := Directory.packs_still (σ := Stage) (Directory.directoryOf "/serversets" "/west")
    members 0
  have reads (stage : Stage) :=
    (packs stage).readMembers ((Stage.scene {} fun _ => .ok .anonymous).watch (Disk.files _))
      (Disk.holds_files _) (by decide) (List.forall_mem_singleton.mpr .nil)
  have rooted : Settings.mirrored.registryRoot = some "/serversets" := rfl
  have unknown : RegistryLocator.hasty.found = none := rfl
  constructor
  · exact RegistryLocator.rawUrl_directory (Disk.holds_files _) rooted unknown (fun _ => True)
      (fun _ _ _ => trivial) (fun stage _ => reads stage) trivial (by decide) (by decide)
  · have knows := Stage.lookup_fixed { registry := .fixed members } rfl
      { registry := .fixed members } .script fun _ => .ok .anonymous
    exact (RegistryLocator.rawUrl_result unknown _ _).trans
      (congrArg (·.map RegistryLocator.hasty.leader) (knows _ _))

end SchedulerLink
