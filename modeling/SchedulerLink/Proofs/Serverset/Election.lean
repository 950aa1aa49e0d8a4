import Mathlib.Algebra.Group.Nat.Defs
import SchedulerLink.Link.Locator
import SchedulerLink.Proofs.Serverset.Inspection
import SchedulerLink.Rehearsal.Stage

/-!
The first live member of a directory leads.

Numbers that are written with the same number of digits are in the order of their texts. So the
files of members are read in the order of arrival, however the directory lists them, and a reading
comes to the live members in that order.
-/

namespace SchedulerLink

namespace Directory

variable {σ : Type}

/-! Numbers in names. -/

/-- The number in the order of arrival that the name of a member file says. -/
def arrival (name : String) : Nat := Nat.ofDigitChars 10 (name.toList.drop memberMark.length) 0

inductive IsNumbered (width : Nat) : String → Prop where
  | digits {digits : List Char} (decimal : ∀ digit ∈ digits, digit.isDigit = true)
    (wide : digits.length = width) : IsNumbered width (memberMark ++ String.ofList digits)

theorem value_cons (digit : Char) (digits : List Char) :
    Nat.ofDigitChars 10 (digit :: digits) 0 =
      10 ^ digits.length * (digit.toNat - 48) + Nat.ofDigitChars 10 digits 0 := by
  rw [Nat.ofDigitChars_cons, Nat.ofDigitChars_eq_ofDigitChars_zero, Nat.mul_zero, Nat.zero_add]
  rfl

theorem bounds_of_digit {digit : Char} (decimal : digit.isDigit = true) :
    48 ≤ digit.toNat ∧ digit.toNat ≤ 57 := Char.isDigit_iff_toNat.mp decimal

theorem value_lt {digits : List Char} (decimal : ∀ digit ∈ digits, digit.isDigit = true) :
    Nat.ofDigitChars 10 digits 0 < 10 ^ digits.length := by
  induction digits with
  | nil => exact Nat.one_pos
  | cons digit rest ih =>
    obtain ⟨first, others⟩ := List.forall_mem_cons.mp decimal
    have bounds := bounds_of_digit first
    have tail := ih others
    have most : 10 ^ rest.length * (digit.toNat - 48) ≤ 10 ^ rest.length * 9 :=
      Nat.mul_le_mul_left _ (by omega)
    rw [value_cons, List.length_cons, Nat.pow_succ]
    omega

theorem value_lt_value {one other : List Char} (less : one < other)
    (same : one.length = other.length) (decimal : ∀ digit ∈ one, digit.isDigit = true)
    (others : ∀ digit ∈ other, digit.isDigit = true) :
    Nat.ofDigitChars 10 one 0 < Nat.ofDigitChars 10 other 0 := by
  -- The first digit in which the texts differ decides, however large the digits behind it are.
  induction less with
  | nil => cases same
  | @cons digit one other less ih =>
    have shorter : one.length = other.length := Nat.succ.inj same
    have tail := ih shorter (List.forall_mem_cons.mp decimal).2 (List.forall_mem_cons.mp others).2
    rw [value_cons, value_cons, shorter]
    omega
  | @rel small one large other less =>
    have shorter : one.length = other.length := Nat.succ.inj same
    obtain ⟨lower, rest⟩ := List.forall_mem_cons.mp decimal
    have least := bounds_of_digit lower
    have below := value_lt rest
    have step : small.toNat < large.toNat := less
    have more :
        10 ^ other.length * (small.toNat - 48 + 1) ≤ 10 ^ other.length * (large.toNat - 48) :=
      Nat.mul_le_mul_left _ (by omega)
    rw [Nat.mul_succ] at more
    rw [value_cons, value_cons, shorter]
    rw [shorter] at below
    omega

theorem arrival_mark (digits : List Char) :
    arrival (memberMark ++ String.ofList digits) = Nat.ofDigitChars 10 digits 0 := by
  rw [arrival, String.toList_append, String.toList_ofList]
  rfl

theorem arrival_lt {width : Nat} {one other : String} (numbered : IsNumbered width one)
    (others : IsNumbered width other) (less : one < other) : arrival one < arrival other := by
  obtain ⟨decimal, wide⟩ := numbered
  obtain ⟨decimals, wider⟩ := others
  rw [arrival_mark, arrival_mark]
  refine value_lt_value ?_ (wide.trans wider.symm) decimal decimals
  rw [String.lt_iff, String.toList_append, String.toList_append, String.toList_ofList,
    String.toList_ofList] at less
  simpa only [memberMark, String.reduceToList, List.cons_append, List.nil_append,
    List.cons_lt_cons_self] using less

/-! The order of member files. -/

theorem memberNames_perm (names : List String) :
    (memberNames names).Perm (names.filter (·.startsWith memberMark)) := List.mergeSort_perm _ _

theorem mem_memberNames {names : List String} {name : String} :
    name ∈ memberNames names ↔ name ∈ names ∧ name.startsWith memberMark = true := by
  rw [(memberNames_perm names).mem_iff, List.mem_filter]

theorem memberNames_pairwise (names : List String) : (memberNames names).Pairwise (· ≤ ·) := by
  have sorted : (memberNames names).Pairwise fun one other => decide (one ≤ other) = true := by
    refine List.pairwise_mergeSort (fun _ _ _ less more => ?_) (fun one other => ?_) _
    · exact decide_eq_true (String.le_trans (of_decide_eq_true less) (of_decide_eq_true more))
    · rw [Bool.or_eq_true]
      exact (String.le_total one other).imp decide_eq_true decide_eq_true
  exact sorted.imp of_decide_eq_true

theorem memberNames_arrive {width : Nat} {names : List String} (distinct : names.Nodup)
    (numbered : ∀ name ∈ names, name.startsWith memberMark = true → IsNumbered width name) :
    (memberNames names).Pairwise (arrival · < arrival ·) := by
  have different : (memberNames names).Nodup :=
    (memberNames_perm names).nodup_iff.mpr (distinct.filter _)
  refine List.Pairwise.imp_of_mem ?_ ((memberNames_pairwise names).and different)
  intro one other member others ⟨less, unlike⟩
  obtain ⟨listed, marked⟩ := mem_memberNames.mp member
  obtain ⟨lists, marks⟩ := mem_memberNames.mp others
  refine arrival_lt (numbered one listed marked) (numbered other lists marks) ?_
  exact String.not_le.mp fun more => unlike (String.le_antisymm less more)

theorem memberNames_eq {width : Nat} {names order : List String} (distinct : names.Nodup)
    (numbered : ∀ name ∈ names, name.startsWith memberMark = true → IsNumbered width name)
    (ordered : order.Pairwise (arrival · < arrival ·))
    (same : (names.filter (·.startsWith memberMark)).Perm order) : memberNames names = order :=
  ((memberNames_perm names).trans same).eq_of_pairwise
    (fun _ _ _ _ less more => absurd less (Nat.lt_asymm more))
    (memberNames_arrive distinct numbered) ordered

theorem memberNames_singleton {name : String} (marked : name.startsWith memberMark = true) :
    memberNames [name] = [name] := by
  have only : [name].filter (·.startsWith memberMark) = [name] :=
    List.filter_eq_self.mpr (List.forall_mem_singleton.mpr marked)
  exact List.perm_singleton.mp ((memberNames_perm [name]).trans (.of_eq only))

/-! The members that are found. -/

/-- The live members among what was found, each with the file that describes it, in the order of
arrival. -/
structure Elects (found : Findings) (live : List (String × Member)) : Prop where
  ordered : live.Pairwise fun one other => arrival one.1 < arrival other.1
  mem_iff (name : String) (member : Member) :
    (name, member) ∈ live ↔ ∃ file ∈ found, file.1 = name ∧ Describes file.2 member

def elected (found : Findings) : List (String × Member) :=
  found.filterMap fun file => (described file.2).map (file.1, ·)

theorem elected_members (found : Findings) :
    (elected found).map Prod.snd = found.filterMap (described ·.2) := by
  rw [elected, List.map_filterMap]
  congr 1
  funext file
  cases described file.2 <;> rfl

theorem elects_elected {found : Findings}
    (ordered : (found.map Prod.fst).Pairwise (arrival · < arrival ·)) :
    Elects found (elected found) where
  ordered := by
    refine List.pairwise_filterMap.mpr ((List.pairwise_map.mp ordered).imp ?_)
    intro one other earlier chosen first next second
    obtain ⟨member, -, rfl⟩ := Option.map_eq_some_iff.mp first
    obtain ⟨later, -, rfl⟩ := Option.map_eq_some_iff.mp second
    exact earlier
  mem_iff name member := by
    simp only [elected, List.mem_filterMap, Option.map_eq_some_iff, described_eq_some,
      Prod.mk.injEq]
    constructor
    · rintro ⟨file, listed, described, describes, same, rfl⟩
      exact ⟨file, listed, same, describes⟩
    · rintro ⟨file, listed, same, describes⟩
      exact ⟨file, listed, member, describes, same, rfl⟩

/-- The first of the live members has arrived before all others. -/
theorem Elects.leader {found : Findings} {live : List (String × Member)}
    (elects : Elects found live) {leader : Member} {others : List Member}
    (first : live.map Prod.snd = leader :: others) :
    ∃ name, (name, leader) ∈ live ∧ ∀ other ∈ live, arrival name ≤ arrival other.1 := by
  cases live with
  | nil => cases first
  | cons entry rest =>
    obtain ⟨rfl, -⟩ := List.cons.inj first
    refine ⟨entry.1, List.mem_cons_self, List.forall_mem_cons.mpr ⟨Nat.le_refl _, ?_⟩⟩
    exact fun other later => Nat.le_of_lt ((List.pairwise_cons.mp elects.ordered).1 other later)

/-- The first live member leads. However a directory lists its files, those of members are read in
the order of arrival, each of them once. If each of them has a text or has vanished, the reading
comes to the live members in that order: nothing else makes a difference, neither other files nor
those without a live member. The first of them is the one that calls go to. A file that is there and
cannot be read ends the reading. -/
theorem first_live_member_leads (watch : Watch (StateM σ)) (directory : String)
    {names : List String} (state : σ) {next : σ} {width : Nat}
    (lists : (watch.files.list directory).run state = (.ok names, next)) (distinct : names.Nodup)
    (numbered : ∀ name ∈ names, name.startsWith memberMark = true → IsNumbered width name) :
    ∃ order : List String, order.Pairwise (arrival · < arrival ·) ∧
      (∀ name, name ∈ order ↔ name ∈ names ∧ name.startsWith memberMark = true) ∧
      let found := ((inspect watch.files directory order).run next).1
      let reading := ((readMembers watch directory).run state).1
      found.map Prod.fst = order ∧
      ((∀ file ∈ found, IsPassed file.2) →
        ∃ live, Elects found live ∧ reading = .ok (live.map Prod.snd) ∧
          ∀ leader others, reading = .ok (leader :: others) →
            (∃ name, (name, leader) ∈ live ∧ ∀ other ∈ live, arrival name ≤ arrival other.1) ∧
            ∀ locator : RegistryLocator, locator.leader reading = .ok leader.url) ∧
      ∀ before name fault after, found = before ++ (name, .error fault) :: after →
        fault ≠ .notFound → (∀ file ∈ before, IsPassed file.2) →
          reading = .error (unreadable (Path.join directory name) fault) := by
  have ordered := memberNames_arrive distinct numbered
  refine ⟨memberNames names, ordered, fun name => mem_memberNames, ?_⟩
  intro found reading
  have reads : reading = ((readFiles watch directory (memberNames names)).run next).1 :=
    congrArg Prod.fst (readMembers_run lists)
  have named : found.map Prod.fst = memberNames names := inspect_names _ _ _ _
  refine ⟨named, fun passed => ?_, fun before name fault after part present passed => ?_⟩
  · have elects : Elects found (elected found) := elects_elected (named ▸ ordered)
    have comes : reading = .ok ((elected found).map Prod.snd) := by
      rw [reads, readFiles_passed passed, elected_members]
    refine ⟨elected found, elects, comes, fun leader others first => ⟨?_, fun locator => ?_⟩⟩
    · exact elects.leader (Except.ok.inj (comes.symm.trans first))
    · rw [first]
      rfl
  · rw [reads, readFiles_unreadable part passed present]

/-! Two directories. -/

def scheduler (host : String) : Member := { endpoint := ⟨host, 8081⟩ }

def schedulerText (host : String) : String :=
  "\x7b\"serviceEndpoint\":\x7b\"host\":\"" ++ host ++ "\",\"port\":8081\x7d\x7d"

theorem describes_scheduler (host : String)
    (unpacks : (Member.unpack (Bytes.ofString (schedulerText host))).toOption =
      some (scheduler host)) : Describes (.ok (schedulerText host)) (scheduler host) := by
  refine .alive ?_ rfl
  cases read : Member.unpack (Bytes.ofString (schedulerText host)) with
  | error fault => simp only [read, Except.toOption, reduceCtorEq] at unpacks
  | ok member =>
    rw [read] at unpacks
    exact congrArg Except.ok (Option.some.inj unpacks)

theorem describes_leader : Describes (.ok (schedulerText "leader")) (scheduler "leader") :=
  describes_scheduler "leader" (by decide +kernel)

def textFile (text : String) : Except FileFault Bytes := .ok (Bytes.ofString text)

theorem asText_textFile (text : String) : (textFile text).bind Bytes.asText = .ok text :=
  Bytes.asText_ofString text

def handedOver : List (String × Except FileFault Bytes) :=
  [("member_0000000003", textFile (schedulerText "follower")), ("lock", textFile "ignored"),
    ("member_0000000002", textFile (schedulerText "leader")),
    ("member_0000000001", .error .notFound)]

def stillWatch (entries : List (String × Except FileFault Bytes)) : Watch (StateM Stage) where
  toClock := Stage.timer
  files := (Disk.still "/serverset" entries).files

theorem isNumbered (digits : List Char) (decimal : digits.all Char.isDigit = true)
    (wide : digits.length = 10) : IsNumbered 10 (memberMark ++ String.ofList digits) :=
  .digits (List.all_eq_true.mp decimal) wide

theorem list_stillWatch (entries : List (String × Except FileFault Bytes)) (state : Stage) :
    ((stillWatch entries).files.list "/serverset").run state =
      (.ok (entries.map Prod.fst), state) :=
  congrArg (·, state) (Disk.list_still _ _ _)

theorem inspect_stillWatch {entries : List (String × Except FileFault Bytes)} {order : List String}
    {state : Stage} (distinct : (entries.map Prod.fst).Nodup)
    (relative : ∀ entry ∈ entries, entry.1.startsWith "/" = false)
    (listed : ∀ name ∈ order, name ∈ entries.map Prod.fst)
    {file : String × Except FileFault String} :
    file ∈ ((inspect (stillWatch entries).files "/serverset" order).run state).1 ↔
      ∃ entry ∈ entries, entry.1 ∈ order ∧ file = (entry.1, entry.2.bind Bytes.asText) := by
  have looks : ∀ entry ∈ entries,
      (Disk.still "/serverset" entries).look state (Path.join "/serverset" entry.1) =
        entry.2.bind Bytes.asText := fun _ among =>
    congrArg (·.bind Bytes.asText) (Disk.read_still distinct relative among state)
  rw [stillWatch, inspect_disk (Disk.holds_files _), List.mem_map]
  constructor
  · rintro ⟨name, read, rfl⟩
    obtain ⟨entry, among, rfl⟩ := List.mem_map.mp (listed name read)
    exact ⟨entry, among, read, by rw [looks entry among]⟩
  · rintro ⟨entry, among, read, rfl⟩
    exact ⟨entry.1, read, by rw [looks entry among]⟩

theorem handedOver_numbered : ∀ name ∈ handedOver.map Prod.fst,
    name.startsWith memberMark = true → IsNumbered 10 name := by
  refine List.forall_mem_cons.mpr ⟨fun _ => ?_, List.forall_mem_cons.mpr ⟨fun marked => ?_,
    List.forall_mem_cons.mpr ⟨fun _ => ?_, List.forall_mem_singleton.mpr fun _ => ?_⟩⟩⟩
  · exact isNumbered "0000000003".toList (by decide) (by decide)
  · exact absurd marked (by decide +kernel)
  · exact isNumbered "0000000002".toList (by decide) (by decide)
  · exact isNumbered "0000000001".toList (by decide) (by decide)

/-- The next member in the order of arrival leads. -/
theorem next_arrival_leads :
    ∃ others, ((readMembers (stillWatch handedOver) "/serverset").run {}).1 =
      .ok (scheduler "leader" :: others) := by
  have distinct : (handedOver.map Prod.fst).Nodup := by decide
  have relative : ∀ entry ∈ handedOver, entry.1.startsWith "/" = false := by decide +kernel
  obtain ⟨order, -, listed, -, passes, -⟩ := first_live_member_leads
    (stillWatch handedOver) "/serverset" {} (list_stillWatch _ _) distinct handedOver_numbered
  have found := @inspect_stillWatch handedOver order {} distinct relative
    fun name read => ((listed name).mp read).1
  have passed : ∀ entry ∈ handedOver, IsPassed (entry.2.bind Bytes.asText) := by
    refine List.forall_mem_cons.mpr ⟨?_, List.forall_mem_cons.mpr ⟨?_,
      List.forall_mem_cons.mpr ⟨?_, List.forall_mem_singleton.mpr .vanished⟩⟩⟩
    all_goals exact (asText_textFile _).symm ▸ .text _
  obtain ⟨live, elects, comes, leads⟩ := passes fun file read => by
    obtain ⟨entry, among, -, rfl⟩ := found.mp read
    exact passed entry among
  have second : ("member_0000000002", scheduler "leader") ∈ live := by
    have read : "member_0000000002" ∈ order := (listed _).mpr ⟨by decide, by decide +kernel⟩
    refine (elects.mem_iff _ _).mpr
      ⟨_, found.mpr ⟨_, .tail _ (.tail _ (.head _)), read, rfl⟩, rfl, ?_⟩
    exact (asText_textFile _).symm ▸ describes_leader
  obtain ⟨first, others, begins⟩ : ∃ first others, live.map Prod.snd = first :: others :=
    List.exists_cons_of_ne_nil (List.ne_nil_of_mem (List.mem_map_of_mem second))
  rw [begins] at comes
  obtain ⟨⟨name, chosen, least⟩, -⟩ := leads first others comes
  refine ⟨others, comes.trans ?_⟩
  obtain ⟨file, read, rfl, describes⟩ := (elects.mem_iff _ _).mp chosen
  obtain ⟨entry, among, marked, rfl⟩ := found.mp read
  simp only [handedOver, List.mem_cons, List.not_mem_nil, or_false] at among
  rcases among with rfl | rfl | rfl | rfl
  · exact absurd (least _ second) (by decide +kernel)
  · exact absurd ((listed _).mp marked).2 (by decide +kernel)
  · rw [describes.unique ((asText_textFile _).symm ▸ describes_leader)]
  · cases describes

def obstructed : List (String × Except FileFault Bytes) :=
  [("member_0000000001", textFile (schedulerText "leader")),
    ("member_0000000002", .error .isDirectory)]

/-- All that can be read in it is text, and yet the leader is not found. -/
theorem obstructed_leader_is_missed :
    let names := obstructed.map Prod.fst
    let watch := stillWatch obstructed
    let read name := ((watch.files.read (Path.join "/serverset" name)).run {}).1
    let reading := ((readMembers watch "/serverset").run {}).1
    (watch.files.list "/serverset").run {} = (.ok names, {}) ∧ names.Nodup ∧
      (∀ name ∈ names, name.startsWith memberMark = true → IsNumbered 10 name) ∧
      (∀ name ∈ names, read name ≠ .error .notText) ∧
      (∀ name ∈ names, ∀ member, Describes (read name) member ↔
        name = "member_0000000001" ∧ member = scheduler "leader") ∧
      reading ≠ .ok [scheduler "leader"] ∧
      reading = .error (unreadable (Path.join "/serverset" "member_0000000002") .isDirectory) := by
  intro names watch read reading
  have numbered : ∀ name ∈ names, name.startsWith memberMark = true → IsNumbered 10 name := by
    refine List.forall_mem_cons.mpr ⟨fun _ => ?_, List.forall_mem_singleton.mpr fun _ => ?_⟩
    · exact isNumbered "0000000001".toList (by decide) (by decide)
    · exact isNumbered "0000000002".toList (by decide) (by decide)
  have ordered : memberNames names = names := by
    refine memberNames_eq (by decide) numbered (by decide +kernel) ?_
    exact .of_eq (List.filter_eq_self.mpr (by decide +kernel))
  have looks : ∀ entry ∈ obstructed, read entry.1 = entry.2.bind Bytes.asText := fun _ among =>
    congrArg (·.bind Bytes.asText)
      (Disk.read_still (by decide) (by decide +kernel) among _)
  have first : read "member_0000000001" = .ok (schedulerText "leader") :=
    (looks (_, textFile (schedulerText "leader")) (.head _)).trans (asText_textFile _)
  have second : read "member_0000000002" = .error .isDirectory :=
    looks (_, .error .isDirectory) (.tail _ (.head _))
  have found : ((inspect watch.files "/serverset" names).run {}).1 =
      [("member_0000000001", .ok (schedulerText "leader"))] ++
        [("member_0000000002", .error .isDirectory)] := by
    rw [← first, ← second]
    exact congrArg Prod.fst (inspect_disk (Disk.holds_files _) _ _ _)
  have fails : reading =
      .error (unreadable (Path.join "/serverset" "member_0000000002") .isDirectory) := by
    have reads : reading = ((readFiles watch "/serverset" (memberNames names)).run {}).1 :=
      congrArg Prod.fst (readMembers_run (list_stillWatch _ _))
    rw [reads, ordered]
    exact readFiles_unreadable found (List.forall_mem_singleton.mpr (.text _)) (by decide)
  refine ⟨list_stillWatch _ _, by decide, numbered, ?_, ?_, ?_, fails⟩
  · refine List.forall_mem_cons.mpr ⟨?_, List.forall_mem_singleton.mpr ?_⟩
    · rw [first]
      nofun
    · rw [second]
      nofun
  · refine List.forall_mem_cons.mpr
      ⟨fun member => ?_, List.forall_mem_singleton.mpr fun member => ?_⟩
    · rw [first]
      refine ⟨fun describes => ⟨rfl, describes.unique describes_leader⟩, ?_⟩
      rintro ⟨-, rfl⟩
      exact describes_leader
    · rw [second]
      refine ⟨nofun, ?_⟩
      rintro ⟨other, -⟩
      exact absurd other (by decide)
  · rw [fails]
    nofun

end Directory

end SchedulerLink
