import SchedulerLink.Proofs.Serverset.Carrying

/-!
Unpacking a text that carries a member.

A record is read field by field, so what has been read of it depends on the names met so far and not
on their order. Every text that carries a member is unpacked to it, and so is what was packed.
-/

namespace SchedulerLink.Member

open Ascii Json

/-! Scalars. -/

theorem readString_quotes (expected : String) {meant : String} {value : Bytes}
    (quotes : Quotes meant value) : Reads (readString expected) value meant := by
  intro blank rest early _
  obtain ⟨behind, quoted, reads⟩ := quotes.begins early rest
  unfold readString
  split
  · rename_i next
    rw [quoted] at next
    cases next
  · rename_i next
    rw [quoted] at next
    cases next
    exact reads.within _

theorem readInteger_encodeInt (expected : String) {low high value : Int}
    (least : -0x8000000000000000 ≤ low) (most : high ≤ 0x10000000000000000)
    (within : low ≤ value ∧ value < high) :
    Reads (readInteger expected low high) (encodeInt value) value := by
  intro blank rest early stops
  obtain ⟨numeral, reads, means⟩ := Numeral.read_encodeInt .endInValue
    (Int.le_trans least within.1) (Int.lt_of_lt_of_le within.2 most) stops
  obtain ⟨octet, behind, text, starts, begins⟩ := encodeInt_begins value early rest
  rw [text] at reads
  obtain ⟨shorter, scalar⟩ := readScalar_number starts reads means
  have numeric : octet = minus ∨ isDigit octet = true := by
    simpa [startsNumber] using starts
  unfold readInteger
  split
  · rename_i next
    rw [begins] at next
    cases next
  · rename_i next
    rw [begins] at next
    cases next
    simp only [if_pos numeric, scalar, if_pos within]
    exact ⟨_, rfl⟩

theorem readPort_encodeInt (port : UInt16) : Reads readPort (encodeInt port.toNat) port := by
  have bound : (port.toNat : Int) < 0x10000 := Int.ofNat_lt.mpr port.toNat_lt
  have reads := readInteger_encodeInt "u16" (by decide) (by decide)
    ⟨Int.natCast_nonneg port.toNat, bound⟩
  apply reads.view fun value => UInt16.ofNat value.toNat
  · exact fun _ => rfl
  · rw [Int.toNat_natCast, UInt16.ofNat_toNat]

theorem readShard_encodeInt (number : Int32) :
    Reads readShard (encodeInt number.toInt) (some number) := by
  have within : (-0x80000000 : Int) ≤ number.toInt ∧ number.toInt < 0x80000000 :=
    ⟨number.le_toInt, number.toInt_lt⟩
  intro blank rest early stops
  obtain ⟨shorter, reads⟩ := readInteger_encodeInt "i32" (by decide) (by decide) within
    blank rest early stops
  obtain ⟨octet, behind, -, starts, begins⟩ := encodeInt_begins number.toInt early rest
  unfold readShard
  split
  · rename_i next
    rw [begins] at next
    exact absurd (List.cons.inj next).1 (ne_of_startsNumber starts rfl)
  · simp only [reads]
    exact ⟨shorter, by rw [Except.map, Int32.ofInt_toInt]⟩

theorem readShard_null : Reads readShard (Bytes.ofString "null") none := by
  intro blank rest early _
  have begins : skipBlank (blank ++ (Bytes.ofString "null" ++ rest)) =
      lowerN :: (nullTail ++ rest) := skipBlank_visible early rfl _
  unfold readShard
  split
  · rename_i behind next
    obtain rfl : nullTail ++ rest = behind := (List.cons.inj (begins.symm.trans next)).2
    have nothing : Yields (readNothing next) () rest :=
      (readWord_append () nullTail lowerN rest).within _
    exact nothing.map (fun _ => none) fun parsed => parsed.shorter
  · rename_i other
    exact absurd begins (other _)

theorem ofPackedName?_packedName (status : MemberStatus) :
    MemberStatus.ofPackedName? status.packedName = some status := by
  cases status <;> decide

theorem readStatus_quotes {status : MemberStatus} {value : Bytes}
    (quotes : Quotes status.packedName value) : Reads readStatus value status := by
  intro blank rest early _
  obtain ⟨behind, quoted, shorter, reads⟩ := quotes.begins early rest
  unfold readStatus
  split
  · rename_i next
    rw [quoted] at next
    cases next
  · rename_i next
    rw [quoted] at next
    cases next
    simp only [↓reduceIte, reads, statusOf, ofPackedName?_packedName]
    exact ⟨_, rfl⟩

/-! Records. -/

section Records

variable {τ : Type} {readField : τ → String → (input : Bytes) → Reading τ input}
  {draft : List String → τ} {known : List String} {writes : String → Bytes → Prop}

/-- How a reader takes the fields of a record: what has been read is settled by the names that were
met, a known field is read once and any other field is passed over. -/
structure Drafts (readField : τ → String → (input : Bytes) → Reading τ input)
    (draft : List String → τ) (known : List String) (writes : String → Bytes → Prop) : Prop where
  reads : ∀ seen name value, name ∈ known → name ∉ seen → writes name value →
    Reads (readField (draft seen) name) value (draft (seen ++ [name]))
  passes : ∀ seen name, name ∉ known → draft (seen ++ [name]) = draft seen ∧
    readField (draft seen) name = fun input =>
      (skipValue input).map fun parsed => ⟨draft seen, parsed.rest, parsed.shorter⟩

theorem Drafts.field (drafts : Drafts readField draft known writes) {seen : List String}
    {name : String} {value : Bytes} (fresh : name ∈ known → name ∉ seen)
    (written : if name ∈ known then writes name value else ValueText value) :
    Reads (readField (draft seen) name) value (draft (seen ++ [name])) := by
  by_cases listed : name ∈ known
  · rw [if_pos listed] at written
    exact drafts.reads seen name value listed (fresh listed) written
  · rw [if_neg listed] at written
    obtain ⟨same, skips⟩ := drafts.passes seen name listed
    rw [same, skips]
    exact (skipValue_text written).view (fun _ => draft seen) (fun _ => rfl) rfl

theorem Drafts.fills (drafts : Drafts readField draft known writes) {seen : List String}
    {entries : List (String × FieldText)}
    (once : ((seen ++ entries.map Prod.fst).filter (· ∈ known)).Nodup)
    (each : ∀ entry ∈ entries,
      if entry.1 ∈ known then writes entry.1 entry.2.value else ValueText entry.2.value) :
    Fills readField (draft seen) entries (draft (seen ++ entries.map Prod.fst)) := by
  -- Each field moves its name over to those that were met.
  induction entries generalizing seen with
  | nil =>
    rw [List.map_nil, List.append_nil]
    exact .nil
  | cons entry more ih =>
    obtain ⟨written, others⟩ := List.forall_mem_cons.mp each
    have fresh : entry.1 ∈ known → entry.1 ∉ seen := by
      intro listed met
      have listing : decide (entry.1 ∈ known) = true := decide_eq_true listed
      rw [List.filter_append, List.nodup_append] at once
      exact once.2.2 entry.1 (List.mem_filter.mpr ⟨met, listing⟩) entry.1
        (List.mem_filter.mpr ⟨List.mem_cons_self, listing⟩) rfl
    rw [List.map_cons, List.append_cons] at once ⊢
    exact .cons (drafts.field fresh written) (ih once others)

theorem readRecord_text (drafts : Drafts readField draft known writes) (expected : String)
    (readPlace : τ → Nat → (input : Bytes) → Reading τ input) (places : Nat)
    {names : List String} {text : Bytes} (record : RecordText known writes names text) :
    Reads (readRecord expected (draft []) readField readPlace places) text (draft names, none) := by
  intro blank rest early _
  cases record with
  | @fields entries text object once each =>
    have fills : Fills readField (draft []) entries (draft ([] ++ entries.map Prod.fst)) :=
      drafts.fills once each
    obtain ⟨behind, begins, reads⟩ := readObject_text object fills early rest
    unfold readRecord
    split
    · rename_i next
      rw [begins] at next
      cases next
    · rename_i next
      rw [begins] at next
      cases next
      simp only [↓reduceIte]
      exact reads.map (fun value => (value, none)) _

end Records

def met {α : Type} (seen : List String) (name : String) (value : α) : Option α :=
  if name ∈ seen then some value else none

@[simp]
theorem met_of_mem {α : Type} {seen : List String} {name : String} (value : α)
    (member : name ∈ seen) : met seen name value = some value :=
  if_pos member

@[simp]
theorem met_of_not_mem {α : Type} {seen : List String} {name : String} (value : α)
    (fresh : name ∉ seen) : met seen name value = none :=
  if_neg fresh

@[simp]
theorem met_append_other {α : Type} (seen : List String) {name other : String} (value : α)
    (different : name ≠ other) : met (seen ++ [other]) name value = met seen name value := by
  simp only [met, List.mem_append, List.mem_singleton, different, or_false]

/-! Endpoints. -/

def EndpointDraft.of (endpoint : Endpoint) (seen : List String) : EndpointDraft where
  host := met seen "host" endpoint.host
  port := met seen "port" endpoint.port

theorem EndpointDraft.drafts (endpoint : Endpoint) :
    Drafts readField (of endpoint) endpointFields (EndpointField endpoint) where
  reads := by
    intro seen name value _ fresh written
    cases written with
    | host quotes =>
      apply (readString_quotes "a string" quotes).view fun host =>
        { of endpoint seen with host := some host }
      · simp [readField, readHost, of, fresh]
      · simp [of]
    | port =>
      apply (readPort_encodeInt endpoint.port).view fun port =>
        { of endpoint seen with port := some port }
      · simp [readField, readPort, of, fresh]
      · simp [of]
  passes := by
    intro seen name unlisted
    obtain ⟨noHost, noPort⟩ : name ≠ "host" ∧ name ≠ "port" := by
      simpa [endpointFields] using unlisted
    refine ⟨by simp [of, noHost.symm, noPort.symm], ?_⟩
    funext input
    rw [readField, if_neg noHost, if_neg noPort]

theorem EndpointDraft.finish_of {endpoint : Endpoint} {names : List String}
    (whole : ∀ name ∈ endpointFields, name ∈ names) :
    (of endpoint names).finish none = .ok endpoint := by
  have host : "host" ∈ names := whole "host" (by simp [endpointFields])
  have port : "port" ∈ names := whole "port" (by simp [endpointFields])
  simp [finish, of, host, port]

theorem readEndpoint_text {endpoint : Endpoint} {text : Bytes}
    (written : EndpointText endpoint text) : Reads readEndpoint text endpoint := by
  intro blank rest early stops
  cases written with
  | record record whole =>
    obtain ⟨shorter, reads⟩ := readRecord_text (EndpointDraft.drafts endpoint) "struct Endpoint"
      EndpointDraft.readPlace 2 record blank rest early stops
    have start : EndpointDraft.of endpoint [] = {} := by simp [EndpointDraft.of]
    rw [start] at reads
    simp only [readEndpoint, reads, EndpointDraft.finish_of whole]
    exact ⟨shorter, rfl⟩

/-! Endpoints by name. -/

section Endpoints

variable {name : String} {endpoint : Endpoint} {endpoints : List (String × Endpoint)}

def InOrder (endpoints : List (String × Endpoint)) : Prop :=
  endpoints.Pairwise fun one next => one.1 < next.1

theorem perm_insertEndpoint (fresh : name ∉ endpoints.map Prod.fst) :
    (insertEndpoint name endpoint endpoints).Perm ((name, endpoint) :: endpoints) := by
  induction endpoints with
  | nil => exact .refl _
  | cons held rest ih =>
    obtain ⟨different, others⟩ := List.ne_and_not_mem_of_not_mem_cons fresh
    rw [insertEndpoint, if_neg different]
    split
    · exact .refl _
    · exact ((ih others).cons held).trans (.swap (name, endpoint) held rest)

theorem InOrder.insertEndpoint (sorted : InOrder endpoints)
    (fresh : name ∉ endpoints.map Prod.fst) : InOrder (insertEndpoint name endpoint endpoints) := by
  induction endpoints with
  | nil => exact List.pairwise_singleton _ _
  | cons held rest ih =>
    obtain ⟨different, others⟩ := List.ne_and_not_mem_of_not_mem_cons fresh
    obtain ⟨first, later⟩ := List.pairwise_cons.mp sorted
    rw [Member.insertEndpoint, if_neg different]
    split
    · rename_i less
      refine List.pairwise_cons.mpr ⟨fun other member => ?_, sorted⟩
      rcases List.mem_cons.mp member with rfl | member
      · exact less
      · exact less.trans (first other member)
    · rename_i notLess
      refine List.pairwise_cons.mpr ⟨fun other member => ?_, ih later others⟩
      rcases List.mem_cons.mp ((perm_insertEndpoint others).mem_iff.mp member) with rfl | member
      · exact lt_of_le_of_ne (not_lt.mp notLess) (Ne.symm different)
      · exact first other member

def insertEndpoints (held listed : List (String × Endpoint)) : List (String × Endpoint) :=
  listed.foldl (fun held named => insertEndpoint named.1 named.2 held) held

/-- Endpoints of different names come out in order, whatever the order was. -/
theorem insertEndpoints_inOrder {held listed : List (String × Endpoint)} (sorted : InOrder held)
    (different : ((listed ++ held).map Prod.fst).Nodup) :
    (insertEndpoints held listed).Perm (listed ++ held) ∧
      InOrder (insertEndpoints held listed) := by
  induction listed generalizing held with
  | nil => exact ⟨.refl _, sorted⟩
  | cons named rest ih =>
    have fresh : named.1 ∉ held.map Prod.fst := by
      intro taken
      rw [List.cons_append, List.map_cons, List.nodup_cons, List.map_append] at different
      exact different.1 (List.mem_append_right _ taken)
    -- The names that are left and those that are held stay the same ones.
    have added : (rest ++ insertEndpoint named.1 named.2 held).Perm ((named :: rest) ++ held) :=
      ((perm_insertEndpoint fresh).append_left rest).trans List.perm_middle
    obtain ⟨same, ordered⟩ :=
      ih (sorted.insertEndpoint fresh) ((added.map Prod.fst).nodup_iff.mpr different)
    exact ⟨same.trans added, ordered⟩

theorem InOrder.different (sorted : InOrder endpoints) : (endpoints.map Prod.fst).Nodup :=
  List.Pairwise.map Prod.fst (fun _ _ less => less.ne) sorted

theorem insertEndpoints_perm {listed : List (String × Endpoint)} (sorted : InOrder endpoints)
    (same : listed.Perm endpoints) : insertEndpoints [] listed = endpoints := by
  have different : ((listed ++ []).map Prod.fst).Nodup := by
    rw [List.append_nil, (same.map Prod.fst).nodup_iff]
    exact sorted.different
  obtain ⟨all, ordered⟩ := insertEndpoints_inOrder List.Pairwise.nil different
  rw [List.append_nil] at all
  exact (all.trans same).eq_of_pairwise
    (fun _ _ _ _ less more => absurd (less.trans more) (lt_irrefl _)) ordered sorted

end Endpoints

def readNamed (held : List (String × Endpoint)) (name : String) (input : Bytes) :
    Reading (List (String × Endpoint)) input :=
  (readEndpoint input).map fun parsed =>
    ⟨insertEndpoint name parsed.value held, parsed.rest, parsed.shorter⟩

theorem readNamed_fills {entries : List (String × FieldText)} {listed : List (String × Endpoint)}
    (each : List.Forall₂
      (fun entry named => entry.1 = named.1 ∧ EndpointText named.2 entry.2.value) entries listed)
    (held : List (String × Endpoint)) :
    Fills readNamed held entries (insertEndpoints held listed) := by
  induction each generalizing held with
  | nil => exact .nil
  | @cons entry named _ _ written _ ih =>
    obtain ⟨same, written⟩ := written
    refine .cons ?_ (ih (insertEndpoint named.1 named.2 held))
    apply (readEndpoint_text written).view fun endpoint => insertEndpoint entry.1 endpoint held
    · exact fun _ => rfl
    · rw [same]

theorem readEndpoints_text {endpoints : List (String × Endpoint)} {text : Bytes}
    (sorted : InOrder endpoints) (written : EndpointsText endpoints text) :
    Reads readEndpoints text endpoints := by
  intro blank rest early _
  cases written with
  | object object each same =>
    obtain ⟨behind, begins, reads⟩ :=
      readObject_text object (readNamed_fills each []) early rest
    rw [insertEndpoints_perm sorted same] at reads
    unfold readEndpoints
    split
    · rename_i next
      rw [begins] at next
      cases next
    · rename_i next
      rw [begins] at next
      cases next
      simp only [↓reduceIte]
      exact reads.within _

/-! Members. -/

def Draft.of (member : Member) (seen : List String) : Draft where
  endpoint := met seen "serviceEndpoint" member.endpoint
  additional := met seen "additionalEndpoints" member.additional
  status := met seen "status" member.status
  shard := met seen "shard" member.shard

theorem Draft.drafts {member : Member} (sorted : InOrder member.additional) :
    Drafts readField (of member) memberFields (MemberField member) where
  reads := by
    intro seen name value _ fresh written
    cases written with
    | endpoint written =>
      apply (readEndpoint_text written).view fun endpoint =>
        { of member seen with endpoint := some endpoint }
      · simp [readField, readMain, of, fresh]
      · simp [of]
    | additional written =>
      apply (readEndpoints_text sorted written).view fun additional =>
        { of member seen with additional := some additional }
      · simp [readField, readAdditional, of, fresh]
      · simp [of]
    | status quotes =>
      apply (readStatus_quotes quotes).view fun status =>
        { of member seen with status := some status }
      · simp [readField, readStatus, of, fresh]
      · simp [of]
    | shard numbered =>
      apply (readShard_encodeInt _).view fun shard => { of member seen with shard := some shard }
      · simp [readField, readShard, of, fresh]
      · simp [of, numbered]
    | noShard unnumbered =>
      apply readShard_null.view fun shard => { of member seen with shard := some shard }
      · simp [readField, readShard, of, fresh]
      · simp [of, unnumbered]
  passes := by
    intro seen name unlisted
    obtain ⟨noEndpoint, noAdditional, noStatus, noShard⟩ : name ≠ "serviceEndpoint" ∧
        name ≠ "additionalEndpoints" ∧ name ≠ "status" ∧ name ≠ "shard" := by
      simpa [memberFields] using unlisted
    refine ⟨by simp [of, noEndpoint.symm, noAdditional.symm, noStatus.symm, noShard.symm], ?_⟩
    funext input
    rw [readField, if_neg noEndpoint, if_neg noAdditional, if_neg noStatus, if_neg noShard]

theorem met_getD {α : Type} {seen : List String} {name : String} {value default : α}
    (enough : name ∈ seen ∨ value = default) : (met seen name value).getD default = value := by
  by_cases member : name ∈ seen
  · rw [met_of_mem value member, Option.getD_some]
  · rw [met_of_not_mem value member, Option.getD_none, enough.resolve_left member]

theorem met_join {α : Type} {seen : List String} {name : String} {value : Option α}
    (enough : name ∈ seen ∨ value = none) : (met seen name value).join = value := by
  by_cases member : name ∈ seen
  · rw [met_of_mem value member, Option.join_some]
  · rw [met_of_not_mem value member, Option.join_none, enough.resolve_left member]

/-- What was left out is made up for by its default. -/
theorem Draft.finish_of {member : Member} {names : List String} (enough : Suffices member names) :
    (of member names).finish none = .ok member := by
  simp only [finish, of, met_of_mem _ enough.endpoint, met_getD enough.additional,
    met_getD enough.status, met_join enough.shard]

theorem readMember_text {member : Member} (sorted : InOrder member.additional)
    {names : List String} {text : Bytes}
    (record : RecordText memberFields (MemberField member) names text)
    (enough : Suffices member names) : Reads readMember text member := by
  intro blank rest early stops
  obtain ⟨shorter, reads⟩ := readRecord_text (Draft.drafts sorted) "struct ServiceInstance"
    Draft.readPlace 4 record blank rest early stops
  have start : Draft.of member [] = {} := by simp [Draft.of]
  rw [start] at reads
  simp only [readMember, reads, Draft.finish_of enough]
  exact ⟨shorter, rfl⟩

theorem Carries.unpack {member : Member} (sorted : InOrder member.additional) {text : Bytes}
    (carries : Carries member text) : Member.unpack text = .ok member := by
  cases carries with
  | @record _ before text after early record enough late =>
    have ends : Stops after := by
      have stops := Stops.append late .nil
      rwa [List.append_nil] at stops
    have nothing : skipBlank after = [] := by
      have skips := skipBlank_append late []
      rwa [List.append_nil] at skips
    obtain ⟨shorter, reads⟩ := readMember_text sorted record enough before after early ends
    simp only [Member.unpack, complete, reads, nothing]
    rfl

theorem Carries.unique {one other : Member} (sorted : InOrder one.additional)
    (ordered : InOrder other.additional) {text : Bytes} (first : Carries one text)
    (second : Carries other text) : one = other := by
  have same := first.unpack sorted
  rw [second.unpack ordered] at same
  exact (Except.ok.inj same).symm

/-- A member that was packed is unpacked, and so is every other text that carries it. -/
theorem unpack_carried (member : Member) (sorted : InOrder member.additional) :
    Member.unpack member.pack = .ok member ∧
      ∀ text, Carries member text → Member.unpack text = .ok member :=
  ⟨(carries_pack member).unpack sorted, fun _ carries => carries.unpack sorted⟩

def strayFields : List (String × Json) :=
  [("zone", .arr [.null]),
    ("additionalEndpoints",
      .obj [("https", packEndpoint ⟨"c", 443⟩), ("http", packEndpoint ⟨"b", 80⟩)]),
    ("serviceEndpoint", .obj [("port", .int 81), ("rack", .obj [("row", .int 2)]),
      ("host", .str "a")])]

theorem stray_member_unpacks :
    let member : Member := ⟨⟨"a", 81⟩, [("http", ⟨"b", 80⟩), ("https", ⟨"c", 443⟩)], .alive, none⟩
    InOrder member.additional ∧ Member.unpack member.pack = .ok member ∧
      Member.unpack ([space] ++ ((Json.obj strayFields).encode ++ [newline])) = .ok member := by
  intro member
  have sorted : InOrder member.additional := by
    unfold InOrder
    decide +kernel
  have endpoint : EndpointText member.endpoint (Json.obj [("port", .int 81),
      ("rack", .obj [("row", .int 2)]), ("host", .str "a")]).encode := by
    refine .record (recordText_encode (by decide) ?_) (by decide)
    refine List.forall_mem_cons.mpr ⟨?_, List.forall_mem_cons.mpr ⟨?_, ?_⟩⟩
    · exact .port
    · exact rfl
    · exact List.forall_mem_singleton.mpr (.host (quotes_encodeText _))
  have swapped : [("https", (⟨"c", 443⟩ : Endpoint)), ("http", ⟨"b", 80⟩)].Perm
      member.additional := .swap _ _ _
  have record : RecordText memberFields (MemberField member) (strayFields.map Prod.fst)
      (Json.obj strayFields).encode := by
    refine recordText_encode (by decide) ?_
    refine List.forall_mem_cons.mpr ⟨?_, List.forall_mem_cons.mpr ⟨?_, ?_⟩⟩
    · exact rfl
    · exact .additional (endpointsText_pack swapped)
    · exact List.forall_mem_singleton.mpr (.endpoint endpoint)
  have enough : Suffices member (strayFields.map Prod.fst) := by
    constructor <;> simp [strayFields, member]
  have early : Blank [space] := List.forall_mem_singleton.mpr rfl
  have late : Blank [newline] := List.forall_mem_singleton.mpr rfl
  obtain ⟨packed, carried⟩ := unpack_carried member sorted
  exact ⟨sorted, packed, carried _ (.record early record enough late)⟩

end SchedulerLink.Member
