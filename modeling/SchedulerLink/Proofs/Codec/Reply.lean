import SchedulerLink.Proofs.Codec.Envelope

/-!
Replies and exceptions that are encoded decode to themselves, for the call that they answer.

For a call of another method or with another sequence number they are refused, whatever they carry.
-/

namespace SchedulerLink

open Json

namespace ResponseCode

def Canonical (code : ResponseCode) : Prop :=
  ∀ value, code = .unknown value → ¬ (0 ≤ value ∧ value ≤ 6)

theorem ofInt32_toInt32 {code : ResponseCode} (canonical : code.Canonical) :
    ofInt32 code.toInt32 = code := by
  cases code with
  | unknown value =>
    have outside := canonical value rfl
    have unnamed : ∀ number : Int32, 0 ≤ number ∧ number ≤ 6 → value ≠ number := by
      rintro number named rfl
      exact outside named
    rw [toInt32, ofInt32, if_neg (unnamed 0 (by decide)), if_neg (unnamed 1 (by decide)),
      if_neg (unnamed 2 (by decide)), if_neg (unnamed 3 (by decide)),
      if_neg (unnamed 4 (by decide)), if_neg (unnamed 5 (by decide)),
      if_neg (unnamed 6 (by decide))]
  | _ => rfl

end ResponseCode

/-- A response that a reply can carry. Its details are counted in a machine word. -/
structure Response.Portable (response : Response) : Prop where
  canonical : response.code.Canonical
  result : ∀ result ∈ response.result, Json.Portable 122 result
  serverInfo : ∀ info ∈ response.serverInfo, Json.Portable 122 info
  countable : response.details.length < 0x10000000000000000

namespace Message

/-! Records of responses. -/

section Record

variable (response : Response)

theorem inner?_code :
    inner? (responseFields response) "1" "i32" = some (.int response.code.toInt32.toInt) :=
  rfl

theorem inner?_result : inner? (responseFields response) "3" "rec" = response.result := by
  obtain ⟨code, details, result, info⟩ := response
  cases result <;> cases info <;> cases details <;> rfl

theorem inner?_serverInfo : inner? (responseFields response) "5" "rec" = response.serverInfo := by
  obtain ⟨code, details, result, info⟩ := response
  cases result <;> cases info <;> cases details <;> rfl

theorem detailOf_detailItem (detail : String) : detailOf (detailItem detail) = detail :=
  rfl

theorem details_responseFields :
    ((((inner? (responseFields response) "6" "lst").bind Json.arr?).getD []).drop 2).map detailOf =
      response.details := by
  obtain ⟨code, details, result, info⟩ := response
  have items : (details.map detailItem).map detailOf = details := by
    rw [List.map_map]
    exact List.map_id'' detailOf_detailItem details
  cases details with
  | nil => cases result <;> cases info <;> rfl
  | cons detail more => cases result <;> cases info <;> exact items

theorem responseOf_responseFields (canonical : response.code.Canonical) :
    responseOf (responseFields response) = .ok response := by
  have code : (inner? (responseFields response) "1" "i32").bind Json.int64? =
      some response.code.toInt32.toInt := by
    rw [inner?_code, Option.bind_some, int64?_int32]
  simp only [responseOf, code, inner?_result, inner?_serverInfo, details_responseFields,
    Int32.ofInt_toInt, ResponseCode.ofInt32_toInt32 canonical]

theorem names_responseFields :
    ((responseFields response).map Prod.fst).Sublist ["1", "3", "5", "6"] := by
  obtain ⟨code, details, result, info⟩ := response
  cases result <;> cases info <;> cases details <;> simp [responseFields]

theorem inOrder_responseFields : InOrder (responseFields response) := by
  have names : ["1", "3", "5", "6"].Pairwise fun one next : String => one < next := by
    decide
  exact List.pairwise_map.mp (names.sublist (names_responseFields response))

theorem portable_detailItem (detail : String) : Json.Portable 2 (detailItem detail) :=
  .single (.single (.str detail))

theorem portable_responseFields {response : Response} (portable : response.Portable) :
    Json.Portable 124 (.obj (responseFields response)) := by
  refine Portable.obj_iff.mpr ⟨inOrder_responseFields response, fun field member => ?_⟩
  simp only [responseFields, List.mem_append, List.mem_singleton, Option.mem_toList,
    Option.map_eq_some_iff] at member
  rcases member with ((rfl | ⟨result, held, rfl⟩) | ⟨info, held, rfl⟩) | member
  · exact .single (.int32 122 _)
  · exact .single (portable.result result held)
  · exact .single (portable.serverInfo info held)
  split at member
  · cases member
  obtain rfl := List.mem_singleton.mp member
  refine .single (Portable.arr_iff.mpr fun item listed => ?_)
  rcases List.mem_cons.mp listed with rfl | listed
  · exact .str "rec"
  rcases List.mem_cons.mp listed with rfl | listed
  · have countable := portable.countable
    exact .int (by omega) (by omega)
  · obtain ⟨detail, -, rfl⟩ := List.mem_map.mp listed
    exact (portable_detailItem detail).mono (by decide)

end Record

/-! Bodies of answers. -/

theorem portable_reply {response : Response} (portable : response.Portable) :
    Json.Portable 126 (.obj [("0", .single "rec" (.obj (responseFields response)))]) :=
  .single (.single (portable_responseFields portable))

theorem portable_exception (kind : Int32) (detail : String) : Json.Portable 126
    (.obj [("1", .single "str" (.str detail)), ("2", .single "i32" (.int kind.toInt))]) := by
  have sorted : "1" < "2" := by decide
  refine Portable.obj_iff.mpr ⟨List.pairwise_pair.mpr sorted, fun field member => ?_⟩
  simp only [List.mem_cons, List.not_mem_nil, or_false] at member
  rcases member with rfl | rfl
  · exact .single (.str detail)
  · exact .single (.int32 124 kind)

theorem exceptionOf_body (kind : Int32) (detail : String) :
    exceptionOf [("1", .single "str" (.str detail)), ("2", .single "i32" (.int kind.toInt))] =
      .application kind detail := by
  have number : (inner? [("1", .single "str" (.str detail)), ("2", .single "i32" (.int kind.toInt))]
      "2" "i32").bind Json.int64? = some kind.toInt :=
    int64?_int32 kind
  simp only [exceptionOf, number, Option.getD_some, Int32.ofInt_toInt]
  rfl

section Answer

variable (method : String) (sequence : Int32)

theorem decodeReply_named {message : Message} (portable : Json.Portable 126 (.obj message.body)) :
    decodeReply message.encode message.method message.sequence =
      match message.kind with
      | .reply => (resultOf message.method message.body).mapError .protocol
      | .exception => .error (exceptionOf message.body)
      | kind => .error (.protocol (.notReply kind)) := by
  rw [decodeReply, decode_encode message portable]
  cases kind : message.kind <;> simp [kind]

theorem decodeReply_other {message : Message} (portable : Json.Portable 126 (.obj message.body))
    (other : method ≠ message.method ∨ sequence ≠ message.sequence) :
    ∃ fault, decodeReply message.encode method sequence = .error (.protocol fault) := by
  rw [decodeReply, decode_encode message portable]
  by_cases named : message.method = method
  · have numbered : message.sequence ≠ sequence :=
      (other.resolve_left fun different => different named.symm).symm
    exact ⟨.otherSequence sequence message.sequence, by simp [named, numbered]⟩
  · exact ⟨.otherMethod message.method method, by simp [named]⟩

theorem length_encodeReply_le (response : Response) :
    (encodeReply method sequence response).length ≤
      (encodeReply method 0 response).length + 10 :=
  length_encode_le _

theorem decodeReply_encodeReply {response : Response} (portable : response.Portable) :
    decodeReply (encodeReply method sequence response) method sequence = .ok response := by
  have read : resultOf method [("0", .single "rec" (.obj (responseFields response)))] =
      .ok response :=
    responseOf_responseFields response portable.canonical
  rw [encodeReply, decodeReply_named (portable_reply portable), read]
  rfl

/-- What is encoded in answer to a call is what its caller gets, and no other caller gets it. -/
theorem decodeReply_encoded :
    (∀ response : Response, response.Portable →
      decodeReply (encodeReply method sequence response) method sequence = .ok response) ∧
    (∀ kind detail, decodeReply (encodeException method sequence kind detail) method sequence =
      .error (.application kind detail)) ∧
    ∀ otherMethod otherSequence, otherMethod ≠ method ∨ otherSequence ≠ sequence →
      (∀ response : Response, response.Portable → ∃ fault,
        decodeReply (encodeReply method sequence response) otherMethod otherSequence =
          .error (.protocol fault)) ∧
      ∀ kind detail, ∃ fault,
        decodeReply (encodeException method sequence kind detail) otherMethod otherSequence =
          .error (.protocol fault) := by
  refine ⟨fun response portable => decodeReply_encodeReply method sequence portable,
    fun kind detail => ?_,
    fun otherMethod otherSequence other => ⟨fun response portable => ?_, fun kind detail => ?_⟩⟩
  · rw [encodeException, decodeReply_named (portable_exception kind detail), exceptionOf_body]
  · exact decodeReply_other otherMethod otherSequence (portable_reply portable) other
  · exact decodeReply_other otherMethod otherSequence (portable_exception kind detail) other

theorem decodeReply_null_result :
    decodeReply (encodeReply "getJobs" 3 ⟨.unknown 9, ["late", ""], some .null, none⟩) "getJobs" 3 =
        .ok ⟨.unknown 9, ["late", ""], some .null, none⟩ ∧
      ∃ fault, decodeReply (encodeReply "getJobs" 3 ⟨.unknown 9, ["late", ""], some .null, none⟩)
        "killTasks" 3 = .error (.protocol fault) := by
  have canonical : (ResponseCode.unknown 9).Canonical := by
    rintro value ⟨⟩
    decide
  have null : ∀ result ∈ some Json.null, Json.Portable 122 result := by
    rintro result ⟨⟩
    exact .null
  have portable : Response.Portable ⟨.unknown 9, ["late", ""], some .null, none⟩ :=
    ⟨canonical, null, nofun, by decide⟩
  obtain ⟨own, -, others⟩ := decodeReply_encoded "getJobs" 3
  exact ⟨own _ portable, (others "killTasks" 3 (.inl (by decide))).1 _ portable⟩

end Answer

end Message

end SchedulerLink
