import Mathlib.Data.List.Forall2
import SchedulerLink.Proofs.Codec.Envelope

/-!
Which octets are taken for the answer to a call.

An answer is a document of exactly five items: the version, the called method, the kind of message,
the number of the call and a body. What a response is read from is said here by the places of its
parts in the document, and not by the way in which they are read.
-/

namespace SchedulerLink

namespace Json

def at? : (names : List String) → Json → Option Json
  | [], value => some value
  | name :: rest, value => (value.get? name).bind (at? rest)

theorem at?_pair (outer inner : String) (value : Json) :
    value.at? [outer, inner] = (value.get? outer).bind (·.get? inner) := by
  simp only [at?]
  exact congrArg _ (funext fun _ => Option.bind_fun_some _)

theorem int64?_eq_some {value : Json} {number : Int} :
    value.int64? = some number ↔
      value = .int number ∧ -0x8000000000000000 ≤ number ∧ number < 0x8000000000000000 := by
  cases value <;> simp [int64?]
  omega

theorem str?_eq_some {value : Json} {text : String} :
    value.str? = some text ↔ value = .str text := by
  cases value <;> simp [str?]

def Tells (item : Json) (text : String) : Prop :=
  item.at? ["1", "str"] = some (.str text) ∨
    (∀ held, item.at? ["1", "str"] ≠ some (.str held)) ∧ text = ""

end Json

/-- A record describes a response. The details are the items of a list from the third on. -/
structure Response.DescribedBy (response : Response) (record : Json) : Prop where
  code : ∃ number : Int, record.at? ["1", "i32"] = some (.int number) ∧
    -0x8000000000000000 ≤ number ∧ number < 0x8000000000000000 ∧
      response.code = .ofInt32 (Int32.ofInt number)
  result : response.result = record.at? ["3", "rec"]
  serverInfo : response.serverInfo = record.at? ["5", "rec"]
  details :
    (∃ items, record.at? ["6", "lst"] = some (.arr items) ∧
      List.Forall₂ Json.Tells (items.drop 2) response.details) ∨
    (∀ items, record.at? ["6", "lst"] ≠ some (.arr items)) ∧ response.details = []

theorem MessageKind.ofInt?_eq_some {value : Int} {kind : MessageKind} :
    ofInt? value = some kind ↔ value = kind.toInt := by
  constructor
  · intro named
    unfold ofInt? at named
    grind [toInt]
  · rintro rfl
    exact ofInt?_toInt kind

namespace Message

open Json

/-! Envelopes. -/

theorem kind?_eq_some {value : Json} {kind : MessageKind} :
    value.int64?.bind MessageKind.ofInt? = some kind ↔ value = .int kind.toInt := by
  constructor
  · intro known
    obtain ⟨number, held, named⟩ := Option.bind_eq_some_iff.mp known
    rw [(int64?_eq_some.mp held).1, MessageKind.ofInt?_eq_some.mp named]
  · rintro rfl
    rw [int64?_kind, Option.bind_some, MessageKind.ofInt?_toInt]

theorem sequence?_eq_some {value : Json} {sequence : Int32} :
    sequence? value = some sequence ↔ value = .int sequence.toInt := by
  constructor
  · intro counts
    obtain ⟨number, held, inRange⟩ := Option.bind_eq_some_iff.mp counts
    obtain ⟨rfl, -, -⟩ := int64?_eq_some.mp held
    split at inRange
    · rename_i bounds
      cases inRange
      rw [Int32.toInt_ofInt_of_le bounds.1 bounds.2]
    · cases inRange
  · rintro rfl
    exact sequence?_toInt sequence

theorem ofItems_eq_ok {first method kind sequence body : Json} {message : Message} :
    ofItems first method kind sequence body = .ok message ↔
      first = .int version ∧ method = .str message.method ∧ kind = .int message.kind.toInt ∧
        sequence = .int message.sequence.toInt ∧ body = .obj message.body := by
  constructor
  · intro taken
    unfold ofItems at taken
    by_cases versioned : first.int64? = some version
    · simp only [versioned, ↓reduceIte] at taken
      split at taken
      · rename_i name named
        split at taken
        · rename_i sort known
          split at taken
          · rename_i number counts
            split at taken
            · cases taken
              exact ⟨(int64?_eq_some.mp versioned).1, str?_eq_some.mp named,
                kind?_eq_some.mp known, sequence?_eq_some.mp counts, rfl⟩
            · cases taken
          · cases taken
        · cases taken
      · cases taken
    · simp only [versioned, ↓reduceIte] at taken
      cases taken
  · rintro ⟨rfl, rfl, rfl, rfl, rfl⟩
    exact ofItems_self message

theorem decode_eq_ok {bytes : Bytes} {message : Message} :
    decode bytes = .ok message ↔
      Json.parse bytes = .ok (.arr [.int version, .str message.method, .int message.kind.toInt,
        .int message.sequence.toInt, .obj message.body]) := by
  unfold decode
  split
  · rename_i parsed
    simp [parsed]
  · rename_i parsed
    rw [ofItems_eq_ok, parsed]
    simp
  · rename_i value others parsed
    simp only [parsed, reduceCtorEq, Except.ok.injEq, false_iff]
    exact others _ _ _ _ _

/-! Records. -/

theorem inner?_eq_at? (fields : List (String × Json)) (outer inner : String) :
    inner? fields outer inner = (Json.obj fields).at? [outer, inner] :=
  (at?_pair outer inner (.obj fields)).symm

theorem tells_iff {item : Json} {text : String} : item.Tells text ↔ text = detailOf item := by
  unfold Tells detailOf
  rw [at?_pair]
  cases found : (item.get? "1").bind (·.get? "str") with
  | none => simp
  | some held =>
    cases held <;> simp [str?, eq_comm]

theorem forall₂_tells_iff {items : List Json} {texts : List String} :
    List.Forall₂ Tells items texts ↔ texts = items.map detailOf := by
  have same : Tells = fun item text => detailOf item = text :=
    funext₂ fun _ _ => propext (tells_iff.trans eq_comm)
  rw [same, ← List.forall₂_map_left_iff, List.forall₂_eq_eq_eq, eq_comm]

theorem details_iff {fields : List (String × Json)} {details : List String} :
    ((∃ items, (Json.obj fields).at? ["6", "lst"] = some (.arr items) ∧
        List.Forall₂ Tells (items.drop 2) details) ∨
      (∀ items, (Json.obj fields).at? ["6", "lst"] ≠ some (.arr items)) ∧ details = []) ↔
    details = ((((inner? fields "6" "lst").bind Json.arr?).getD []).drop 2).map detailOf := by
  rw [inner?_eq_at?]
  simp only [forall₂_tells_iff]
  cases found : (Json.obj fields).at? ["6", "lst"] with
  | none => simp
  | some held => cases held <;> simp [arr?]

theorem responseOf_eq_ok {fields : List (String × Json)} {response : Response} :
    responseOf fields = .ok response ↔ response.DescribedBy (.obj fields) := by
  unfold responseOf
  constructor
  · intro read
    split at read
    · cases read
    · rename_i number counts
      cases read
      obtain ⟨value, held, inRange⟩ := Option.bind_eq_some_iff.mp counts
      obtain ⟨rfl, least, most⟩ := int64?_eq_some.mp inRange
      rw [inner?_eq_at?] at held
      exact ⟨⟨number, held, least, most, rfl⟩, inner?_eq_at? fields "3" "rec",
        inner?_eq_at? fields "5" "rec", details_iff.mpr rfl⟩
  · rintro ⟨⟨number, held, least, most, named⟩, result, serverInfo, details⟩
    have counts : (inner? fields "1" "i32").bind int64? = some number := by
      rw [inner?_eq_at?, held, Option.bind_some]
      exact int64?_eq_some.mpr ⟨rfl, least, most⟩
    obtain ⟨code, texts, outcome, info⟩ := response
    simp only [counts, inner?_eq_at? fields "3", inner?_eq_at? fields "5", ← result, ← serverInfo,
      ← named, ← details_iff.mp details]

theorem resultOf_eq_ok {method : String} {body : List (String × Json)} {response : Response} :
    resultOf method body = .ok response ↔
      ∃ fields, (Json.obj body).at? ["0", "rec"] = some (.obj fields) ∧
        response.DescribedBy (.obj fields) := by
  unfold resultOf
  rw [inner?_eq_at?]
  split
  · rename_i fields found
    simp [found, responseOf_eq_ok]
  · rename_i other found
    constructor
    · exact nofun
    · rintro ⟨fields, held, _⟩
      exact (found fields held).elim

/-! Answers. -/

def Addresses (bytes : Bytes) (method : String) (sequence : Int32) (kind : Int)
    (body : List (String × Json)) : Prop :=
  Json.parse bytes = .ok (.arr [.int 1, .str method, .int kind, .int sequence.toInt, .obj body])

def Answers (bytes : Bytes) (method : String) (sequence : Int32) (response : Response) : Prop :=
  ∃ body fields, Addresses bytes method sequence 2 body ∧
    (Json.obj body).at? ["0", "rec"] = some (.obj fields) ∧ response.DescribedBy (.obj fields)

def Excepts (bytes : Bytes) (method : String) (sequence : Int32) : Prop :=
  ∃ body, Addresses bytes method sequence 3 body

section Reply

variable {bytes : Bytes} {method : String} {sequence : Int32}

theorem addresses_iff (kind : MessageKind) (body : List (String × Json)) :
    Addresses bytes method sequence kind.toInt body ↔
      decode bytes = .ok ⟨method, kind, sequence, body⟩ := by
  rw [Addresses, decode_eq_ok]
  rfl

theorem answers_iff {response : Response} :
    Answers bytes method sequence response ↔
      ∃ body, decode bytes = .ok ⟨method, .reply, sequence, body⟩ ∧
        resultOf method body = .ok response := by
  have addressed : ∀ body, Addresses bytes method sequence 2 body ↔
      decode bytes = .ok ⟨method, .reply, sequence, body⟩ := addresses_iff .reply
  simp only [Answers, addressed, resultOf_eq_ok, exists_and_left]

theorem excepts_iff :
    Excepts bytes method sequence ↔
      ∃ body, decode bytes = .ok ⟨method, .exception, sequence, body⟩ :=
  exists_congr (addresses_iff .exception)

theorem decodeReply_of_other
    (other : ∀ kind body, decode bytes ≠ .ok ⟨method, kind, sequence, body⟩) :
    ∃ fault, decodeReply bytes method sequence = .error (.protocol fault) := by
  unfold decodeReply
  split
  · exact ⟨_, rfl⟩
  · rename_i message decoded
    by_cases named : message.method = method
    · have numbered : message.sequence ≠ sequence := by
        rintro rfl
        subst named
        exact other message.kind message.body decoded
      exact ⟨_, by rw [if_neg (not_not.mpr named), if_pos numbered]⟩
    · exact ⟨_, if_pos named⟩

/-- A call comes to a response, to an exception or to a fault of the answer. -/
theorem decodeReply_cases (bytes : Bytes) (method : String) (sequence : Int32) :
    (∃ response, decodeReply bytes method sequence = .ok response ∧
      (∀ other, Answers bytes method sequence other ↔ response = other) ∧
      ¬ Excepts bytes method sequence) ∨
    (∃ kind detail, decodeReply bytes method sequence = .error (.application kind detail) ∧
      (∀ response, ¬ Answers bytes method sequence response) ∧ Excepts bytes method sequence) ∨
    ∃ fault, decodeReply bytes method sequence = .error (.protocol fault) ∧
      (∀ response, ¬ Answers bytes method sequence response) ∧
      ¬ Excepts bytes method sequence := by
  simp only [answers_iff, excepts_iff]
  by_cases named : ∃ kind body, decode bytes = .ok ⟨method, kind, sequence, body⟩
  · obtain ⟨kind, body, decoded⟩ := named
    cases kind with
    | reply =>
      cases read : resultOf method body with
      | ok response => left; simp [decodeReply, decoded, Except.mapError, read]
      | error fault => right; right; simp [decodeReply, decoded, Except.mapError, read]
    | exception => right; left; simp [decodeReply, decoded, exceptionOf]
    | call => right; right; simp [decodeReply, decoded]
    | oneway => right; right; simp [decodeReply, decoded]
  · push Not at named
    obtain ⟨fault, refused⟩ := decodeReply_of_other named
    right; right
    exact ⟨fault, refused, fun response ⟨body, decoded, _⟩ => named _ _ decoded,
      fun ⟨body, decoded⟩ => named _ _ decoded⟩

end Reply

/-- A call is answered by nothing but a message of the kind 2 that names it and holds a response,
and fails with an exception for nothing but a message of the kind 3 that names it. Anything else is
a fault of the answer. -/
theorem decodeReply_accepts_exactly (bytes : Bytes) (method : String) (sequence : Int32) :
    (∀ response, decodeReply bytes method sequence = .ok response ↔
      Answers bytes method sequence response) ∧
    ((∃ kind detail, decodeReply bytes method sequence = .error (.application kind detail)) ↔
      Excepts bytes method sequence) ∧
    ((∃ fault, decodeReply bytes method sequence = .error (.protocol fault)) ↔
      (∀ response, ¬ Answers bytes method sequence response) ∧
        ¬ Excepts bytes method sequence) := by
  rcases decodeReply_cases bytes method sequence with
    ⟨response, taken, answers, plain⟩ | ⟨kind, detail, failed, silent, excepts⟩ |
      ⟨fault, refused, silent, plain⟩
  · simp [taken, answers, plain]
  · simp [failed, silent, excepts]
  · simp [refused, silent, plain]

end Message

end SchedulerLink
