import SchedulerLink.Call.Exchange
import SchedulerLink.Link.Basic
import SchedulerLink.Proofs.Codec.Acceptance
import SchedulerLink.Proofs.Scene
import SchedulerLink.Proofs.Codec.Reply
import SchedulerLink.Rehearsal.Stage
import SchedulerLink.Session.Request

/-!
The calls of one connection and the messages that they come to.

A line is watched by writing down what is done with it, whatever it answers. The calls of a
connection are numbered from one, those that fail among them, and a reply is taken only for the call
whose number it bears. Numbers repeat after `2 ^ 32` calls.
-/

namespace SchedulerLink

variable {σ τ α : Type}

inductive LineAct where
  | wrote (octets : Bytes) (result : Except ChannelFailure Unit)
  | flushed (result : Except ChannelFailure Unit)
  | read (result : Except ChannelFailure Bytes)
  deriving DecidableEq, Repr

abbrev LineActs := List LineAct

namespace LineActs

def written (acts : LineActs) : List Bytes :=
  acts.filterMap fun
    | .wrote octets _ => some octets
    | _ => none

/-- The octets that were read. -/
def received (acts : LineActs) : Bytes :=
  acts.flatMap fun
    | .read (.ok block) => block
    | _ => []

def Ended (acts : LineActs) : Prop := acts.getLast? = some (.read (.ok []))

def ofBlocks (blocks : List Bytes) : LineActs := blocks.map fun block => .read (.ok block)

theorem written_ofBlocks (blocks : List Bytes) (last : LineActs) :
    written (ofBlocks blocks ++ last) = last.written := by
  induction blocks with
  | nil => rfl
  | cons block rest ih => exact ih

theorem received_ofBlocks (blocks : List Bytes) (last : LineActs) :
    received (ofBlocks blocks ++ last) = blocks.flatten ++ last.received := by
  induction blocks with
  | nil => rfl
  | cons block rest ih =>
    have next : received (ofBlocks (block :: rest) ++ last) =
        block ++ received (ofBlocks rest ++ last) := rfl
    rw [next, ih, List.flatten_cons, List.append_assoc]

end LineActs

def StateM.beside (step : StateM σ α) : StateM (σ × τ) α := fun (state, kept) =>
  let (value, next) := step.run state
  (value, next, kept)

def StateM.noted (step : StateM σ α) (act : α → LineAct) : StateM (σ × LineActs) α :=
  fun (state, acts) =>
    let (value, next) := step.run state
    (value, next, acts ++ [act value])

def Line.watched (line : Line (StateM σ)) : Line (StateM (σ × LineActs)) where
  write octets := StateM.noted (line.write octets) (.wrote octets)
  flush := StateM.noted line.flush .flushed
  read most := StateM.noted (line.read most) .read

/-- Surroundings whose calls go over lines that are watched. -/
def Surroundings.watched (surroundings : Surroundings (StateM σ) Nat) (line : Nat → Line (StateM σ))
    (blocks : Nat) : Surroundings (StateM (σ × LineActs)) Nat where
  now := StateM.beside surroundings.now
  pause span := StateM.beside (surroundings.pause span)
  isStopping := StateM.beside surroundings.isStopping
  hasRegistry := surroundings.hasRegistry
  lookup target patience := ExceptT.mk (StateM.beside (surroundings.lookup target patience).run)
  create uri setup := StateM.beside (surroundings.create uri setup)
  openChannel channel := StateM.beside (surroundings.openChannel channel)
  closeChannel channel := StateM.beside (surroundings.closeChannel channel)
  adopt channel := StateM.beside (surroundings.adopt channel)
  call channel := (line channel).watched.exchange blocks
  login := surroundings.login

/-! One call. -/

inductive Reading (held : Bytes) (most : Nat) :
    LineActs → Except Halt (Except ChannelFailure Bytes) → Prop where
  | failed (blocks : List Bytes) (failure : ChannelFailure) :
    Reading held most (LineActs.ofBlocks blocks ++ [.read (.error failure)]) (.ok (.error failure))
  | ended (blocks : List Bytes) :
    Reading held most (LineActs.ofBlocks blocks ++ [.read (.ok [])])
      (.ok (.ok (held ++ blocks.flatten)))
  | endless (blocks : List Bytes) (count : blocks.length = most) (full : [] ∉ blocks) :
    Reading held most (LineActs.ofBlocks blocks) (.error .unfinished)

theorem Reading.cons {held block : Bytes} {most : Nat} {acts : LineActs}
    {outcome : Except Halt (Except ChannelFailure Bytes)} (full : [] ≠ block)
    (later : Reading (held ++ block) most acts outcome) :
    Reading held (most + 1) (.read (.ok block) :: acts) outcome := by
  cases later with
  | failed blocks failure => exact .failed (block :: blocks) failure
  | ended blocks =>
    rw [List.append_assoc]
    exact .ended (block :: blocks)
  | endless blocks count more =>
    refine .endless (block :: blocks) (congrArg (· + 1) count) ?_
    rw [List.mem_cons, not_or]
    exact ⟨full, more⟩

theorem Line.readAll_play (line : Line (StateM σ)) (fuel : Nat) (held : Bytes) (state : σ)
    (acts : LineActs) : ∃ done outcome next,
      (line.watched.readAll fuel held).play (state, acts) = (outcome, next, acts ++ done) ∧
        Reading held fuel done outcome := by
  induction fuel generalizing held state acts with
  | zero =>
    refine ⟨[], _, state, ?_, .endless [] rfl List.not_mem_nil⟩
    rw [List.append_nil]
    rfl
  | succ fuel ih =>
    rw [readAll, Run.play_bind, Run.play_lift]
    have reads : (line.watched.read blockLength).run (state, acts) =
        (((line.read blockLength).run state).1, ((line.read blockLength).run state).2,
          acts ++ [.read ((line.read blockLength).run state).1]) := rfl
    rw [reads]
    rcases (line.read blockLength).run state with ⟨failure | block, next⟩
    · exact ⟨_, _, next, rfl, .failed [] failure⟩
    · cases block with
      | nil =>
        refine ⟨_, _, next, rfl, ?_⟩
        have ended : Reading held (fuel + 1) [.read (.ok [])] (.ok (.ok (held ++ []))) := .ended []
        rwa [List.append_nil] at ended
      | cons octet block =>
        obtain ⟨done, outcome, stop, plays, reading⟩ :=
          ih (held ++ octet :: block) next (acts ++ [.read (.ok (octet :: block))])
        refine ⟨_, outcome, stop, ?_, reading.cons (List.cons_ne_nil _ _).symm⟩
        rw [List.append_assoc] at plays
        exact plays

/-- What is done with a line for a call, and what the call comes to. -/
inductive Exchanging (message : Bytes) (method : String) (sequence : Int32) (most : Nat) :
    LineActs → Except Halt (Except CallFailure Response) → Prop where
  | unwritten (failure : ChannelFailure) :
    Exchanging message method sequence most [.wrote message (.error failure)]
      (.ok (.error (.channel failure)))
  | unflushed (failure : ChannelFailure) :
    Exchanging message method sequence most
      [.wrote message (.ok ()), .flushed (.error failure)] (.ok (.error (.channel failure)))
  | unread (blocks : List Bytes) (failure : ChannelFailure) :
    Exchanging message method sequence most
      (.wrote message (.ok ()) :: .flushed (.ok ()) ::
        (LineActs.ofBlocks blocks ++ [.read (.error failure)]))
      (.ok (.error (.channel failure)))
  | endless (blocks : List Bytes) (count : blocks.length = most) (full : [] ∉ blocks) :
    Exchanging message method sequence most
      (.wrote message (.ok ()) :: .flushed (.ok ()) :: LineActs.ofBlocks blocks)
      (.error .unfinished)
  | replied (blocks : List Bytes) :
    Exchanging message method sequence most
      (.wrote message (.ok ()) :: .flushed (.ok ()) ::
        (LineActs.ofBlocks blocks ++ [.read (.ok [])]))
      (.ok (Message.decodeReply blocks.flatten method sequence))

theorem Line.exchange_play (line : Line (StateM σ)) (blocks : Nat) (sequence : Int32)
    (method : Method) (arguments : List Json) (state : σ) : ∃ done outcome next,
      (line.watched.exchange blocks sequence method arguments).play (state, []) =
          (outcome, next, done) ∧
        Exchanging (Message.encodeCall method.name sequence arguments) method.name sequence blocks
          done outcome := by
  generalize message : Message.encodeCall method.name sequence arguments = octets
  have writes : (line.watched.write octets).run (state, []) =
      (((line.write octets).run state).1, ((line.write octets).run state).2,
        [.wrote octets ((line.write octets).run state).1]) := rfl
  rw [exchange, Run.play_bind, Run.play_lift, message, writes]
  rcases (line.write octets).run state with ⟨failure | _, filled⟩
  · exact ⟨_, _, filled, rfl, .unwritten failure⟩
  have flushes : ∀ acts, line.watched.flush.run (filled, acts) =
      ((line.flush.run filled).1, (line.flush.run filled).2,
        acts ++ [.flushed (line.flush.run filled).1]) := fun _ => rfl
  simp only [Run.play_bind, Run.play_lift, flushes]
  rcases line.flush.run filled with ⟨failure | _, sent⟩
  · exact ⟨_, _, sent, rfl, .unflushed failure⟩
  obtain ⟨done, outcome, next, plays, reading⟩ :=
    line.readAll_play blocks [] sent [.wrote octets (.ok ()), .flushed (.ok ())]
  simp only [Run.play_bind, List.cons_append, List.nil_append, plays]
  cases reading with
  | failed blocks failure => exact ⟨_, _, next, rfl, .unread blocks failure⟩
  | ended blocks => exact ⟨_, _, next, rfl, .replied blocks⟩
  | endless blocks count full => exact ⟨_, _, next, rfl, .endless blocks count full⟩

namespace Exchanging

variable {message : Bytes} {method : String} {sequence : Int32} {most : Nat} {acts : LineActs}
  {outcome : Except Halt (Except CallFailure Response)}

theorem written (exchanging : Exchanging message method sequence most acts outcome) :
    acts.written = [message] := by
  have alone : ∀ reads : LineActs, reads.written = [] →
      LineActs.written (.wrote message (.ok ()) :: .flushed (.ok ()) :: reads) = [message] :=
    fun reads silent => congrArg (message :: ·) silent
  cases exchanging with
  | unwritten failure => rfl
  | unflushed failure => rfl
  | unread blocks failure => exact alone _ (LineActs.written_ofBlocks blocks _)
  | replied blocks => exact alone _ (LineActs.written_ofBlocks blocks _)
  | endless blocks count full =>
    apply alone
    rw [← List.append_nil (LineActs.ofBlocks blocks), LineActs.written_ofBlocks]
    rfl

/-- A call whose reply was read to its end comes to what the reply decodes to. -/
theorem decoded (exchanging : Exchanging message method sequence most acts outcome)
    (ended : acts.Ended) : outcome = .ok (Message.decodeReply acts.received method sequence) := by
  have last : LineAct.read (.ok []) ∈ acts := List.mem_of_getLast? ended
  cases exchanging with
  | unwritten failure => simp at last
  | unflushed failure => simp at last
  | unread blocks failure =>
    rw [LineActs.Ended, ← List.cons_append, ← List.cons_append, List.getLast?_concat] at ended
    cases ended
  | endless blocks count full =>
    have empty : [] ∈ blocks := by simpa [LineActs.ofBlocks] using last
    exact absurd empty full
  | replied blocks =>
    have whole : LineActs.received (.wrote message (.ok ()) :: .flushed (.ok ()) ::
        (LineActs.ofBlocks blocks ++ [.read (.ok [])])) = blocks.flatten :=
      (LineActs.received_ofBlocks blocks _).trans (List.append_nil _)
    rw [whole]

theorem ended (exchanging : Exchanging message method sequence most acts outcome)
    {result : Except CallFailure Response} (ends : outcome = .ok result)
    (answered : ∀ failure, result ≠ .error (.channel failure)) : acts.Ended := by
  cases exchanging with
  | unwritten failure => exact absurd (Except.ok.inj ends).symm (answered failure)
  | unflushed failure => exact absurd (Except.ok.inj ends).symm (answered failure)
  | unread blocks failure => exact absurd (Except.ok.inj ends).symm (answered failure)
  | endless blocks count full => cases ends
  | replied blocks =>
    rw [LineActs.Ended, ← List.cons_append, ← List.cons_append, List.getLast?_concat]

theorem most_le (exchanging : Exchanging message method sequence most acts outcome) {halt : Halt}
    (halted : outcome = .error halt) : most ≤ acts.received.length := by
  cases exchanging with
  | endless blocks count full =>
    have whole : LineActs.received (.wrote message (.ok ()) :: .flushed (.ok ()) ::
        LineActs.ofBlocks blocks) = blocks.flatten := by
      have read := LineActs.received_ofBlocks blocks []
      rw [List.append_nil] at read
      exact read.trans (List.append_nil _)
    rw [whole, ← count]
    clear whole count
    induction blocks with
    | nil => exact Nat.zero_le _
    | cons block rest ih =>
      rw [List.mem_cons, not_or] at full
      have octets : 0 < block.length := List.length_pos_iff.mpr (Ne.symm full.1)
      have more := ih full.2
      rw [List.flatten_cons, List.length_append, List.length_cons]
      omega
  | _ => cases halted

end Exchanging

/-! Answers to other calls. -/

namespace Message

def IsAnswer (bytes : Bytes) (method : String) (sequence : Int32) : Prop :=
  (∃ response, decodeReply bytes method sequence = .ok response) ∨
    ∃ kind detail, decodeReply bytes method sequence = .error (.application kind detail)

theorem IsAnswer.named {bytes : Bytes} {method : String} {sequence : Int32}
    (answer : IsAnswer bytes method sequence) :
    ∃ kind body, decode bytes = .ok ⟨method, kind, sequence, body⟩ := by
  by_contra unnamed
  push Not at unnamed
  obtain ⟨fault, refused⟩ := decodeReply_of_other unnamed
  obtain ⟨response, taken⟩ | ⟨kind, detail, taken⟩ := answer
  all_goals
    rw [refused] at taken
    cases taken

theorem IsAnswer.refused {bytes : Bytes} {method : String} {sequence : Int32}
    (answer : IsAnswer bytes method sequence) {other : Int32} (different : sequence ≠ other)
    (wanted : String) : ∃ fault, decodeReply bytes wanted other = .error (.protocol fault) := by
  obtain ⟨kind, body, decoded⟩ := answer.named
  apply decodeReply_of_other
  intro _ _ same
  rw [decoded] at same
  cases same
  exact different rfl

theorem decode_of_decodeReply {bytes : Bytes} {method : String} {sequence : Int32}
    {response : Response} (taken : decodeReply bytes method sequence = .ok response) :
    ∃ body, decode bytes = .ok ⟨method, .reply, sequence, body⟩ := by
  rcases decodeReply_cases bytes method sequence with
    ⟨found, same, answers, -⟩ | ⟨kind, detail, failed, -⟩ | ⟨fault, refused, -⟩
  · obtain ⟨body, decoded, -⟩ := answers_iff.mp ((answers found).mpr rfl)
    exact ⟨body, decoded⟩
  · rw [failed] at taken
    cases taken
  · rw [refused] at taken
    cases taken

end Message

theorem int32_ofNat_ne {one other : Nat} (different : one ≠ other)
    (below : one < other + 2 ^ 32) (above : other < one + 2 ^ 32) :
    Int32.ofNat one ≠ Int32.ofNat other := by
  intro same
  have bits := congrArg (fun number => number.toBitVec.toNat) same
  have residues : one % 2 ^ 32 = other % 2 ^ 32 := by simpa using bits
  omega

/-! One call after the other. -/

/-- What became of a call, and what was done with the line for it. -/
structure Dispatch where
  outcome : Except Halt (Except CallFailure Response)
  acts : LineActs

section Dispatching

variable (surroundings : Surroundings (StateM σ) Nat) (line : Nat → Line (StateM σ)) (blocks : Nat)

/-- The calls of a list, sent one after the other over the connection that a link has. No call
follows one whose reply does not end. -/
def Link.dispatches : Link Nat → List Request → σ → List Dispatch
  | _, [], _ => []
  | link, request :: rest, state =>
    match link.connection with
    | none => []
    | some connection =>
      match (link.send (surroundings.watched line blocks) connection request.method
        request.arguments).play (state, []) with
      | (.error halt, _, acts) => [⟨.error halt, acts⟩]
      | (.ok (result, after), next, acts) => ⟨.ok result, acts⟩ :: after.dispatches rest next

theorem Link.dispatches_cons {link : Link Nat} {connection : Connection Nat}
    (held : link.connection = some connection) (request : Request) (rest : List Request)
    (state : σ) : ∃ acts outcome,
      Exchanging (Message.encodeCall request.method.name (connection.sequence + 1)
          request.arguments) request.method.name (connection.sequence + 1) blocks acts outcome ∧
        match outcome with
        | .error halt => link.dispatches surroundings line blocks (request :: rest) state =
            [⟨.error halt, acts⟩]
        | .ok result => ∃ (after : Link Nat) (next : σ),
            after.connection = some { connection with sequence := connection.sequence + 1 } ∧
              link.dispatches surroundings line blocks (request :: rest) state =
                ⟨.ok result, acts⟩ :: after.dispatches surroundings line blocks rest next := by
  obtain ⟨acts, outcome, next, plays, exchanging⟩ := (line connection.channel).exchange_play blocks
    (connection.sequence + 1) request.method request.arguments state
  have calls : ((surroundings.watched line blocks).call connection.channel (connection.sequence + 1)
      request.method request.arguments).play (state, []) = (outcome, next, acts) := plays
  refine ⟨acts, outcome, exchanging, ?_⟩
  rw [dispatches, held]
  cases outcome with
  | error halt => simp only [send, Run.play_bind, calls]
  | ok result =>
    simp only [send, Run.play_bind, calls]
    exact ⟨_, next, rfl, rfl⟩

theorem Link.dispatches_numbered {link : Link Nat} {connection : Connection Nat} {start : Nat}
    (held : link.connection = some connection) (begun : connection.sequence = Int32.ofNat start)
    (requests : List Request) (state : σ) {place : Nat} {dispatch : Dispatch}
    (sent : (link.dispatches surroundings line blocks requests state)[place]? = some dispatch) :
    ∃ request, requests[place]? = some request ∧
      Exchanging (Message.encodeCall request.method.name (Int32.ofNat (start + place + 1))
          request.arguments) request.method.name (Int32.ofNat (start + place + 1)) blocks
        dispatch.acts dispatch.outcome := by
  induction requests generalizing link connection start state place with
  | nil =>
    rw [dispatches] at sent
    cases sent
  | cons request rest ih =>
    obtain ⟨acts, outcome, exchanging, goes⟩ :=
      dispatches_cons surroundings line blocks held request rest state
    -- The connection counts a call before it is sent, so the numbers begin after `start`.
    have next : connection.sequence + 1 = Int32.ofNat (start + 1) := by
      rw [begun, Int32.ofNat_add]
      rfl
    rw [next] at exchanging goes
    cases outcome with
    | error halt =>
      rw [goes] at sent
      cases place with
      | zero =>
        cases sent
        exact ⟨request, rfl, exchanging⟩
      | succ place => cases sent
    | ok result =>
      obtain ⟨after, later, keeps, goes⟩ := goes
      rw [goes] at sent
      cases place with
      | zero =>
        cases sent
        exact ⟨request, rfl, exchanging⟩
      | succ place =>
        have shifted : start + (place + 1) + 1 = start + 1 + place + 1 := by omega
        rw [shifted]
        exact ih keeps rfl later sent

/-- No call is left out unless the reply to an earlier one does not end. -/
theorem Link.length_dispatches {link : Link Nat} {connection : Connection Nat}
    (held : link.connection = some connection) (requests : List Request) (state : σ)
    (ends : ∀ dispatch ∈ link.dispatches surroundings line blocks requests state,
      ∃ result, dispatch.outcome = .ok result) :
    (link.dispatches surroundings line blocks requests state).length = requests.length := by
  induction requests generalizing link connection state with
  | nil => rfl
  | cons request rest ih =>
    obtain ⟨acts, outcome, exchanging, goes⟩ :=
      dispatches_cons surroundings line blocks held request rest state
    cases outcome with
    | error halt =>
      rw [goes] at ends
      obtain ⟨result, ended⟩ := ends _ List.mem_cons_self
      cases ended
    | ok result =>
      obtain ⟨after, next, keeps, goes⟩ := goes
      rw [goes] at ends ⊢
      rw [List.length_cons, List.length_cons,
        ih keeps next fun dispatch member => ends dispatch (List.mem_cons_of_mem _ member)]

/-- Over a new connection the calls carry the numbers one, two and so on. A call gets a response
only from a reply that bears its method and its number, and whatever answers a call that is less
than `2 ^ 32` numbers away is a fault of the answer. -/
theorem replies_answer_their_own_calls (link : Link Nat) (channel : Nat) (requests : List Request)
    (state : σ) :
    let fresh : Link Nat := { link with connection := some { channel } }
    let dispatches := fresh.dispatches surroundings line blocks requests state
    ((∀ dispatch ∈ dispatches, ∃ result, dispatch.outcome = .ok result) →
      dispatches.length = requests.length) ∧
    ∀ place dispatch, dispatches[place]? = some dispatch → ∃ request,
      requests[place]? = some request ∧
      dispatch.acts.written = [Message.encodeCall request.method.name (Int32.ofNat (place + 1))
        request.arguments] ∧
      (∀ halt, dispatch.outcome = .error halt → blocks ≤ dispatch.acts.received.length) ∧
      (∀ response, dispatch.outcome = .ok (.ok response) → dispatch.acts.Ended ∧
        ∃ body, Message.decode dispatch.acts.received =
          .ok ⟨request.method.name, .reply, Int32.ofNat (place + 1), body⟩) ∧
      ∀ method other, other ≠ place + 1 → other < place + 1 + 2 ^ 32 →
        place + 1 < other + 2 ^ 32 → dispatch.acts.Ended →
          Message.IsAnswer dispatch.acts.received method (Int32.ofNat other) →
            ∃ fault, dispatch.outcome = .ok (.error (.protocol fault)) := by
  intro fresh dispatches
  refine ⟨Link.length_dispatches surroundings line blocks rfl requests state, ?_⟩
  intro place dispatch sent
  have begun : ({ channel } : Connection Nat).sequence = Int32.ofNat 0 := rfl
  obtain ⟨request, asked, exchanging⟩ :=
    Link.dispatches_numbered surroundings line blocks rfl begun requests state sent
  rw [Nat.zero_add] at exchanging
  refine ⟨request, asked, exchanging.written, fun halt => exchanging.most_le, ?_, ?_⟩
  · intro response answered
    have ended : dispatch.acts.Ended := exchanging.ended answered nofun
    have taken := exchanging.decoded ended
    rw [answered] at taken
    exact ⟨ended, Message.decode_of_decodeReply (Except.ok.inj taken).symm⟩
  · intro method other different below above ended answer
    obtain ⟨fault, refused⟩ :=
      answer.refused (int32_ofNat_ne different below above) request.method.name
    exact ⟨fault, by rw [exchanging.decoded ended, refused]⟩

end Dispatching

def Link.opened : Link Nat where
  locator := .direct "http://scheduler:8081"
  login := .anonymous
  options := {}
  connection := some { channel := 0 }

def Message.firstReply : Bytes := encodeReply "getJobs" 1 (.ofCode .ok)

def Stage.belated : Stage where
  channels := [{ isOpen := true }]
  wire :=
    [{ reply := .bytes Message.firstReply }, { writeFailure := some (.notOpen "broken pipe") },
      { reply := .bytes Message.firstReply }]

/-- The call that failed has used up a number, and the reply that comes again is refused. -/
theorem belated_reply_is_refused :
    let dispatches := Link.opened.dispatches
      (Stage.belated.surroundings .script fun _ => .ok .anonymous) Stage.line 9
      (List.replicate 3 ⟨.getJobs, []⟩) Stage.belated
    dispatches.length = 3 ∧ ∃ dispatch, dispatches[2]? = some dispatch ∧
      dispatch.acts.written = [Message.encodeCall "getJobs" 3 []] ∧
      Message.IsAnswer dispatch.acts.received "getJobs" 1 ∧
      ∃ fault, dispatch.outcome = .ok (.error (.protocol fault)) := by
  intro dispatches
  obtain ⟨whole, numbered⟩ := replies_answer_their_own_calls
    (Stage.belated.surroundings .script fun _ => .ok .anonymous) Stage.line 9 Link.opened 0
    (List.replicate 3 ⟨.getJobs, []⟩) Stage.belated
  have ends : ∀ dispatch ∈ dispatches, ∃ result, dispatch.outcome = .ok result := by
    have all : dispatches.all (·.outcome.isOk) = true := by decide +kernel
    intro dispatch member
    have ended := List.all_eq_true.mp all dispatch member
    cases outcome : dispatch.outcome with
    | ok result => exact ⟨result, rfl⟩
    | error halt =>
      rw [outcome] at ended
      cases ended
  have third : dispatches[2]?.map (·.acts) =
      some [.wrote (Message.encodeCall "getJobs" 3 []) (.ok ()), .flushed (.ok ()),
        .read (.ok Message.firstReply), .read (.ok [])] := by
    decide +kernel
  obtain ⟨dispatch, sent, acts⟩ := Option.map_eq_some_iff.mp third
  have received : dispatch.acts.received = Message.firstReply := by
    simp only [acts, LineActs.received, List.flatMap_cons, List.flatMap_nil, List.nil_append,
      List.append_nil]
  have answer : Message.IsAnswer dispatch.acts.received "getJobs" 1 := by
    have plain : (Response.ofCode .ok).Portable := ⟨nofun, nofun, nofun, by decide⟩
    rw [received, Message.firstReply]
    exact .inl ⟨_, Message.decodeReply_encodeReply "getJobs" 1 plain⟩
  obtain ⟨request, asked, written, -, -, refused⟩ := numbered 2 dispatch sent
  cases asked
  have ended : dispatch.acts.Ended := by rw [acts]; rfl
  exact ⟨whole ends, dispatch, sent, written, answer,
    refused "getJobs" 1 (by decide) (by decide) (by decide) ended answer⟩

end SchedulerLink
