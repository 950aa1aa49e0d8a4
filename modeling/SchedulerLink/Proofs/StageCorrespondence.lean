import SchedulerLink.Proofs.Correspondence
import SchedulerLink.Proofs.StageScene

/-!
A stage whose peer answers every message from its script is a correspondence.
-/

namespace SchedulerLink

def WireScript.answering (chunk : Nat) (response : Response) : WireScript :=
  { chunk := some chunk, reply := .response response }

namespace RegistryScript

def Names (answer : Except DiscoveryFailure (List Member)) : Prop :=
  ∃ leader others uri, answer = .ok (leader :: others) ∧
    Connect.interfaceUri leader.url = .ok uri

def Leads : RegistryScript → Prop
  | .absent => False
  | .fixed members => Names (.ok members)
  | .queued queue later => (∀ answer ∈ queue, Names answer) ∧ Names later

theorem Leads.ask {registry : RegistryScript} (leads : registry.Leads) :
    Names (Stage.ask registry).1 ∧ (Stage.ask registry).2.Leads := by
  cases registry with
  | absent => cases leads
  | fixed members => exact ⟨leads, leads⟩
  | queued queue later =>
    cases queue with
    | nil => exact ⟨leads.2, leads⟩
    | cons answer rest =>
      obtain ⟨first, others⟩ := List.forall_mem_cons.mp leads.1
      exact ⟨first, others, leads.2⟩

end RegistryScript

theorem Log.messages_reverse_cons (entry : Entry) (log : Log) :
    messages (entry :: log).reverse = messages log.reverse ++ messages [entry] := by
  rw [List.reverse_cons]
  exact List.filterMap_append

namespace Stage

/-- A stage whose channels open and whose peer gives responses. -/
structure Attended (registered : Bool) (chunk : Nat) (post : Post) (stage : Stage) : Prop where
  messages : Log.messages stage.log.reverse = post.received
  wire : stage.wire = post.coming.map (WireScript.answering chunk)
  running : stage.stopping = false
  calm : stage.cues = []
  opens : ∀ failure ∈ stage.opens, failure = none
  opensLater : stage.opensLater = none
  leads : registered = true → stage.registry.Leads

def Shows (stage : Stage) (channel : Nat) (state : StageChannel) : Prop :=
  stage.channels[channel]? = some state

variable {registered : Bool} {chunk channel : Nat} {post : Post} {stage : Stage}
  {state : StageChannel}

theorem Shows.look (shows : stage.Shows channel state) :
    (look channel).run stage = (state, stage) := by
  change (stage.channels.getD channel .fresh, stage) = _
  rw [List.getD_eq_getElem?_getD, shows, Option.getD_some]

theorem Shows.change (shows : stage.Shows channel state) (edit : StageChannel → StageChannel) :
    ((change channel edit).run stage).2.Shows channel (edit state) := by
  change (stage.channels.modify channel edit)[channel]? = _
  rw [List.getElem?_modify_eq, shows]
  rfl

theorem Attended.change (attended : stage.Attended registered chunk post)
    (channel : Nat) (edit : StageChannel → StageChannel) :
    ((Stage.change channel edit).run stage).2.Attended registered chunk post :=
  { attended with }

theorem Attended.note (attended : stage.Attended registered chunk post) {entry : Entry}
    (silent : Log.messages [entry] = []) :
    ((Stage.note entry).run stage).2.Attended registered chunk post := by
  refine { attended with messages := ?_ }
  change Log.messages (entry :: stage.log).reverse = _
  rw [Log.messages_reverse_cons, silent, List.append_nil, attended.messages]

def Poised (registered : Bool) (chunk : Nat) (post : Post) (held : Option Nat) (stage : Stage) :
    Prop :=
  stage.Attended registered chunk post ∧ ∀ channel ∈ held, ∃ state,
    stage.Shows channel state ∧ state.isOpen = true ∧ state.pending = []

def Written (registered : Bool) (chunk : Nat) (post : Post) (channel : Nat) (bytes : Bytes)
    (stage : Stage) : Prop :=
  stage.Attended registered chunk ⟨post.received, post.coming.tail⟩ ∧ ∃ state,
    stage.Shows channel state ∧ state.isOpen = true ∧ state.pending = bytes ∧
      ∀ response ∈ post.coming.head?, state.script = .answering chunk response

def Replying (registered : Bool) (chunk : Nat) (post : Post) (channel : Nat) (unread : Bytes)
    (stage : Stage) : Prop :=
  stage.Attended registered chunk post ∧ ∃ state,
    stage.Shows channel state ∧ state.isOpen = true ∧ state.pending = [] ∧
      state.reply = unread ∧ state.script.chunk = some chunk ∧ state.script.readFailure = none

theorem pause_poised {held : Option Nat} (span : Duration)
    (poised : stage.Poised registered chunk post held) :
    ((pause span).run stage).2.Poised registered chunk post held := by
  obtain ⟨attended, channels⟩ := poised
  have messages := (attended.note (rfl : Log.messages [.slept span] = [])).messages
  rw [pause_run, attended.calm]
  exact ⟨{ attended with messages, calm := rfl }, channels⟩

theorem lookup_leads {held : Option Nat} (target : RegistryTarget) (patience : Duration)
    (known : registered = true) (poised : stage.Poised registered chunk post held) :
    ∃ leader others uri next,
      Run.play (ExceptT.lift (lookup target patience)) stage =
          (.ok (.ok (leader :: others)), next) ∧
        Connect.interfaceUri leader.url = .ok uri ∧ next.Poised registered chunk post held := by
  obtain ⟨attended, channels⟩ := poised
  obtain ⟨⟨leader, others, uri, names, address⟩, later⟩ := (attended.leads known).ask
  have silent : Log.messages
      [.lookedUp target.path patience (.ok (.ok (leader :: others)))] = [] := rfl
  have messages := (attended.note silent).messages
  refine ⟨leader, others, uri, { stage with
    registry := (ask stage.registry).2
    log := .lookedUp target.path patience (.ok (.ok (leader :: others))) :: stage.log },
    ?_, address, { attended with messages, leads := fun _ => later }, channels⟩
  rw [← names]
  rfl

theorem openChannel_run {rest : List (Option ChannelFailure)} (channel : Nat)
    (script : next stage.opens stage.opensLater = (none, rest)) :
    (openChannel channel).run stage = (.ok (), { stage with
      channels := stage.channels.modify channel fun state => { state with isOpen := true }
      opens := rest
      log := .opened channel (.ok ()) :: stage.log }) := by
  simp only [openChannel, StateT.run_bind, StateT.run_modifyGet, script]
  rfl

theorem Attended.next_opens (attended : stage.Attended registered chunk post) : ∃ rest,
    next stage.opens stage.opensLater = (none, rest) ∧ ∀ failure ∈ rest, failure = none := by
  cases script : stage.opens with
  | nil => exact ⟨[], by rw [next, attended.opensLater], List.forall_mem_nil _⟩
  | cons failure rest =>
    have all := attended.opens
    rw [script] at all
    obtain ⟨rfl, others⟩ := List.forall_mem_cons.mp all
    exact ⟨rest, rfl, others⟩

theorem create_opens (uri : String) (setup : ChannelSetup)
    (poised : stage.Poised registered chunk post none) : ∃ channel created next,
      (create uri setup).run stage = (channel, created) ∧
        (openChannel channel).run created = (.ok (), next) ∧
          next.Poised registered chunk post (some channel) := by
  obtain ⟨attended, -⟩ := poised
  obtain ⟨rest, script, opens⟩ := attended.next_opens
  have created := attended.note (rfl : Log.messages [.created stage.channels.length uri setup] = [])
  have opened := created.note (rfl : Log.messages [.opened stage.channels.length (.ok ())] = [])
  have ends : (openChannel stage.channels.length).run ((create uri setup).run stage).2 = _ :=
    openChannel_run stage.channels.length script
  refine ⟨stage.channels.length, _, _, rfl, ends,
    { attended with messages := opened.messages, opens }, ?_⟩
  rintro channel ⟨⟩
  refine ⟨{ StageChannel.fresh with isOpen := true }, ?_, rfl, rfl⟩
  change (List.modify (stage.channels ++ [StageChannel.fresh]) stage.channels.length _)[_]? = _
  rw [List.getElem?_modify_eq, List.getElem?_concat_length]
  rfl

theorem adopt_poised (poised : stage.Poised registered chunk post (some channel)) :
    ((note (.adopted channel)).run stage).2.Poised registered chunk post (some channel) :=
  ⟨poised.1.note rfl, poised.2⟩

theorem close_poised (poised : stage.Poised registered chunk post (some channel)) :
    ((closeChannel channel).run stage).2.Poised registered chunk post none :=
  ⟨(poised.1.note rfl).change channel _, by rintro channel ⟨⟩⟩

theorem write_run {script : WireScript} {rest : List WireScript} (channel : Nat) (bytes : Bytes)
    (taken : next stage.wire {} = (script, rest)) (unfailing : script.writeFailure = none) :
    (write channel bytes).run stage = (.ok (), { stage with
      wire := rest
      channels := stage.channels.modify channel fun state =>
        { state with script, pending := state.pending ++ bytes } }) := by
  simp only [write, StateT.run_bind, StateT.run_modifyGet, taken, pure_bind]
  simp only [unfailing]
  rfl

theorem write_written (bytes : Bytes)
    (poised : stage.Poised registered chunk post (some channel)) : ∃ next,
      (write channel bytes).run stage = (.ok (), next) ∧
        next.Written registered chunk post channel bytes := by
  obtain ⟨attended, channels⟩ := poised
  obtain ⟨state, shows, opened, pending⟩ := channels channel rfl
  have taken : ∃ script, next stage.wire {} =
      (script, post.coming.tail.map (WireScript.answering chunk)) ∧ script.writeFailure = none ∧
        ∀ response ∈ post.coming.head?, script = .answering chunk response := by
    rw [attended.wire]
    cases post.coming with
    | nil => exact ⟨{}, rfl, rfl, by rintro response ⟨⟩⟩
    | cons response rest => exact ⟨_, rfl, rfl, by rintro other ⟨⟩; rfl⟩
  obtain ⟨script, taken, unfailing, treats⟩ := taken
  refine ⟨_, write_run channel bytes taken unfailing, { attended with wire := rfl },
    { state with script, pending := state.pending ++ bytes }, shows.change _, opened, ?_, treats⟩
  rw [pending, List.nil_append]

theorem flush_run (shows : stage.Shows channel state)
    (unfailing : state.script.flushFailure = none) :
    (flush channel).run stage = (.ok (), { stage with
      log := .posted channel state.pending :: stage.log
      channels := (stage.channels.modify channel fun state => { state with pending := [] }).modify
        channel fun held =>
          { held with reply := (state.script.reply.replyTo state.pending).getD [] } }) := by
  rw [flush, StateT.run_bind, shows.look]
  simp only [bind, unfailing]
  rfl

theorem flush_answered {received : List Bytes} {response : Response} {coming : List Response}
    {bytes : Bytes} {method : String} {sequence : Int32} {arguments : List Json}
    (written : stage.Written registered chunk ⟨received, response :: coming⟩ channel bytes)
    (called : Message.decodeCall bytes = .ok (method, sequence, arguments)) : ∃ next,
      (flush channel).run stage = (.ok (), next) ∧
        next.Replying registered chunk ⟨received ++ [bytes], coming⟩ channel
          (Message.encodeReply method sequence response) := by
  obtain ⟨attended, state, shows, opened, rfl, treats⟩ := written
  have treated : state.script = .answering chunk response := treats response rfl
  have reply : (state.script.reply.replyTo state.pending).getD [] =
      Message.encodeReply method sequence response := by
    rw [treated]
    simp only [WireScript.answering, ReplyScript.replyTo, called, Option.getD_some]
  refine ⟨_, flush_run shows (by rw [treated]; rfl), { attended with messages := ?_ },
    { state with pending := [], reply := (state.script.reply.replyTo state.pending).getD [] },
    (shows.change _).change _, opened, rfl, reply, by rw [treated]; rfl, by rw [treated]; rfl⟩
  rw [Log.messages_reverse_cons, attended.messages]
  rfl

theorem read_run (most : Nat) (shows : stage.Shows channel state)
    (unfailing : state.script.readFailure = none) :
    (read channel most).run stage =
      (.ok (state.reply.take (min most (state.script.chunk.getD most))), { stage with
        channels := stage.channels.modify channel fun held =>
          { held with reply := state.reply.drop (min most (state.script.chunk.getD most)) } }) := by
  rw [read, StateT.run_bind, shows.look]
  simp only [bind, unfailing]
  cases state.reply <;> rfl

theorem read_block {most : Nat} {unread : Bytes} (nonempty : 0 < chunk) (positive : 0 < most)
    (replying : stage.Replying registered chunk post channel unread) : ∃ block rest next,
      (read channel most).run stage = (.ok block, next) ∧ unread = block ++ rest ∧
        (block = [] → unread = []) ∧ next.Replying registered chunk post channel rest := by
  obtain ⟨attended, state, shows, opened, pending, rfl, length, unfailing⟩ := replying
  refine ⟨_, _, _, read_run most shows unfailing, (List.take_append_drop _ _).symm, fun empty => ?_,
    { attended with }, _, shows.change _, opened, pending, rfl, length, unfailing⟩
  rw [length, Option.getD_some, List.take_eq_nil_iff] at empty
  exact empty.resolve_left (by omega)

theorem replying_end (replying : stage.Replying registered chunk post channel []) :
    stage.Poised registered chunk post (some channel) := by
  obtain ⟨attended, state, shows, opened, pending, -⟩ := replying
  refine ⟨attended, ?_⟩
  rintro channel ⟨⟩
  exact ⟨state, shows, opened, pending⟩

/-- A stage whose peer gives the responses of its script, each in blocks of at most `chunk` octets,
as a correspondence. -/
def correspondence (stage : Stage) (chunk blocks : Nat) (nonempty : 0 < chunk)
    (login : String → Except LoginError Login) : Correspondence Stage where
  surroundings := stage.surroundings (.wire blocks) login
  line := line
  blocks := blocks
  clock := clock
  received state := Log.messages state.log.reverse
  Poised := Poised (stage.surroundings (.wire blocks) login).hasRegistry chunk
  Written := Written (stage.surroundings (.wire blocks) login).hasRegistry chunk
  Replying := Replying (stage.surroundings (.wire blocks) login).hasRegistry chunk
  received_eq poised := poised.1.messages
  now_run _ := rfl
  isStopping_run poised := congrArg (·, _) poised.1.running
  pause_poised := pause_poised
  lookup_leads := lookup_leads
  create_opens := create_opens
  adopt_poised := adopt_poised
  close_poised := close_poised
  call_eq _ _ _ _ := rfl
  write_written := write_written
  flush_answered := flush_answered
  read_block positive replying := read_block nonempty positive replying
  replying_end := replying_end

theorem correspondence_punctual (stage : Stage) (chunk blocks : Nat) (nonempty : 0 < chunk)
    (login : String → Except LoginError Login) :
    (stage.correspondence chunk blocks nonempty login).Punctual where
  pause span state := by
    change ((pause span).run state).2.clock = _
    rw [pause_run, (fire_still _ _).1]
    rfl
  lookup _ _ _ := rfl
  create _ _ _ := rfl
  openChannel _ _ := rfl
  adopt _ _ := rfl
  closeChannel _ _ := rfl
  write channel bytes state := by
    change ((write channel bytes).run state).2.clock = state.clock
    rw [write, StateT.run_bind]
    simp only [bind]
    split <;> rfl
  flush channel state := by
    change ((flush channel).run state).2.clock = state.clock
    rw [flush, StateT.run_bind]
    simp only [bind]
    split <;> rfl
  read channel most state := by
    change ((read channel most).run state).2.clock = state.clock
    rw [read, StateT.run_bind]
    simp only [bind]
    split <;> rfl

end Stage

end SchedulerLink
