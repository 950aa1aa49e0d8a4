import SchedulerLink.Command.Program
import SchedulerLink.File.Tree
import SchedulerLink.Http.Channel
import SchedulerLink.Rehearsal.Log
import SchedulerLink.Rehearsal.Peer
import SchedulerLink.Serverset.Directory

/-!
A stage: everything that links and sessions work with, as an ordinary value.

On a stage the clock moves only when someone pauses, channels and registries answer from scripts,
and everything that is done is written down. Sessions on a stage are state transformers, so what
they do can be looked at and reasoned about.
-/

namespace SchedulerLink

inductive RegistryScript where
  | absent
  | fixed (members : List Member)
  | queued (queue : List (Except DiscoveryFailure (List Member)))
      (later : Except DiscoveryFailure (List Member))
  deriving Repr

inductive Happening where
  | stop
  | answer (later : Except DiscoveryFailure (List Member))
  | fileChange (change : FileChange)
  deriving Repr

/-- Something that happens at the end of the first pause that reaches a time. -/
structure Cue where
  time : Duration
  happening : Happening
  deriving Repr

/-- How the peer of a channel treats a message. -/
structure WireScript where
  writeFailure : Option ChannelFailure := none
  flushFailure : Option ChannelFailure := none
  readFailure : Option ChannelFailure := none
  chunk : Option Nat := none
  reply : ReplyScript := .response (.ofCode .ok)
  deriving Repr

structure StageChannel where
  isOpen : Bool := false
  pending : Bytes := []
  reply : Bytes := []
  script : WireScript := {}
  deriving Repr

def StageChannel.fresh : StageChannel := {}

/-- A stage and its scripts. -/
structure Stage where
  clock : Duration := .zero
  cues : List Cue := []
  stopping : Bool := false
  files : FileTree := {}
  workingDirectory : String := "/"
  registry : RegistryScript := .absent
  opens : List (Option ChannelFailure) := []
  opensLater : Option ChannelFailure := none
  answers : List (Except CallFailure Response) := []
  answersLater : Except CallFailure Response := .ok (.ofCode .ok)
  wire : List WireScript := []
  channels : List StageChannel := []
  peer : HttpPeer := {}
  httpChannels : List HttpChannel := []
  log : Log := []
  deriving Repr

abbrev OnStage (α : Type) := StateM Stage α

namespace Stage

def logSince (stage : Stage) (length : Nat) : Log := stage.log.reverse.drop length

def note (entry : Entry) : OnStage Unit :=
  modify fun stage => { stage with log := entry :: stage.log }

def happen (stage : Stage) : Happening → Stage
  | .stop => { stage with stopping := true }
  | .answer later =>
    match stage.registry with
    | .queued queue _ => { stage with registry := .queued queue later }
    | _ => stage
  | .fileChange change => { stage with files := stage.files.apply change }

def fire (stage : Stage) : List Cue → Stage
  | [] => { stage with cues := [] }
  | cue :: rest =>
    if cue.time ≤ stage.clock then fire (stage.happen cue.happening) rest
    else { stage with cues := cue :: rest }

def pause (span : Duration) : OnStage Unit := do
  note (.slept span)
  modify fun stage =>
    let stage := { stage with clock := stage.clock + span }
    stage.fire stage.cues

def next {α : Type} (script : List α) (later : α) : α × List α :=
  match script with
  | [] => (later, [])
  | item :: rest => (item, rest)

def fullPath (stage : Stage) (path : String) : String :=
  if path.isEmpty then path else Path.join stage.workingDirectory path

def timer : Clock (StateM Stage) where
  now := do pure (← get).clock
  pause := pause

def fileStore : FileStore (StateM Stage) where
  list path := do
    let stage ← get
    pure (stage.files.list (stage.fullPath path))
  read path := do
    let stage ← get
    pure (stage.files.readText (stage.fullPath path))
  append path text := do
    let stage ← get
    match stage.files.append (stage.fullPath path) text with
    | .error fault => pure (.error fault)
    | .ok files => do
      set { stage with files }
      pure (.ok ())

def watch : Directory.Watch (StateM Stage) := { timer with files := fileStore }

def ask : RegistryScript → Except DiscoveryFailure (List Member) × RegistryScript
  | .absent => (.ok [], .absent)
  | .fixed members => (.ok members, .fixed members)
  | .queued queue later =>
    let (answer, queue) := next queue later
    (answer, .queued queue later)

def lookup (target : RegistryTarget) (patience : Duration) :
    OnStage (Except DiscoveryFailure (List Member)) := do
  let answer ← modifyGet fun stage =>
    let (answer, registry) := ask stage.registry
    (answer, { stage with registry })
  note (.lookedUp target.path patience (.ok answer))
  pure answer

def create (uri : String) (setup : ChannelSetup) : OnStage Nat := do
  let stage ← get
  let channel := stage.channels.length
  set { stage with channels := stage.channels ++ [StageChannel.fresh] }
  note (.created channel uri setup)
  pure channel

def change (channel : Nat) (change : StageChannel → StageChannel) : OnStage Unit :=
  modify fun stage => { stage with channels := stage.channels.modify channel change }

def look (channel : Nat) : OnStage StageChannel := do
  let stage ← get
  pure (stage.channels.getD channel .fresh)

def openChannel (channel : Nat) : OnStage (Except ChannelFailure Unit) := do
  let failure ← modifyGet fun stage =>
    let (failure, opens) := next stage.opens stage.opensLater
    (failure, { stage with opens })
  let result := match failure with
    | none => .ok ()
    | some failure => .error failure
  note (.opened channel result)
  change channel fun state => { state with isOpen := failure.isNone }
  pure result

def closeChannel (channel : Nat) : OnStage Unit := do
  note (.closed channel (← look channel).isOpen)
  change channel fun state => { state with isOpen := false }

def answer (channel : Nat) (sequence : Int32) (method : Method) (arguments : List Json) :
    OnStage (Except CallFailure Response) := do
  let answer ← modifyGet fun stage =>
    let (answer, answers) := next stage.answers stage.answersLater
    (answer, { stage with answers })
  note (.called channel sequence method arguments (.ok answer))
  pure answer

/-! Channels that carry messages. -/

def write (channel : Nat) (bytes : Bytes) : OnStage (Except ChannelFailure Unit) := do
  let script ← modifyGet fun stage =>
    let (script, wire) := next stage.wire {}
    (script, { stage with wire })
  match script.writeFailure with
  | some failure => pure (.error failure)
  | none => do
    change channel fun state => { state with script, pending := state.pending ++ bytes }
    pure (.ok ())

def flush (channel : Nat) : OnStage (Except ChannelFailure Unit) := do
  let state ← look channel
  change channel fun state => { state with pending := [] }
  match state.script.flushFailure with
  | some failure => pure (.error failure)
  | none => do
    note (.posted channel state.pending)
    let reply := (state.script.reply.replyTo state.pending).getD []
    change channel fun state => { state with reply }
    pure (.ok ())

def read (channel : Nat) (most : Nat) : OnStage (Except ChannelFailure Bytes) := do
  let state ← look channel
  let count := min most (state.script.chunk.getD most)
  match state.reply, state.script.readFailure with
  | [], some failure => pure (.error failure)
  | reply, _ => do
    change channel fun state => { state with reply := reply.drop count }
    pure (.ok (reply.take count))

def line (channel : Nat) : Line (StateM Stage) where
  write := write channel
  flush := flush channel
  read := read channel

/-! Channels that carry messages in HTTP requests. -/

/-- The peer of a stage. Requests beyond its script are answered as calls that went well. -/
def network : Network (StateM Stage) where
  reach address := do pure ((← get).peer.reach address)
  send address request := do
    let stage ← get
    match stage.peer.reach address with
    | .error fault => pure (.error fault)
    | .ok () =>
      let usual := PeerScript.reply 200 [] (.response (.ofCode .ok))
      let (script, scripts) := next stage.peer.scripts usual
      set { stage with peer := { stage.peer with scripts } }
      note (.requested request)
      pure (script.treat request)

def httpStore : ChannelStore (StateM Stage) Nat where
  new channel := modifyGet fun stage =>
    (stage.httpChannels.length, { stage with httpChannels := stage.httpChannels ++ [channel] })
  get channel := do
    let stage ← get
    pure (stage.httpChannels.getD channel { uri := "", setup := ⟨none, "", .empty⟩ })
  set channel state :=
    modify fun stage => { stage with httpChannels := stage.httpChannels.set channel state }

/-! Surroundings. -/

/-- What answers the calls on a stage. -/
inductive Answering where
  | script
  | wire (blocks : Nat)
  deriving Repr

/-- A stage as the surroundings of links and sessions. -/
def surroundings (stage : Stage) (answering : Answering)
    (login : String → Except LoginError Login) : Surroundings (StateM Stage) Nat where
  toClock := timer
  isStopping := do pure (← get).stopping
  hasRegistry := match stage.registry with
    | .absent => false
    | _ => true
  lookup target patience := ExceptT.lift (lookup target patience)
  create := create
  openChannel := openChannel
  closeChannel := closeChannel
  adopt channel := note (.adopted channel)
  call channel sequence method arguments :=
    match answering with
    | .script => ExceptT.lift (answer channel sequence method arguments)
    | .wire blocks => (line channel).exchange blocks sequence method arguments
  login := login

def desk : Desk (StateM Stage) Nat where
  toClock := timer
  files := fileStore
  network := network
  channels := httpStore
  print text := note (.printed text)

def httpSurroundings (stage : Stage) (blocks : Nat)
    (login : String → Except LoginError Login) : Surroundings (StateM Stage) Nat :=
  let scripted := stage.surroundings .script login
  { httpStore.surroundings network fileStore blocks timer login with
    isStopping := scripted.isStopping
    hasRegistry := scripted.hasRegistry
    lookup := scripted.lookup }

end Stage

end SchedulerLink
