import SchedulerLink.Call.Exchange
import SchedulerLink.Proofs.Codec.Call
import SchedulerLink.Proofs.Codec.Reply
import SchedulerLink.Proofs.Custody

/-!
Correspondences: surroundings in which every channel opens and a peer answers every call.

The peer gives its responses one after the other, each under the name and the number of the call
that it received. Into which blocks a reply is cut, who leads, and where time passes is left open.
-/

namespace SchedulerLink

variable {σ : Type}

/-- What a peer received and what it has left to give. -/
structure Post where
  received : List Bytes
  coming : List Response

/-- Surroundings whose calls are messages to a peer that answers them. -/
structure Correspondence (σ : Type) where
  surroundings : Surroundings (StateM σ) Nat
  line : Nat → Line (StateM σ)
  blocks : Nat
  clock : σ → Duration
  received : σ → List Bytes
  Poised : Post → Option Nat → σ → Prop
  Written : Post → Nat → Bytes → σ → Prop
  Replying : Post → Nat → Bytes → σ → Prop
  received_eq {post : Post} {held : Option Nat} {state : σ} (poised : Poised post held state) :
    received state = post.received
  now_run (state : σ) : surroundings.now.run state = (clock state, state)
  isStopping_run {post : Post} {held : Option Nat} {state : σ} (poised : Poised post held state) :
    surroundings.isStopping.run state = (false, state)
  pause_poised {post : Post} {held : Option Nat} {state : σ} (span : Duration)
    (poised : Poised post held state) : Poised post held ((surroundings.pause span).run state).2
  lookup_leads {post : Post} {held : Option Nat} {state : σ} (target : RegistryTarget)
    (patience : Duration) (registered : surroundings.hasRegistry = true)
    (poised : Poised post held state) : ∃ leader others uri next,
      (surroundings.lookup target patience).play state = (.ok (.ok (leader :: others)), next) ∧
        Connect.interfaceUri leader.url = .ok uri ∧ Poised post held next
  create_opens {post : Post} {state : σ} (uri : String) (setup : ChannelSetup)
    (poised : Poised post none state) : ∃ channel created next,
      (surroundings.create uri setup).run state = (channel, created) ∧
        (surroundings.openChannel channel).run created = (.ok (), next) ∧
          Poised post (some channel) next
  adopt_poised {post : Post} {channel : Nat} {state : σ}
    (poised : Poised post (some channel) state) :
    Poised post (some channel) ((surroundings.adopt channel).run state).2
  close_poised {post : Post} {channel : Nat} {state : σ}
    (poised : Poised post (some channel) state) :
    Poised post none ((surroundings.closeChannel channel).run state).2
  call_eq (channel : Nat) (sequence : Int32) (method : Method) (arguments : List Json) :
    surroundings.call channel sequence method arguments =
      (line channel).exchange blocks sequence method arguments
  write_written {post : Post} {channel : Nat} {state : σ} (bytes : Bytes)
    (poised : Poised post (some channel) state) : ∃ next,
      ((line channel).write bytes).run state = (.ok (), next) ∧ Written post channel bytes next
  flush_answered {received : List Bytes} {response : Response} {coming : List Response}
    {channel : Nat} {bytes : Bytes} {state : σ} {method : String} {sequence : Int32}
    {arguments : List Json} (written : Written ⟨received, response :: coming⟩ channel bytes state)
    (called : Message.decodeCall bytes = .ok (method, sequence, arguments)) : ∃ next,
      (line channel).flush.run state = (.ok (), next) ∧
        Replying ⟨received ++ [bytes], coming⟩ channel
          (Message.encodeReply method sequence response) next
  read_block {post : Post} {channel most : Nat} {unread : Bytes} {state : σ} (positive : 0 < most)
    (replying : Replying post channel unread state) : ∃ block rest next,
      ((line channel).read most).run state = (.ok block, next) ∧ unread = block ++ rest ∧
        (block = [] → unread = []) ∧ Replying post channel rest next
  replying_end {post : Post} {channel : Nat} {state : σ}
    (replying : Replying post channel [] state) : Poised post (some channel) state

namespace Correspondence

/-- Time passes in pauses only. -/
structure Punctual (peer : Correspondence σ) : Prop where
  pause (span : Duration) (state : σ) :
    peer.clock ((peer.surroundings.pause span).run state).2 = peer.clock state + span
  lookup (target : RegistryTarget) (patience : Duration) (state : σ) :
    peer.clock ((peer.surroundings.lookup target patience).play state).2 = peer.clock state
  create (uri : String) (setup : ChannelSetup) (state : σ) :
    peer.clock ((peer.surroundings.create uri setup).run state).2 = peer.clock state
  openChannel (channel : Nat) (state : σ) :
    peer.clock ((peer.surroundings.openChannel channel).run state).2 = peer.clock state
  adopt (channel : Nat) (state : σ) :
    peer.clock ((peer.surroundings.adopt channel).run state).2 = peer.clock state
  closeChannel (channel : Nat) (state : σ) :
    peer.clock ((peer.surroundings.closeChannel channel).run state).2 = peer.clock state
  write (channel : Nat) (bytes : Bytes) (state : σ) :
    peer.clock (((peer.line channel).write bytes).run state).2 = peer.clock state
  flush (channel : Nat) (state : σ) :
    peer.clock ((peer.line channel).flush.run state).2 = peer.clock state
  read (channel most : Nat) (state : σ) :
    peer.clock (((peer.line channel).read most).run state).2 = peer.clock state

def Instant (peer : Correspondence σ) (state next : σ) : Prop :=
  peer.Punctual → peer.clock next = peer.clock state

theorem Instant.refl (peer : Correspondence σ) (state : σ) : peer.Instant state state :=
  fun _ => rfl

theorem Instant.trans {peer : Correspondence σ} {state middle stop : σ}
    (first : peer.Instant state middle) (second : peer.Instant middle stop) :
    peer.Instant state stop :=
  fun punctual => (second punctual).trans (first punctual)

theorem Instant.of_eq {peer : Correspondence σ} {α : Type} {step : α × σ} {value : α}
    {state next : σ} (ends : step = (value, next))
    (still : peer.Punctual → peer.clock step.2 = peer.clock state) : peer.Instant state next := by
  rwa [ends] at still

section Exchanging

variable (peer : Correspondence σ) {post : Post} {channel : Nat} {state : σ}

theorem readAll_play {unread : Bytes} (fuel : Nat) (read : Bytes)
    (replying : peer.Replying post channel unread state) (enough : unread.length < fuel) : ∃ next,
    ((peer.line channel).readAll fuel read).play state = (.ok (.ok (read ++ unread)), next) ∧
      peer.Poised post (some channel) next ∧ peer.Instant state next := by
  -- A block that does not end the reply has an octet at least, so the fuel outlasts the reply.
  induction fuel generalizing unread read state with
  | zero => cases enough
  | succ fuel ih =>
    obtain ⟨block, rest, next, reads, rfl, ends, left⟩ :=
      peer.read_block (by decide : 0 < Line.blockLength) replying
    have instant : peer.Instant state next :=
      .of_eq reads fun punctual => punctual.read channel Line.blockLength state
    rw [Line.readAll, Run.play_bind, Run.play_lift, reads]
    cases block with
    | nil =>
      obtain rfl : rest = [] := ends rfl
      exact ⟨next, by rw [List.nil_append, List.append_nil]; rfl, peer.replying_end left, instant⟩
    | cons octet block =>
      have shorter : rest.length < fuel := by
        simp only [List.length_append, List.length_cons] at enough
        omega
      obtain ⟨stop, plays, poised, later⟩ := ih (read ++ octet :: block) left shorter
      exact ⟨stop, by rw [← List.append_assoc]; exact plays, poised, instant.trans later⟩

/-- A call gets the next response, and the peer receives one message more. -/
theorem call_play {received : List Bytes} {response : Response} {coming : List Response}
    {method : Method} {sequence : Int32} {arguments : List Json}
    (poised : peer.Poised ⟨received, response :: coming⟩ (some channel) state)
    (few : arguments.length ≤ Message.argumentLimit)
    (portable : ∀ argument ∈ arguments, Json.Portable 125 argument)
    (answerable : response.Portable)
    (short : (Message.encodeReply method.name sequence response).length < peer.blocks) :
    ∃ next,
      (peer.surroundings.call channel sequence method arguments).play state =
          (.ok (.ok response), next) ∧
        peer.Poised ⟨received ++ [Message.encodeCall method.name sequence arguments], coming⟩
          (some channel) next ∧
        peer.Instant state next := by
  obtain ⟨filled, writes, written⟩ :=
    peer.write_written (Message.encodeCall method.name sequence arguments) poised
  obtain ⟨sent, flushes, replying⟩ :=
    peer.flush_answered written (Message.decodeCall_eq_trimmed method.name sequence few portable)
  obtain ⟨next, reads, poised, later⟩ := peer.readAll_play peer.blocks [] replying short
  have filling : peer.Instant state filled :=
    .of_eq writes fun punctual => punctual.write channel _ state
  have sending : peer.Instant filled sent :=
    .of_eq flushes fun punctual => punctual.flush channel filled
  refine ⟨next, ?_, poised, filling.trans (sending.trans later)⟩
  rw [peer.call_eq, Line.exchange, Run.play_bind, Run.play_lift, writes]
  simp only
  rw [Run.play_bind, Run.play_lift, flushes]
  simp only
  rw [Run.play_bind_ok reads]
  simp only [List.nil_append]
  rw [Run.play_pure, Message.decodeReply_encodeReply method.name sequence answerable]

end Exchanging

end Correspondence

end SchedulerLink
