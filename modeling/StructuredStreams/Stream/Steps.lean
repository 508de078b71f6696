import StructuredStreams.Stream.Outcomes
import Mathlib.Logic.Relation

/-!
# What a transmission is made of

Every function that transmits is a sequence of small steps.  An invariant of
these steps holds wherever such a function gets to.
-/

namespace StructuredStreams.Stream

open World

theorem currentChannel_setTxEnqueuedChannel
    (world : World) (stream : StreamPtr) (enqueued : Bool)
    (other : StreamPtr) :
    (world.setTxEnqueuedChannel stream enqueued).currentChannel other =
      world.currentChannel other :=
  currentChannel_modifyStream world stream _ rfl rfl other

theorem currentChannel_setTxQueue
    (world : World) (stream : StreamPtr) (queue : List TxFrame)
    (other : StreamPtr) :
    (world.setTxQueue stream queue).currentChannel other =
      world.currentChannel other :=
  currentChannel_modifyStream world stream _ rfl rfl other

/-- The small steps of the functions that transmit. -/
inductive TxStep : World → World → Prop
  | tick (world : World) : TxStep world world.tick
  | join
      (world : World) (channel : ChannelPtr) (stream : StreamPtr) :
      world.currentChannel stream = some channel →
      (world.streams stream).txEnqueuedChannel = false →
      (world.streams stream).txQueue ≠ [] →
      TxStep world
        ((world.enqueueStream channel stream).setTxEnqueuedChannel
          stream true)
  | take
      (world : World) (channel : ChannelPtr) (stream : StreamPtr)
      (rest : List StreamPtr) :
      (world.channels channel).sendingStreams = stream :: rest →
      (world.streams stream).txEnqueuedChannel = true →
      world.currentChannel stream = some channel →
      TxStep world
        ((world.modifyChannel channel fun entry =>
            { entry with sendingStreams := rest }).setTxEnqueuedChannel
          stream false)
  | collect (world : World) (stream : StreamPtr) :
      (world.streams stream).txEnqueuedChannel = false →
      TxStep world (world.collectAcked stream)
  | charge (world : World) (stream : StreamPtr) (amount : Int) :
      TxStep world (world.addTxInflight stream amount)
  | adopt
      (world : World) (stream : StreamPtr) (channel : ChannelPtr) :
      TxStep world (world.adoptRoot stream channel)
  | send
      (world : World) (stream : StreamPtr) (channel : ChannelPtr)
      (head : TxFrame) (rest : List TxFrame) (pktseq : PacketSeq) :
      (world.streams stream).txQueue = head :: rest →
      (world.streams stream).txEnqueuedChannel = false →
      world.currentChannel stream = some channel →
      TxStep world
        (((world.setTxQueue stream rest).record
            (.transmitted stream channel head)).insertWaitingAck
          channel pktseq { head with late := false })
  | attach
      (world : World) (stream : StreamPtr) (channel : ChannelPtr)
      (pktseq : PacketSeq) :
      world.currentChannel stream = some channel →
      TxStep world
        (world.insertWaitingAck channel pktseq
          (TxFrame.create stream .stream))

abbrev TxSteps : World → World → Prop :=
  Relation.ReflTransGen TxStep

theorem txEnqueueChannel_steps
    {world next : World} {stream : StreamPtr}
    (returned : world.txEnqueueChannel stream = some next) :
    TxSteps world next := by
  unfold txEnqueueChannel at returned
  split at returned
  · cases returned
    exact Relation.ReflTransGen.refl
  · rw [bind_eq_some_iff] at returned
    obtain ⟨channel, current, returned⟩ := returned
    rw [guard_bind_eq_some_iff] at returned
    obtain ⟨_, returned⟩ := returned
    cases returned
    unfold joinSendingStreams
    split
    · exact Relation.ReflTransGen.refl
    · next notEnqueued =>
        split
        · exact Relation.ReflTransGen.refl
        · next waiting =>
            exact
              Relation.ReflTransGen.single
                (TxStep.join world channel stream current
                  (Bool.eq_false_iff.mpr notEnqueued)
                  (mt List.isEmpty_iff.mpr waiting))

private theorem txData_steps
    {env : Env} {world next : World} {stream : StreamPtr}
    {head : TxFrame} {rest : List TxFrame}
    (notEnqueued : (world.streams stream).txEnqueuedChannel = false)
    (queue : (world.streams stream).txQueue = head :: rest)
    (returned :
      txData env (world.setTxQueue stream rest) stream head = some next) :
    TxSteps world next := by
  unfold txData at returned
  rw [bind_eq_some_iff] at returned
  obtain ⟨channel, current, returned⟩ := returned
  rw [guard_bind_eq_some_iff] at returned
  obtain ⟨_, returned⟩ := returned
  rw [currentChannel_setTxQueue] at current
  have sent :=
    TxStep.send world stream channel head rest
      (env.packetSeq world.clock) queue notEnqueued current
  apply (Relation.ReflTransGen.single sent).trans
  dsimp only at returned
  split at returned
  · cases returned
    exact Relation.ReflTransGen.refl
  · exact txEnqueueChannel_steps returned

private theorem txAttachData_steps
    {env : Env} {world next : World} {stream : StreamPtr}
    (notEnqueued : (world.streams stream).txEnqueuedChannel = false)
    (returned : txAttachData env world stream = some next) :
    TxSteps world next := by
  unfold txAttachData at returned
  split at returned
  · cases returned
  · next head rest queue =>
      rw [guard_bind_eq_some_iff, guard_bind_eq_some_iff] at returned
      exact txData_steps notEnqueued queue returned.2.2

private theorem addTxInflight_txEnqueuedChannel
    (world : World) (stream : StreamPtr) (amount : Int)
    (other : StreamPtr) :
    ((world.addTxInflight stream amount).streams
        other).txEnqueuedChannel =
      (world.streams other).txEnqueuedChannel :=
  modifyStream_field world BaseStream.txEnqueuedChannel stream _ rfl other

/-- Whether or not the stream is a top-level one, at most its parent
changes. -/
theorem adoptRoot_eq
    (world : World) (stream : StreamPtr) (channel : ChannelPtr) :
    ∃ parent,
      world.adoptRoot stream channel =
        world.modifyStream stream fun entry =>
          { entry with parent := parent } := by
  unfold adoptRoot
  split
  · exact ⟨_, rfl⟩
  · refine ⟨(world.streams stream).parent, ?_⟩
    rw [modifyStream, Function.update_eq_self]

theorem adoptRoot_txEnqueuedChannel
    (world : World) (stream : StreamPtr) (channel : ChannelPtr)
    (other : StreamPtr) :
    ((world.adoptRoot stream channel).streams other).txEnqueuedChannel =
      (world.streams other).txEnqueuedChannel := by
  obtain ⟨parent, isAdopted⟩ := adoptRoot_eq world stream channel
  rw [isAdopted]
  exact
    modifyStream_field world BaseStream.txEnqueuedChannel stream _ rfl
      other

private theorem transmitHead_steps
    {env : Env} {world next : World} {stream : StreamPtr}
    {channel : ChannelPtr} {slot : Slot}
    (notEnqueued : (world.streams stream).txEnqueuedChannel = false)
    (returned : transmitHead env world stream channel slot = some next) :
    TxSteps world next := by
  unfold transmitHead at returned
  split at returned
  · cases returned
    exact Relation.ReflTransGen.refl
  · next head rest queue =>
      simp only at returned
      split at returned
      · rw [guard_bind_eq_some_iff, guard_bind_eq_some_iff] at returned
        obtain ⟨_, _, returned⟩ := returned
        have charged :=
          TxStep.charge world stream (head.payloadSize : Int)
        apply (Relation.ReflTransGen.single charged).trans
        refine txData_steps ?_ ?_ returned
        · rw [addTxInflight_txEnqueuedChannel, notEnqueued]
        · simp [addTxInflight, queue]
      · have adopted := TxStep.adopt world stream channel
        apply (Relation.ReflTransGen.single adopted).trans
        rw [← adoptRoot_txEnqueuedChannel world stream channel]
          at notEnqueued
        split at returned
        · next parent _ =>
            rw [← addTxInflight_txEnqueuedChannel _ parent] at notEnqueued
            exact
              (Relation.ReflTransGen.single
                (TxStep.charge _ parent _)).trans
                (txAttachData_steps notEnqueued returned)
        · split at returned
          · rw [← addTxInflight_txEnqueuedChannel _ stream]
              at notEnqueued
            exact
              (Relation.ReflTransGen.single
                (TxStep.charge _ stream _)).trans
                (txAttachData_steps notEnqueued returned)
          · unfold txAttach at returned
            rw [bind_eq_some_iff] at returned
            obtain ⟨attached, current, returned⟩ := returned
            cases returned
            exact
              Relation.ReflTransGen.single
                (TxStep.attach _ stream attached _ current)

theorem transmitOn_eq_some
    {env : Env} {world next : World} {stream : StreamPtr}
    {channel : ChannelPtr}
    (returned : transmitOn env world stream channel = some next) :
    (world.streams stream).txEnqueuedChannel = true ∧
      world.currentChannel stream = some channel ∧
      TxSteps (world.setTxEnqueuedChannel stream false) next := by
  unfold transmitOn at returned
  rw [guard_bind_eq_some_iff, bind_eq_some_iff] at returned
  obtain ⟨enqueued, slot, _, returned⟩ := returned
  rw [guard_bind_eq_some_iff, guard_bind_eq_some_iff] at returned
  obtain ⟨current, _, returned⟩ := returned
  refine ⟨enqueued, current, ?_⟩
  have left :
      ((world.setTxEnqueuedChannel stream false).streams
        stream).txEnqueuedChannel = false := by
    rw [setTxEnqueuedChannel, modifyStream_streams_self]
  have collected :=
    TxStep.collect (world.setTxEnqueuedChannel stream false) stream left
  apply (Relation.ReflTransGen.single collected).trans
  refine transmitHead_steps ?_ returned
  rw [collectAcked, setTxQueue, modifyStream_streams_self]
  exact left

private theorem readyTransmitLoop_steps
    {env : Env} {channel : ChannelPtr} {fuel : Nat}
    {world next : World}
    (returned : readyTransmitLoop env channel fuel world = some next) :
    TxSteps world next := by
  induction fuel generalizing world with
  | zero =>
      cases returned
  | succ fuel inductionHypothesis =>
      unfold readyTransmitLoop at returned
      split at returned
      · cases returned
      · next stream rest sending =>
          rw [bind_eq_some_iff] at returned
          obtain ⟨middle, transmitted, returned⟩ := returned
          obtain ⟨enqueued, current, steps⟩ :=
            transmitOn_eq_some transmitted
          have taken :=
            TxStep.take world channel stream rest sending enqueued current
          apply ((Relation.ReflTransGen.single taken).trans steps).trans
          split at returned
          · cases returned
            exact Relation.ReflTransGen.refl
          · apply (Relation.ReflTransGen.single (TxStep.tick middle)).trans
            split at returned
            · exact inductionHypothesis returned
            · cases returned
              exact Relation.ReflTransGen.refl

theorem gotReadyTransmit_steps
    {env : Env} {channel : ChannelPtr} {world next : World}
    (returned : gotReadyTransmit env world channel = some next) :
    TxSteps world next := by
  unfold gotReadyTransmit at returned
  split at returned
  · cases returned
    exact Relation.ReflTransGen.refl
  · exact readyTransmitLoop_steps returned

theorem txEnqueueChannelNow_steps
    {env : Env} {world next : World} {stream : StreamPtr}
    (returned : txEnqueueChannelNow env world stream = some next) :
    TxSteps world next := by
  unfold txEnqueueChannelNow at returned
  rw [bind_eq_some_iff] at returned
  obtain ⟨middle, joined, returned⟩ := returned
  apply (txEnqueueChannel_steps joined).trans
  split at returned
  · cases returned
    exact Relation.ReflTransGen.refl
  · apply (Relation.ReflTransGen.single (TxStep.tick middle)).trans
    split at returned
    · exact gotReadyTransmit_steps returned
    · cases returned
      exact Relation.ReflTransGen.refl

/-- Transmissions change only four fields of a stream. -/
theorem TxStep.stream_field
    {β : Type} {field : BaseStream → β}
    (enqueued :
      ∀ entry flag,
        field { entry with txEnqueuedChannel := flag } = field entry)
    (queued :
      ∀ entry queue, field { entry with txQueue := queue } = field entry)
    (charged :
      ∀ entry amount,
        field { entry with txInflight := amount } = field entry)
    (adopted :
      ∀ entry parent, field { entry with parent := parent } = field entry)
    {world next : World} (step : TxStep world next)
    (stream : StreamPtr) :
    field (next.streams stream) = field (world.streams stream) := by
  cases step with
  | tick | attach =>
      rfl
  | join channel joined current notEnqueued =>
      refine modifyStream_field _ field joined _ ?_ stream
      exact enqueued _ _
  | take channel taken rest sending isEnqueued current =>
      refine modifyStream_field _ field taken _ ?_ stream
      exact enqueued _ _
  | collect collected =>
      rw [collectAcked, setTxQueue]
      refine modifyStream_field _ field collected _ ?_ stream
      exact queued _ _
  | charge payer amount =>
      refine modifyStream_field _ field payer _ ?_ stream
      exact charged _ _
  | adopt child channel =>
      obtain ⟨parent, isAdopted⟩ := adoptRoot_eq world child channel
      rw [isAdopted]
      refine modifyStream_field _ field child _ ?_ stream
      exact adopted _ _
  | send sender channel head rest pktseq queue =>
      rw [insertWaitingAck, tick_streams, modifyChannel_streams,
        record_streams, setTxQueue]
      refine modifyStream_field _ field sender _ ?_ stream
      exact queued _ _

theorem TxSteps.stream_field
    {β : Type} {field : BaseStream → β}
    (enqueued :
      ∀ entry flag,
        field { entry with txEnqueuedChannel := flag } = field entry)
    (queued :
      ∀ entry queue, field { entry with txQueue := queue } = field entry)
    (charged :
      ∀ entry amount,
        field { entry with txInflight := amount } = field entry)
    (adopted :
      ∀ entry parent, field { entry with parent := parent } = field entry)
    {world next : World} (steps : TxSteps world next)
    (stream : StreamPtr) :
    field (next.streams stream) = field (world.streams stream) := by
  induction steps with
  | refl =>
      rfl
  | tail _ step inductionHypothesis =>
      rw [← inductionHypothesis]
      exact step.stream_field enqueued queued charged adopted stream

/-- Transmissions change only the queue and the table of a channel. -/
theorem TxStep.channel_field
    {β : Type} {field : StreamChannel → β}
    (queued :
      ∀ entry sending,
        field { entry with sendingStreams := sending } = field entry)
    (entered :
      ∀ entry table,
        field { entry with waitingAck := table } = field entry)
    {world next : World} (step : TxStep world next)
    (channel : ChannelPtr) :
    field (next.channels channel) = field (world.channels channel) := by
  cases step with
  | tick | collect | charge =>
      rfl
  | adopt stream parentChannel =>
      obtain ⟨parent, isAdopted⟩ := adoptRoot_eq world stream parentChannel
      rw [isAdopted, modifyStream_channels]
  | join joined stream current notEnqueued =>
      rw [setTxEnqueuedChannel, modifyStream_channels, enqueueStream]
      refine modifyChannel_field _ field joined _ ?_ channel
      exact queued _ _
  | take taken stream rest sending enqueued current =>
      rw [setTxEnqueuedChannel, modifyStream_channels]
      refine modifyChannel_field _ field taken _ ?_ channel
      exact queued _ _
  | send stream used head rest pktseq queue =>
      rw [insertWaitingAck, tick_channels]
      refine modifyChannel_field _ field used _ ?_ channel
      exact entered _ _
  | attach stream used pktseq =>
      rw [insertWaitingAck, tick_channels]
      refine modifyChannel_field _ field used _ ?_ channel
      exact entered _ _

theorem TxSteps.channel_field
    {β : Type} {field : StreamChannel → β}
    (queued :
      ∀ entry sending,
        field { entry with sendingStreams := sending } = field entry)
    (entered :
      ∀ entry table,
        field { entry with waitingAck := table } = field entry)
    {world next : World} (steps : TxSteps world next)
    (channel : ChannelPtr) :
    field (next.channels channel) = field (world.channels channel) := by
  induction steps with
  | refl =>
      rfl
  | tail _ step inductionHypothesis =>
      rw [← inductionHypothesis]
      exact step.channel_field queued entered channel

theorem insertWaitingAck_sendingStreams
    (world : World) (current : ChannelPtr) (pktseq : PacketSeq)
    (frame : TxFrame) (channel : ChannelPtr) :
    ((world.insertWaitingAck current pktseq frame).channels
        channel).sendingStreams =
      (world.channels channel).sendingStreams := by
  rw [insertWaitingAck, tick_channels]
  exact
    modifyChannel_field world (fun entry => entry.sendingStreams) current _
      rfl channel

theorem unregister_streams_self
    (world : World) (stream : StreamPtr) (slot : Slot)
    (channel : ChannelPtr) (sid : LocalStreamId) :
    (world.unregister stream slot channel sid).streams stream =
      { world.streams stream with
        txCurrentAttachment :=
          if (world.streams stream).txCurrentAttachment = some slot then
            none
          else (world.streams stream).txCurrentAttachment
        txAttachments :=
          Function.update (world.streams stream).txAttachments slot
            { (world.streams stream).txAttachments slot with
              channel := none
              active := false }
        txEnqueuedChannel := false } := by
  simp only [unregister, setTxEnqueuedChannel, setTxAttachment,
    dequeueStream, modifyStream_streams_self, modifyChannel_streams,
    record_streams]
  congr

theorem unregister_streams_of_ne
    (world : World) {stream other : StreamPtr}
    (different : other ≠ stream) (slot : Slot)
    (channel : ChannelPtr) (sid : LocalStreamId) :
    (world.unregister stream slot channel sid).streams other =
      world.streams other := by
  simp [unregister, setTxEnqueuedChannel, setTxAttachment, dequeueStream,
    modifyStream_streams_of_ne _ different]

theorem unregister_txQueue
    (world : World) (stream : StreamPtr) (slot : Slot)
    (channel : ChannelPtr) (sid : LocalStreamId) (other : StreamPtr) :
    ((world.unregister stream slot channel sid).streams other).txQueue =
      (world.streams other).txQueue := by
  by_cases same : other = stream
  · subst other
    rw [unregister_streams_self]
  · rw [unregister_streams_of_ne world same]

theorem unregister_channels_self
    (world : World) (stream : StreamPtr) (slot : Slot)
    (channel : ChannelPtr) (sid : LocalStreamId) :
    (world.unregister stream slot channel sid).channels channel =
      { world.channels channel with
        transmitSids :=
          (world.channels channel).transmitSids.filter (·.1 ≠ sid)
        sendingStreams :=
          (world.channels channel).sendingStreams.filter
            (· ≠ stream) } := by
  simp [unregister, setTxEnqueuedChannel, setTxAttachment, dequeueStream]

theorem unregister_channels_of_ne
    (world : World) (stream : StreamPtr) (slot : Slot)
    {channel other : ChannelPtr} (different : other ≠ channel)
    (sid : LocalStreamId) :
    (world.unregister stream slot channel sid).channels other =
      world.channels other := by
  simp [unregister, setTxEnqueuedChannel, setTxAttachment, dequeueStream,
    modifyChannel_channels_of_ne _ different]

/-! ## All calls -/

/-- The entry that a report to its owner is about. -/
def Event.entry : Event → Option Nat
  | .missed id => some id
  | .acknowledged id => some id
  | .expired id => some id
  | _ => none

/-- A change that leaves alone the queues, the flags that mirror them and
what is attached where. -/
structure KeepsQueues (world next : World) : Prop where
  txQueue :
    ∀ stream,
      (next.streams stream).txQueue = (world.streams stream).txQueue
  txEnqueuedChannel :
    ∀ stream,
      (next.streams stream).txEnqueuedChannel =
        (world.streams stream).txEnqueuedChannel
  txCurrentAttachment :
    ∀ stream,
      (next.streams stream).txCurrentAttachment =
        (world.streams stream).txCurrentAttachment
  attachedChannel :
    ∀ stream slot,
      ((next.streams stream).txAttachments slot).channel =
        ((world.streams stream).txAttachments slot).channel
  streamId :
    ∀ stream slot,
      ((next.streams stream).txAttachments slot).streamId =
        ((world.streams stream).txAttachments slot).streamId
  sendingStreams :
    ∀ channel,
      (next.channels channel).sendingStreams =
        (world.channels channel).sendingStreams
  transmitSids :
    ∀ channel,
      (next.channels channel).transmitSids =
        (world.channels channel).transmitSids
  clock : world.clock ≤ next.clock
  log :
    next.log = world.log ∨
      ∃ event, next.log = event :: world.log

/-- The small steps that report nothing to an owner, take nothing from a
`waiting_ack_` table and detach no stream. -/
inductive QuietStep : World → World → Prop
  | transmit {world next : World} :
      TxStep world next → QuietStep world next
  | insertPacket
      (world : World) (stream : StreamPtr) (frame : TxFrame) :
      frame.owner = some stream →
      QuietStep world (world.insertPacket stream frame)
  | reprioritise
      (world : World) (channel : ChannelPtr) (stream : StreamPtr) :
      (world.streams stream).txEnqueuedChannel = true →
      world.currentChannel stream = some channel →
      QuietStep world
        ((world.dequeueStream channel stream).enqueueStream
          channel stream)
  | setAttaching
      (world : World) (stream : StreamPtr) (slot : Slot)
      (channel : ChannelPtr) (attachment : TxAttachment) :
      ((world.streams stream).txAttachments slot).channel = none →
      (world.channels channel).transmitSids.lookup attachment.streamId =
        none →
      attachment.channel = some channel →
      QuietStep world
        ((world.setTxAttachment stream slot
          fun _ => attachment).modifyChannel channel fun entry =>
            { entry with
              transmitSids :=
                (attachment.streamId, stream, slot) ::
                  entry.transmitSids })
  | setCurrent
      (world : World) (stream : StreamPtr) (slot : Slot) :
      (world.streams stream).txCurrentAttachment = none →
      ((world.streams stream).txAttachments slot).channel ≠ none →
      QuietStep world
        (world.modifyStream stream fun entry =>
          { entry with txCurrentAttachment := some slot })
  | other {world next : World} :
      KeepsQueues world next →
      (∀ channel,
        (next.channels channel).waitingAck =
          (world.channels channel).waitingAck) →
      next.log = world.log →
      QuietStep world next

/-- The small steps of all calls: `account` stands for taking entries from
the `waiting_ack_` tables and for the reports on them. -/
inductive Step : World → World → Prop
  | quiet {world next : World} : QuietStep world next → Step world next
  | unregister
      (world : World) (stream : StreamPtr) (slot : Slot)
      (channel : ChannelPtr) (sid : LocalStreamId) :
      ((world.streams stream).txAttachments slot).channel = some channel →
      (world.channels channel).transmitSids.lookup sid =
        some (stream, slot) →
      Step world (world.unregister stream slot channel sid)
  | account {world next : World} :
      KeepsQueues world next →
      (∀ channel,
        (next.channels channel).waitingAck.Sublist
          (world.channels channel).waitingAck) →
      Step world next

abbrev QuietSteps : World → World → Prop :=
  Relation.ReflTransGen QuietStep

abbrev Steps : World → World → Prop :=
  Relation.ReflTransGen Step

/-- What is shown of every step from a world that satisfies the invariant
holds at the end. -/
theorem Steps.preserves
    {invariant : World → Prop}
    (preserved :
      ∀ before after, Step before after →
        invariant before → invariant after)
    {world next : World} (steps : Steps world next)
    (initial : invariant world) :
    invariant next := by
  induction steps with
  | refl =>
      exact initial
  | tail _ step inductionHypothesis =>
      exact preserved _ _ step inductionHypothesis

theorem TxStep.log_extends
    {world next : World} (step : TxStep world next) :
    next.log = world.log ∨
      ∃ event, event.entry = none ∧ next.log = event :: world.log := by
  cases step with
  | send stream channel head rest pktseq queue =>
      exact Or.inr ⟨.transmitted stream channel head, rfl, rfl⟩
  | adopt stream channel =>
      obtain ⟨parent, isAdopted⟩ := adoptRoot_eq world stream channel
      rw [isAdopted]
      exact Or.inl rfl
  | tick | join | take | collect | charge | attach =>
      exact Or.inl rfl

theorem TxStep.clock_le
    {world next : World} (step : TxStep world next) :
    world.clock ≤ next.clock := by
  cases step with
  | tick =>
      exact Nat.le_succ _
  | send | attach =>
      exact Nat.le_succ _
  | adopt stream channel =>
      obtain ⟨parent, isAdopted⟩ := adoptRoot_eq world stream channel
      rw [isAdopted, modifyStream_clock]
  | join | take | collect | charge =>
      exact Nat.le_refl _

/-- A quiet step adds at most one event, which reports nothing. -/
theorem QuietStep.log_extends
    {world next : World} (step : QuietStep world next) :
    next.log = world.log ∨
      ∃ event, event.entry = none ∧ next.log = event :: world.log := by
  cases step with
  | transmit step =>
      exact step.log_extends
  | insertPacket =>
      exact Or.inr ⟨_, rfl, rfl⟩
  | reprioritise | setAttaching | setCurrent =>
      exact Or.inl rfl
  | other _ _ sameLog =>
      exact Or.inl sameLog

theorem QuietStep.clock_le
    {world next : World} (step : QuietStep world next) :
    world.clock ≤ next.clock := by
  cases step with
  | transmit step =>
      exact step.clock_le
  | other keeps =>
      exact keeps.clock
  | insertPacket =>
      exact Nat.le_succ _
  | reprioritise | setAttaching | setCurrent =>
      exact Nat.le_refl _

/-- A step adds at most one event to the history. -/
theorem Step.log_extends
    {world next : World} (step : Step world next) :
    next.log = world.log ∨ ∃ event, next.log = event :: world.log := by
  cases step with
  | quiet step =>
      exact
        step.log_extends.imp_right fun ⟨event, _, longer⟩ =>
          ⟨event, longer⟩
  | unregister =>
      exact Or.inr ⟨_, rfl⟩
  | account keeps =>
      exact keeps.log

theorem Step.clock_le
    {world next : World} (step : Step world next) :
    world.clock ≤ next.clock := by
  cases step with
  | quiet step =>
      exact step.clock_le
  | unregister =>
      exact Nat.le_refl _
  | account keeps =>
      exact keeps.clock

theorem TxSteps.quietSteps
    {world next : World} (steps : TxSteps world next) :
    QuietSteps world next :=
  steps.lift id fun _ _ => QuietStep.transmit

theorem QuietSteps.steps
    {world next : World} (steps : QuietSteps world next) :
    Steps world next :=
  steps.lift id fun _ _ => Step.quiet

theorem foldlM_steps
    {α : Type} {step : World → World → Prop}
    {pass : World → α → Option World} {items : List α}
    {world next : World}
    (passSteps :
      ∀ before item after,
        pass before item = some after →
        Relation.ReflTransGen step before after)
    (folded : items.foldlM pass world = some next) :
    Relation.ReflTransGen step world next :=
  foldlM_related (fun _ => Relation.ReflTransGen.refl)
    Relation.ReflTransGen.trans passSteps folded

/-- Changing other fields of one stream keeps all queues. -/
theorem keepsQueues_modifyStream
    (world : World) (stream : StreamPtr)
    (change : BaseStream → BaseStream)
    (txQueue :
      (change (world.streams stream)).txQueue =
        (world.streams stream).txQueue)
    (txEnqueuedChannel :
      (change (world.streams stream)).txEnqueuedChannel =
        (world.streams stream).txEnqueuedChannel)
    (txCurrentAttachment :
      (change (world.streams stream)).txCurrentAttachment =
        (world.streams stream).txCurrentAttachment)
    (attached :
      ∀ slot,
        ((change (world.streams stream)).txAttachments slot).channel =
            ((world.streams stream).txAttachments slot).channel ∧
          ((change (world.streams stream)).txAttachments slot).streamId =
            ((world.streams stream).txAttachments slot).streamId) :
    KeepsQueues world (world.modifyStream stream change) where
  txQueue :=
    modifyStream_field world BaseStream.txQueue stream change txQueue
  txEnqueuedChannel :=
    modifyStream_field world BaseStream.txEnqueuedChannel stream change
      txEnqueuedChannel
  txCurrentAttachment :=
    modifyStream_field world BaseStream.txCurrentAttachment stream change
      txCurrentAttachment
  attachedChannel := fun other slot =>
    modifyStream_field world
      (fun entry => (entry.txAttachments slot).channel) stream change
      (attached slot).1 other
  streamId := fun other slot =>
    modifyStream_field world
      (fun entry => (entry.txAttachments slot).streamId) stream change
      (attached slot).2 other
  sendingStreams := fun _ => rfl
  transmitSids := fun _ => rfl
  clock := Nat.le_refl _
  log := Or.inl rfl

/-- Changing other fields of one channel keeps all queues. -/
theorem keepsQueues_modifyChannel
    (world : World) (channel : ChannelPtr)
    (change : StreamChannel → StreamChannel)
    (sendingStreams :
      (change (world.channels channel)).sendingStreams =
        (world.channels channel).sendingStreams)
    (transmitSids :
      (change (world.channels channel)).transmitSids =
        (world.channels channel).transmitSids) :
    KeepsQueues world (world.modifyChannel channel change) where
  txQueue := fun _ => rfl
  txEnqueuedChannel := fun _ => rfl
  txCurrentAttachment := fun _ => rfl
  attachedChannel := fun _ _ => rfl
  streamId := fun _ _ => rfl
  sendingStreams :=
    modifyChannel_field world StreamChannel.sendingStreams channel change
      sendingStreams
  transmitSids :=
    modifyChannel_field world StreamChannel.transmitSids channel change
      transmitSids
  clock := Nat.le_refl _
  log := Or.inl rfl

theorem keepsQueues_tick (world : World) :
    KeepsQueues world world.tick where
  txQueue := fun _ => rfl
  txEnqueuedChannel := fun _ => rfl
  txCurrentAttachment := fun _ => rfl
  attachedChannel := fun _ _ => rfl
  streamId := fun _ _ => rfl
  sendingStreams := fun _ => rfl
  transmitSids := fun _ => rfl
  clock := Nat.le_succ _
  log := Or.inl rfl

theorem keepsQueues_record (world : World) (event : Event) :
    KeepsQueues world (world.record event) where
  txQueue := fun _ => rfl
  txEnqueuedChannel := fun _ => rfl
  txCurrentAttachment := fun _ => rfl
  attachedChannel := fun _ _ => rfl
  streamId := fun _ _ => rfl
  sendingStreams := fun _ => rfl
  transmitSids := fun _ => rfl
  clock := Nat.le_refl _
  log := Or.inr ⟨event, rfl⟩

private theorem quietSteps_modifyStream
    (world : World) (stream : StreamPtr)
    (change : BaseStream → BaseStream)
    (txQueue :
      (change (world.streams stream)).txQueue =
        (world.streams stream).txQueue)
    (txEnqueuedChannel :
      (change (world.streams stream)).txEnqueuedChannel =
        (world.streams stream).txEnqueuedChannel)
    (txCurrentAttachment :
      (change (world.streams stream)).txCurrentAttachment =
        (world.streams stream).txCurrentAttachment)
    (attached :
      ∀ slot,
        ((change (world.streams stream)).txAttachments slot).channel =
            ((world.streams stream).txAttachments slot).channel ∧
          ((change (world.streams stream)).txAttachments slot).streamId =
            ((world.streams stream).txAttachments slot).streamId) :
    QuietSteps world (world.modifyStream stream change) :=
  Relation.ReflTransGen.single
    (QuietStep.other
      (keepsQueues_modifyStream world stream change txQueue
        txEnqueuedChannel txCurrentAttachment attached)
      (fun _ => rfl) rfl)

theorem quietSteps_modifyChannel
    (world : World) (channel : ChannelPtr)
    (change : StreamChannel → StreamChannel)
    (sendingStreams :
      (change (world.channels channel)).sendingStreams =
        (world.channels channel).sendingStreams)
    (transmitSids :
      (change (world.channels channel)).transmitSids =
        (world.channels channel).transmitSids)
    (waitingAck :
      (change (world.channels channel)).waitingAck =
        (world.channels channel).waitingAck) :
    QuietSteps world (world.modifyChannel channel change) :=
  Relation.ReflTransGen.single
    (QuietStep.other
      (keepsQueues_modifyChannel world channel change sendingStreams
        transmitSids)
      (modifyChannel_field world StreamChannel.waitingAck channel change
        waitingAck)
      rfl)

theorem quietSteps_tick (world : World) : QuietSteps world world.tick :=
  Relation.ReflTransGen.single (QuietStep.transmit (TxStep.tick world))

/-- Setting a table to a part of itself. -/
theorem shrinkTable_steps
    (world : World) (channel : ChannelPtr)
    (change :
      List (PacketSeq × WaitingFrame) → List (PacketSeq × WaitingFrame))
    (shorter :
      (change (world.channels channel).waitingAck).Sublist
        (world.channels channel).waitingAck) :
    Steps world
      (world.modifyChannel channel fun entry =>
        { entry with waitingAck := change entry.waitingAck }) := by
  refine
    Relation.ReflTransGen.single
      (Step.account (keepsQueues_modifyChannel world channel _ rfl rfl) ?_)
  intro other
  by_cases same : other = channel
  · subst other
    rw [modifyChannel_channels_self]
    exact shorter
  · simp [modifyChannel_channels_of_ne world same]

theorem eraseWaitingAck_steps
    (world : World) (channel : ChannelPtr) (pktseq : PacketSeq) :
    Steps world (world.eraseWaitingAck channel pktseq) :=
  shrinkTable_steps world channel
    (fun table => table.filter (·.1 ≠ pktseq)) List.filter_sublist

theorem record_steps (world : World) (event : Event) :
    Steps world (world.record event) :=
  Relation.ReflTransGen.single
    (Step.account (keepsQueues_record world event)
      fun _ => List.Sublist.refl _)

/-- An entry goes back to its owner: the report is followed by an insertion,
where the type of the frame is the one that is sent again, and by
transmissions. -/
def Returned
    (world : World) (owner : StreamPtr) (entry : WaitingFrame)
    (next : World) : Prop :=
  if entry.frame.type = .empty then
    TxSteps
      ((world.record (.missed entry.id)).insertPacket owner
        { entry.frame with late := true })
      next
  else TxSteps (world.record (.missed entry.id)) next

theorem baseMissed_returned
    {env : Env} {world next : World} {owner : StreamPtr}
    {entry : WaitingFrame} {kept : Bool}
    (missed :
      (world.record (.missed entry.id)).baseMissed env owner
        { entry.frame with late := true } = some (kept, next)) :
    Returned world owner entry next := by
  unfold baseMissed at missed
  rw [guard_bind_eq_some_iff] at missed
  obtain ⟨_, missed⟩ := missed
  unfold Returned
  split at missed
  · next isEmpty =>
      rw [if_pos isEmpty]
      rw [bind_eq_some_iff] at missed
      obtain ⟨middle, enqueued, missed⟩ := missed
      cases missed
      exact txEnqueueChannelNow_steps enqueued
  · next isStream =>
      rw [if_neg (by rw [isStream]; decide)]
      rw [bind_eq_some_iff] at missed
      obtain ⟨middle, enqueued, missed⟩ := missed
      cases missed
      exact txEnqueueChannel_steps enqueued
  · next isAck =>
      rw [if_neg (by rw [isAck]; decide)]
      rw [guard_bind_eq_some_iff] at missed
      obtain ⟨_, missed⟩ := missed
      cases missed
      exact Relation.ReflTransGen.single (TxStep.charge _ owner _)
  · next notEmpty _ _ =>
      rw [if_neg notEmpty]
      cases missed
      exact Relation.ReflTransGen.refl

theorem Returned.quietSteps
    {world next : World} {owner : StreamPtr} {entry : WaitingFrame}
    (returned : Returned world owner entry next)
    (owned : entry.frame.owner = some owner) :
    QuietSteps (world.record (.missed entry.id)) next := by
  unfold Returned at returned
  split at returned
  · have inserted :=
      QuietStep.insertPacket (world.record (.missed entry.id)) owner
        { entry.frame with late := true } owned
    exact (Relation.ReflTransGen.single inserted).trans returned.quietSteps
  · exact returned.quietSteps

theorem Returned.steps
    {world next : World} {owner : StreamPtr} {entry : WaitingFrame}
    (returned : Returned world owner entry next)
    (owned : entry.frame.owner = some owner) :
    Steps world next :=
  (record_steps world (.missed entry.id)).trans
    (returned.quietSteps owned).steps

/-! ## Frames that are handed back -/

/-- A relation between worlds that holds across whatever is done with an
entry of a `waiting_ack_` table. -/
structure AcrossReturns (related : World → World → Prop) : Prop where
  refl : ∀ world, related world world
  trans :
    ∀ {world middle next},
      related world middle → related middle next → related world next
  record : ∀ world event, related world (world.record event)
  erase :
    ∀ world channel pktseq,
      related world (world.eraseWaitingAck channel pktseq)
  returned :
    ∀ {world owner entry next},
      Returned world owner entry next →
      entry.frame.owner = some owner →
      related world next

namespace AcrossReturns

variable {related : World → World → Prop}
variable {env : Env} {channel : ChannelPtr} {world next : World}

theorem acknowledgedOne
    (across : AcrossReturns related) {txseq : PacketSeq}
    (returned : acknowledgedOne channel world txseq = some next) :
    related world next := by
  rcases acknowledgedOne_eq_some returned with
    unchanged | ⟨entry, _, erased⟩
  · rw [unchanged]
    exact across.refl world
  · rw [erased]
    exact
      across.trans (across.erase world channel txseq)
        (across.record _ (.acknowledged entry.id))

theorem expireOne
    (across : AcrossReturns related) (channel : ChannelPtr)
    (world : World) (txseq : PacketSeq) :
    related world (expireOne channel world txseq) := by
  rcases expireOne_cases channel world txseq with
    unchanged | erased | ⟨entry, _, erased⟩
  · rw [unchanged]
    exact across.refl world
  · rw [erased]
    exact across.erase world channel txseq
  · rw [erased]
    exact
      across.trans (across.erase world channel txseq)
        (across.record _ (.expired entry.id))

theorem missedOne
    (across : AcrossReturns related) {txseq : PacketSeq}
    (returned : missedOne env channel world txseq = some next) :
    related world next := by
  rcases missedOne_eq_some returned with
    ⟨unchanged, _⟩ | ⟨entry, owner, kept, middle, _, owned, missed, ends⟩
  · rw [unchanged]
    exact across.refl world
  · have handed := across.returned (baseMissed_returned missed) owned
    rcases ends with same | erased
    · rw [same]
      exact handed
    · rw [erased]
      exact across.trans handed (across.erase middle channel txseq)

theorem returnFrame
    (across : AcrossReturns related) {owner : StreamPtr}
    {entry : WaitingFrame} (owned : entry.frame.owner = some owner)
    (returned : world.returnFrame env owner entry = some next) :
    related world next := by
  unfold World.returnFrame at returned
  split at returned
  · cases returned
    exact across.record world (.expired entry.id)
  · rw [bind_eq_some_iff] at returned
    obtain ⟨⟨kept, middle⟩, missed, returned⟩ := returned
    cases returned
    exact across.returned (baseMissed_returned missed) owned

theorem clearEntry
    (across : AcrossReturns related) {stream : StreamPtr}
    {copied : PacketSeq × WaitingFrame}
    (returned :
      clearEntry env stream channel world copied = some next) :
    related world next := by
  unfold World.clearEntry at returned
  rw [guard_bind_eq_some_iff] at returned
  obtain ⟨_, returned⟩ := returned
  split at returned
  · cases returned
    exact across.refl world
  · next owned =>
      rw [bind_eq_some_iff] at returned
      obtain ⟨middle, handed, returned⟩ := returned
      cases returned
      exact
        across.trans (across.returnFrame (not_ne_iff.mp owned) handed)
          (across.erase middle channel copied.1)

theorem detachEntry
    (across : AcrossReturns related) {copied : PacketSeq × WaitingFrame}
    (returned : detachEntry env world copied = some next) :
    related world next := by
  unfold World.detachEntry at returned
  rw [bind_eq_some_iff] at returned
  obtain ⟨owner, owned, returned⟩ := returned
  exact across.returnFrame owned returned

end AcrossReturns

theorem steps_acrossReturns : AcrossReturns Steps where
  refl := fun _ => Relation.ReflTransGen.refl
  trans := Relation.ReflTransGen.trans
  record := record_steps
  erase := eraseWaitingAck_steps
  returned := Returned.steps

theorem clear_steps
    {env : Env} {world next : World} {stream : StreamPtr} {slot : Slot}
    (returned : clear env world stream slot = some next) :
    Steps world next := by
  unfold clear at returned
  dsimp only at returned
  split at returned
  · cases returned
    exact Relation.ReflTransGen.refl
  · next channel attached =>
      rw [guard_bind_eq_some_iff] at returned
      obtain ⟨registered, returned⟩ := returned
      have unregistered :=
        Step.unregister world stream slot channel
          ((world.streams stream).txAttachments slot).streamId attached
          registered
      have ticked :=
        (Relation.ReflTransGen.single unregistered).trans
          (quietSteps_tick _).steps
      have handedBack :=
        foldlM_steps (fun _ _ _ => steps_acrossReturns.clearEntry) returned
      exact ticked.trans handedBack

theorem rxClear_steps
    {world next : World} {stream : StreamPtr} {slot : Slot}
    (returned : rxClear world stream slot = some next) :
    QuietSteps world next := by
  rcases rxClear_eq_some returned with
    ⟨_, unchanged⟩ | ⟨channel, _, cleared⟩
  · rw [unchanged]
  · rw [cleared]
    refine
      Relation.ReflTransGen.trans ?_
        (quietSteps_modifyStream _ stream _ rfl rfl rfl fun _ =>
          ⟨rfl, rfl⟩)
    exact quietSteps_modifyChannel world channel _ rfl rfl rfl

private theorem clearAll_steps
    {env : Env} {world next : World}
    {sids : List (LocalStreamId × StreamPtr × Slot)}
    (returned : clearAll env world sids = some next) :
    Steps world next :=
  foldlM_steps (fun _ _ _ => clear_steps) returned

theorem detachAll_steps
    {env : Env} {world next : World} {channel : ChannelPtr}
    (returned : detachAll env world channel = some next) :
    Steps world next := by
  obtain ⟨middle, copies, sids, _, _, cleared, returned⟩ :=
    detachAll_eq_some returned
  have emptied :=
    shrinkTable_steps world channel (fun _ => []) (List.nil_sublist _)
  have ticked :=
    (emptied.trans (quietSteps_tick _).steps).trans
      (quietSteps_tick _).steps
  have detached := ticked.trans (clearAll_steps cleared)
  have handedBack :=
    foldlM_steps (fun _ _ _ => steps_acrossReturns.detachEntry) returned
  exact detached.trans handedBack

theorem stop_steps
    {env : Env} {world next : World} {channel : ChannelPtr}
    (returned : stop env world channel = some next) :
    Steps world next := by
  obtain ⟨middle, sids, rsids, pass, rxPass, _, _, passes, rxPasses,
    cleared, returned⟩ := stop_eq_some returned
  have stopped :=
    (quietSteps_modifyChannel world channel
      (fun entry => { entry with active := false }) rfl rfl rfl).steps
  have detached : Steps world middle := by
    apply (stopped.trans (quietSteps_tick _).steps).trans
    apply foldlM_steps _ cleared
    intro before entry after passed
    exact clear_steps (passes before entry after passed).2
  apply (detached.trans (quietSteps_tick middle).steps).trans
  apply foldlM_steps _ returned
  intro before entry after passed
  exact (rxClear_steps (rxPasses before entry after passed)).steps

private theorem setAttaching_steps
    {world next : World} {stream : StreamPtr} {slot : Slot}
    {channel : ChannelPtr} {sid : LocalStreamId}
    (returned :
      setAttaching world stream slot channel sid = some next) :
    QuietSteps world next := by
  obtain ⟨free, unregistered, attached⟩ := setAttaching_eq_some returned
  rw [attached]
  exact
    Relation.ReflTransGen.single
      (QuietStep.setAttaching world stream slot channel _ free
        unregistered rfl)

private theorem setActive_steps
    {world next : World} {stream : StreamPtr} {slot : Slot}
    {rxseq : PacketSeq}
    (returned : setActive world stream slot rxseq = some next) :
    QuietSteps world next := by
  obtain ⟨_, activated⟩ := setActive_eq_some returned
  rw [activated]
  apply quietSteps_modifyStream world stream _ rfl rfl rfl
  intro other
  by_cases same : other = slot
  · subst other
    simp
  · simp [Function.update_of_ne same]

private theorem setCurrent_steps
    {world next : World} {stream : StreamPtr} {slot : Slot}
    (returned : setCurrent world stream slot = some next) :
    QuietSteps world next := by
  obtain ⟨noCurrent, attached, isCurrent⟩ := setCurrent_eq_some returned
  rw [isCurrent]
  exact
    Relation.ReflTransGen.single
      (QuietStep.setCurrent world stream slot noCurrent attached)

private theorem rxSetActive_steps
    {world next : World} {stream : StreamPtr} {slot : Slot}
    {channel : ChannelPtr} {sid : LocalStreamId} {rxseq : PacketSeq}
    (returned :
      rxSetActive world stream slot channel sid rxseq = some next) :
    QuietSteps world next := by
  obtain ⟨_, _, attached⟩ := rxSetActive_eq_some returned
  rw [attached]
  refine
    Relation.ReflTransGen.trans ?_
      (quietSteps_modifyChannel _ channel _ rfl rfl rfl)
  exact
    quietSteps_modifyStream world stream _ rfl rfl rfl fun _ => ⟨rfl, rfl⟩

private theorem construct_steps
    {world next : World} {channel : ChannelPtr} {root : StreamPtr}
    (returned : construct world channel root = some next) :
    QuietSteps world next := by
  obtain ⟨_, attaching, activated, current, attached, active, isCurrent,
    returned⟩ := construct_eq_some returned
  have rooted :=
    quietSteps_modifyChannel world channel
      (fun entry => { entry with root := some root }) rfl rfl rfl
  have toActivated :=
    (setAttaching_steps attached).trans (setActive_steps active)
  have toReceiving :=
    (setCurrent_steps isCurrent).trans (rxSetActive_steps returned)
  exact rooted.trans (toActivated.trans toReceiving)

/-! ## Writes -/

/-- A change of a stream that leaves alone its queue, its place in line and
its attachments. -/
structure KeepsLinks (entry next : BaseStream) : Prop where
  txQueue : next.txQueue = entry.txQueue
  txEnqueuedChannel : next.txEnqueuedChannel = entry.txEnqueuedChannel
  txCurrentAttachment :
    next.txCurrentAttachment = entry.txCurrentAttachment
  txAttachments : next.txAttachments = entry.txAttachments
  rxAttachments : next.rxAttachments = entry.rxAttachments

/-- A relation between worlds that holds across whatever the calls do that
neither attach a stream nor return a frame. -/
structure AcrossWrites (related : World → World → Prop) : Prop where
  trans :
    ∀ {world middle next},
      related world middle → related middle next → related world next
  transmissions : ∀ {world next}, TxSteps world next → related world next
  insertPacket :
    ∀ world stream frame,
      frame.owner = some stream →
      related world (world.insertPacket stream frame)
  modifyStream :
    ∀ (world : World) stream change,
      KeepsLinks (world.streams stream) (change (world.streams stream)) →
      related world (world.modifyStream stream change)
  activate :
    ∀ (world : World) channel,
      related world
        (world.modifyChannel channel fun entry =>
          { entry with active := true })
  reprioritise :
    ∀ (world : World) channel stream,
      (world.streams stream).txEnqueuedChannel = true →
      world.currentChannel stream = some channel →
      related world
        ((world.dequeueStream channel stream).enqueueStream channel stream)

namespace AcrossWrites

variable {related : World → World → Prop}
variable {env : Env} {world next : World} {stream : StreamPtr}

theorem refl (across : AcrossWrites related) (world : World) :
    related world world :=
  across.transmissions Relation.ReflTransGen.refl

theorem txEnqueuePacket
    (across : AcrossWrites related) {frame : TxFrame}
    (owned : frame.owner = some stream)
    (returned : txEnqueuePacket env world stream frame = some next) :
    related world next :=
  across.trans (across.insertPacket world stream frame owned)
    (across.transmissions (txEnqueueChannelNow_steps returned))

theorem writeData
    (across : AcrossWrites related) {totalSize : Nat}
    (returned : writeData env world stream totalSize = some next) :
    related world next := by
  unfold World.writeData at returned
  rw [guard_bind_eq_some_iff] at returned
  apply foldlM_related across.refl across.trans _ returned.2
  intro before size after written
  have held : related before (before.holdSegment stream size) :=
    across.modifyStream before stream _ ⟨rfl, rfl, rfl, rfl, rfl⟩
  exact across.trans held (across.txEnqueuePacket rfl written)

theorem writeDatagram
    (across : AcrossWrites related) {totalSize : Nat}
    (returned : writeDatagram env world stream totalSize = some next) :
    related world next := by
  unfold World.writeDatagram at returned
  rw [bind_eq_some_iff] at returned
  obtain ⟨middle, written, returned⟩ := returned
  have queued : related world middle := by
    apply foldlM_related across.refl across.trans _ written
    intro before size after inserted
    exact across.txEnqueuePacket rfl inserted
  exact
    across.trans queued
      (across.transmissions (txEnqueueChannelNow_steps returned))

theorem recalculateTransmitWindow
    (across : AcrossWrites related) {windowByte : UInt8}
    (returned :
      recalculateTransmitWindow env world stream windowByte =
        some next) :
    related world next := by
  obtain ⟨window, reached⟩ := recalculateTransmitWindow_eq_some returned
  have changed :=
    across.modifyStream world stream
      (fun entry => { entry with txWindow := window })
      ⟨rfl, rfl, rfl, rfl, rfl⟩
  rcases reached with same | transmitted
  · rw [same]
    exact changed
  · exact
      across.trans changed
        (across.transmissions (txEnqueueChannelNow_steps transmitted))

theorem start
    (across : AcrossWrites related) {channel : ChannelPtr}
    {initiate : Bool}
    (returned : start env world channel initiate = some next) :
    related world next := by
  obtain ⟨middle, root, usid, transmitted, _, named⟩ :=
    start_eq_some returned
  rw [named]
  have transmits :=
    across.transmissions (gotReadyTransmit_steps transmitted)
  have named :=
    across.modifyStream middle root
      (fun entry => { entry with usid := usid })
      ⟨rfl, rfl, rfl, rfl, rfl⟩
  exact
    across.trans (across.activate world channel)
      (across.trans transmits named)

theorem setPriority
    (across : AcrossWrites related) {priority : Priority}
    (returned : setPriority world stream priority = some next) :
    related world next := by
  have changed : related world (world.withPriority stream priority) :=
    across.modifyStream world stream _ ⟨rfl, rfl, rfl, rfl, rfl⟩
  rcases setPriority_eq_some returned with
    unchanged | ⟨_, outOfLine⟩ | ⟨channel, current, enqueued, inLine⟩
  · rw [unchanged]
    exact across.refl world
  · rw [outOfLine]
    exact changed
  · rw [inLine]
    apply across.trans changed
    rw [← flag_withPriority world stream priority] at enqueued
    rw [← currentChannel_withPriority world stream priority] at current
    exact across.reprioritise _ channel stream enqueued current

end AcrossWrites

private theorem quietSteps_acrossWrites : AcrossWrites QuietSteps where
  trans := Relation.ReflTransGen.trans
  transmissions := TxSteps.quietSteps
  insertPacket := fun world stream frame owned =>
    Relation.ReflTransGen.single
      (QuietStep.insertPacket world stream frame owned)
  modifyStream := fun world stream change keeps =>
    quietSteps_modifyStream world stream change keeps.txQueue
      keeps.txEnqueuedChannel keeps.txCurrentAttachment fun slot => by
        rw [keeps.txAttachments]
        exact ⟨rfl, rfl⟩
  activate := fun world channel =>
    quietSteps_modifyChannel world channel _ rfl rfl rfl
  reprioritise := fun world channel stream enqueued current =>
    Relation.ReflTransGen.single
      (QuietStep.reprioritise world channel stream enqueued current)

/-- The calls that return frames to their owners. -/
def Call.Returns : Call → Prop
  | .stop _ => True
  | .detachAll _ => True
  | .clear _ _ => True
  | .acknowledged _ _ _ => True
  | .missed _ _ _ => True
  | .expire _ _ _ => True
  | _ => False

/-- All other calls report nothing and take nothing from a table. -/
theorem Call.run_quietSteps
    {env : Env} {world next : World} {call : Call}
    (quiet : ¬ call.Returns)
    (returned : call.run env world = some next) :
    QuietSteps world next := by
  cases call with
  | construct channel root =>
      exact construct_steps returned
  | start channel initiate =>
      exact quietSteps_acrossWrites.start returned
  | setAttaching stream slot channel sid =>
      exact setAttaching_steps returned
  | setActive stream slot rxseq =>
      exact setActive_steps returned
  | setCurrent stream slot =>
      exact setCurrent_steps returned
  | rxSetActive stream slot channel sid rxseq =>
      exact rxSetActive_steps returned
  | rxClear stream slot =>
      exact rxClear_steps returned
  | writeData stream totalSize =>
      exact quietSteps_acrossWrites.writeData returned
  | writeDatagram stream totalSize =>
      exact quietSteps_acrossWrites.writeDatagram returned
  | txEnqueueChannel stream immediately =>
      rw [Call.run] at returned
      split at returned
      · exact (txEnqueueChannelNow_steps returned).quietSteps
      · exact (txEnqueueChannel_steps returned).quietSteps
  | recalculateTransmitWindow stream windowByte =>
      exact quietSteps_acrossWrites.recalculateTransmitWindow returned
  | setPriority stream priority =>
      exact quietSteps_acrossWrites.setPriority returned
  | gotReadyTransmit channel =>
      exact (gotReadyTransmit_steps returned).quietSteps
  | stop | detachAll | clear | acknowledged | missed | expire =>
      exact absurd trivial quiet

/-- Every call is a sequence of small steps. -/
theorem Call.run_steps
    {env : Env} {world next : World} {call : Call}
    (returned : call.run env world = some next) :
    Steps world next := by
  cases call with
  | stop channel =>
      exact stop_steps returned
  | detachAll channel =>
      exact detachAll_steps returned
  | clear stream slot =>
      exact clear_steps returned
  | acknowledged channel txseq npackets =>
      exact
        foldlM_steps (fun _ _ _ => steps_acrossReturns.acknowledgedOne)
          returned
  | missed channel txseq npackets =>
      exact foldlM_steps (fun _ _ _ => steps_acrossReturns.missedOne) returned
  | expire channel txseq npackets =>
      cases returned
      exact
        List.foldlRecOn _ _ Relation.ReflTransGen.refl
          fun reached steps txseq _ =>
            steps.trans (steps_acrossReturns.expireOne channel reached txseq)
  | _ =>
      refine (Call.run_quietSteps ?_ returned).steps
      exact not_false

/-- A run of calls is a sequence of small steps. -/
theorem CallRun.steps
    {env : Env} {world next : World} {calls : List Call}
    (run : CallRun env world calls next) :
    Steps world next := by
  induction run with
  | refl =>
      exact Relation.ReflTransGen.refl
  | snoc call _ taken inductionHypothesis =>
      exact inductionHypothesis.trans (Call.run_steps taken)

end StructuredStreams.Stream
