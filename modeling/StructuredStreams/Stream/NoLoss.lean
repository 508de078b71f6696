import StructuredStreams.Stream.Attachments
import StructuredStreams.Stream.TransmitQueue

/-!
# What becomes of a segment that was not acknowledged

A channel that misses a frame or loses a stream hands the frame back to its
owner.  `base_stream::missed` sends a frame again where it is of the type of
datagrams; for the type of segments it only tries to attach again.  A segment
that is still to be acknowledged is sent again exactly where another frame
with its sequence number is.
-/

namespace StructuredStreams.Stream

open World

/-- A frame of the stream with the sequence number was handed to a
channel. -/
def Event.Hands (stream : StreamPtr) (seq : ByteSeq) : Event → Prop
  | .transmitted sender _ frame => sender = stream ∧ frame.txByteSeq = seq
  | _ => False

instance (stream : StreamPtr) (seq : ByteSeq) (event : Event) :
    Decidable (event.Hands stream seq) :=
  match event with
  | .transmitted sender _ frame =>
      inferInstanceAs
        (Decidable (sender = stream ∧ frame.txByteSeq = seq))
  | .enqueued _ _ _ => inferInstanceAs (Decidable False)
  | .cleared _ _ _ => inferInstanceAs (Decidable False)
  | .missed _ => inferInstanceAs (Decidable False)
  | .acknowledged _ => inferInstanceAs (Decidable False)
  | .expired _ => inferInstanceAs (Decidable False)

/-- How often such a frame was handed to a channel. -/
def World.timesHanded
    (world : World) (stream : StreamPtr) (seq : ByteSeq) : Nat :=
  world.log.countP fun event => decide (event.Hands stream seq)

/-- A frame with the sequence number is in the queue of the stream. -/
def World.Queued
    (world : World) (stream : StreamPtr) (seq : ByteSeq) : Prop :=
  ∃ frame ∈ (world.streams stream).txQueue, frame.txByteSeq = seq

instance (world : World) (stream : StreamPtr) (seq : ByteSeq) :
    Decidable (world.Queued stream seq) :=
  inferInstanceAs
    (Decidable
      (∃ frame ∈ (world.streams stream).txQueue, frame.txByteSeq = seq))

/-- Such a frame is in the queue, or was handed to a channel more often than
the number of times. -/
def World.Resent
    (world : World) (stream : StreamPtr) (seq : ByteSeq)
    (times : Nat) : Prop :=
  world.Queued stream seq ∨ times < world.timesHanded stream seq

/-- A waiting frame that `base_stream::missed` puts in the queue of the
stream with the sequence number. -/
def WaitingFrame.IsSentAgain
    (stream : StreamPtr) (seq : ByteSeq) (entry : WaitingFrame) : Prop :=
  entry.frame.type = .empty ∧
    entry.frame.owner = some stream ∧
    entry.frame.txByteSeq = seq

def OwnedQueues (world : World) : Prop :=
  ∀ stream, ∀ frame ∈ (world.streams stream).txQueue,
    frame.owner = some stream

theorem OwnedQueues.onlyDrops
    {world next : World} (owned : OwnedQueues world)
    (drops : OnlyDrops world next) :
    OwnedQueues next :=
  fun stream frame member =>
    owned stream frame ((drops stream).subset member)

theorem OwnedQueues.insertPacket
    {world : World} (owned : OwnedQueues world) {stream : StreamPtr}
    {frame : TxFrame} (ownFrame : frame.owner = some stream) :
    OwnedQueues (world.insertPacket stream frame) := by
  intro other queued member
  by_cases same : other = stream
  · subst other
    rw [insertPacket_txQueue, mem_insertFrame] at member
    rcases member with inserted | old
    · rw [inserted]
      exact ownFrame
    · exact owned stream queued old
  · rw [insertPacket_txQueue_of_ne world same] at member
    exact owned other queued member

theorem ownedQueues_step
    {world next : World} (step : Step world next)
    (owned : OwnedQueues world) :
    OwnedQueues next := by
  rcases step.onlyDrops_or_insertPacket with
    drops | ⟨stream, frame, ownFrame, inserted⟩
  · exact owned.onlyDrops drops
  · rw [inserted]
    exact owned.insertPacket ownFrame

theorem ownedQueues_of_initial
    {world : World} (initial : world.Initial) :
    OwnedQueues world := by
  intro stream frame member
  obtain ⟨_, _, _, _, _, empty⟩ := initial.streams stream
  rw [empty] at member
  cases member

section Brings

variable {stream : StreamPtr} {seq : ByteSeq} {times : Nat}

variable (stream seq times) in
/-- A world between the start of a call and its end: the stream waits for the
sequence number, and its frames were handed over as often as at the start. -/
structure Tracked (world : World) : Prop where
  waiting : seq ∈ (world.streams stream).txWaitingAck
  counted : times ≤ world.timesHanded stream seq
  owned : OwnedQueues world

variable (stream seq times) in
/-- The segment is sent again if it was before, or else exactly under the
given condition, and so are the frames that newly wait. -/
structure Brings (world : World) (Condition : Prop) (next : World) :
    Prop where
  tracked : Tracked stream seq times next
  resent :
    next.Resent stream seq times ↔
      world.Resent stream seq times ∨ Condition
  entries :
    ∀ channel, ∀ copied ∈ (next.channels channel).waitingAck,
      copied.2.IsSentAgain stream seq →
      copied ∈ (world.channels channel).waitingAck ∨
        next.Resent stream seq times

theorem Brings.refl
    {world : World} (tracked : Tracked stream seq times world) :
    Brings stream seq times world False world where
  tracked := tracked
  resent := by
    rw [or_false]
  entries := fun _ _ member _ => Or.inl member

theorem Brings.trans
    {world middle next : World} {First Second : Prop}
    (first : Brings stream seq times world First middle)
    (second : Brings stream seq times middle Second next) :
    Brings stream seq times world (First ∨ Second) next where
  tracked := second.tracked
  resent := by
    rw [second.resent, first.resent, or_assoc]
  entries := by
    intro channel copied member sentAgain
    rcases second.entries channel copied member sentAgain with
      earlier | resent
    · refine
        (first.entries channel copied earlier sentAgain).imp_right ?_
      intro resent
      exact second.resent.mpr (Or.inl resent)
    · exact Or.inr resent

/-- Conditions only matter where the segment was not sent again before. -/
theorem Brings.congr_of_not
    {world next : World} {Condition Other : Prop}
    (brings : Brings stream seq times world Condition next)
    (forward : Condition → world.Resent stream seq times ∨ Other)
    (backward : Other → world.Resent stream seq times ∨ Condition) :
    Brings stream seq times world Other next where
  tracked := brings.tracked
  resent := by
    rw [brings.resent]
    constructor
    · intro either
      exact either.elim Or.inl forward
    · intro either
      exact either.elim Or.inl backward
  entries := brings.entries

theorem Brings.congr
    {world next : World} {Condition Other : Prop}
    (brings : Brings stream seq times world Condition next)
    (same : Condition ↔ Other) :
    Brings stream seq times world Other next :=
  brings.congr_of_not (fun condition => Or.inr (same.mp condition))
    fun other => Or.inr (same.mpr other)

/-- Two parts of which the second brings back nothing. -/
theorem Brings.trans_nothing
    {world middle next : World} {Condition : Prop}
    (first : Brings stream seq times world Condition middle)
    (second : Brings stream seq times middle False next) :
    Brings stream seq times world Condition next :=
  (first.trans second).congr (Iff.of_eq (or_false _))

/-- Two parts of which the first brings back nothing. -/
theorem Brings.nothing_trans
    {world middle next : World} {Condition : Prop}
    (first : Brings stream seq times world False middle)
    (second : Brings stream seq times middle Condition next) :
    Brings stream seq times world Condition next :=
  (first.trans second).congr (Iff.of_eq (false_or _))

private theorem Tracked.brings_of_same
    {world next : World} (tracked : Tracked stream seq times world)
    (txQueue :
      ∀ other,
        (next.streams other).txQueue = (world.streams other).txQueue)
    (txWaitingAck :
      (next.streams stream).txWaitingAck =
        (world.streams stream).txWaitingAck)
    (timesHanded :
      next.timesHanded stream seq = world.timesHanded stream seq)
    (entries :
      ∀ channel, ∀ copied ∈ (next.channels channel).waitingAck,
        copied.2.IsSentAgain stream seq →
        copied ∈ (world.channels channel).waitingAck) :
    Brings stream seq times world False next where
  tracked := by
    refine ⟨?_, ?_, ?_⟩
    · rw [txWaitingAck]
      exact tracked.waiting
    · rw [timesHanded]
      exact tracked.counted
    · exact tracked.owned.onlyDrops (onlyDrops_of_txQueue_eq txQueue)
  resent := by
    rw [or_false, Resent, Resent, Queued, Queued, txQueue,
      timesHanded]
  entries := fun channel copied member sentAgain =>
    Or.inl (entries channel copied member sentAgain)

/-! ## Transmissions -/

theorem TxStep.txWaitingAck
    {world next : World} (step : TxStep world next)
    (other : StreamPtr) :
    (next.streams other).txWaitingAck =
      (world.streams other).txWaitingAck :=
  step.stream_field (fun _ _ => rfl) (fun _ _ => rfl) (fun _ _ => rfl)
    (fun _ _ => rfl) other

private theorem TxStep.waitingAck_of_clock_eq
    {world next : World} (step : TxStep world next)
    (sameClock : next.clock = world.clock) (channel : ChannelPtr) :
    (next.channels channel).waitingAck =
      (world.channels channel).waitingAck := by
  rcases step.waitingAck_cases with same | ⟨_, _, _, enters⟩
  · exact same channel
  · have later := enters.clock
    omega

/-- A step that changes no queue, no table and no history. -/
theorem Tracked.brings_of_txStep
    {world next : World} (tracked : Tracked stream seq times world)
    (step : TxStep world next)
    (txQueue :
      ∀ other,
        (next.streams other).txQueue = (world.streams other).txQueue)
    (sameClock : next.clock = world.clock)
    (sameLog : next.log = world.log) :
    Brings stream seq times world False next := by
  refine
    tracked.brings_of_same txQueue (step.txWaitingAck stream) ?_ ?_
  · rw [timesHanded, timesHanded, sameLog]
  · intro channel copied member _
    rwa [step.waitingAck_of_clock_eq sameClock] at member

private theorem mem_dropWhile_of_not
    {α : Type} {drop : α → Bool} {item : α} {items : List α}
    (member : item ∈ items) (stays : drop item = false) :
    item ∈ items.dropWhile drop := by
  rw [← List.takeWhile_append_dropWhile (p := drop) (l := items)] at member
  rcases List.mem_append.mp member with dropped | kept
  · have drops := List.mem_takeWhile_imp dropped
    rw [stays] at drops
    cases drops
  · exact kept

/-- A frame with a sequence number that is waited for is not dropped. -/
theorem Tracked.queued_collectAcked
    {world : World} (tracked : Tracked stream seq times world)
    (collected : StreamPtr) :
    (world.collectAcked collected).Queued stream seq ↔
      world.Queued stream seq := by
  unfold Queued collectAcked setTxQueue
  by_cases same : stream = collected
  · subst collected
    rw [modifyStream_streams_self]
    constructor
    · intro found
      rcases found with ⟨frame, member, sameSeq⟩
      exact ⟨frame, (List.dropWhile_sublist _).subset member, sameSeq⟩
    · intro found
      rcases found with ⟨frame, member, sameSeq⟩
      refine ⟨frame, mem_dropWhile_of_not member ?_, sameSeq⟩
      apply decide_eq_false
      intro acknowledged
      rw [sameSeq] at acknowledged
      exact acknowledged.2 tracked.waiting
  · rw [modifyStream_streams_of_ne world same]

private theorem Tracked.brings_collect
    {world : World} (tracked : Tracked stream seq times world)
    {collected : StreamPtr}
    (step : TxStep world (world.collectAcked collected)) :
    Brings stream seq times world False
      (world.collectAcked collected) := by
  refine ⟨⟨?_, tracked.counted, ?_⟩, ?_, ?_⟩
  · rw [step.txWaitingAck]
    exact tracked.waiting
  · exact tracked.owned.onlyDrops step.onlyDrops
  · rw [or_false, Resent, Resent, tracked.queued_collectAcked]
    rfl
  · exact fun _ _ member _ => Or.inl member

private theorem mem_insertWaitingAck
    {world : World} {channel other : ChannelPtr} {pktseq : PacketSeq}
    {frame : TxFrame} {copied : PacketSeq × WaitingFrame}
    (onTime : frame.late = false)
    (member :
      copied ∈
        ((world.insertWaitingAck channel pktseq frame).channels
          other).waitingAck) :
    copied ∈ (world.channels other).waitingAck ∨
      other = channel ∧ copied.2.frame = frame := by
  rcases insertWaitingAck_enters world channel pktseq onTime with
    same | enters
  · rw [same] at member
    exact Or.inl member
  · apply ((enters.mem_iff other copied).mp member).imp_right
    intro isNew
    exact ⟨isNew.1, by rw [isNew.2]⟩

/-- What is entered in a table belongs to a stream that transmits there, and
is a segment or comes from the queue of the stream. -/
theorem TxStep.entry_cases
    {world next : World} (step : TxStep world next)
    (owned : OwnedQueues world) {channel : ChannelPtr}
    {copied : PacketSeq × WaitingFrame}
    (member : copied ∈ (next.channels channel).waitingAck) :
    copied ∈ (world.channels channel).waitingAck ∨
      ∃ owner,
        copied.2.frame.owner = some owner ∧
          world.currentChannel owner = some channel ∧
          (copied.2.frame.type = .stream ∨
            ∃ head ∈ (world.streams owner).txQueue,
              copied.2.frame = { head with late := false }) := by
  cases step with
  | tick | collect | charge =>
      exact Or.inl member
  | adopt adopted root =>
      obtain ⟨parent, isAdopted⟩ := adoptRoot_eq world adopted root
      rw [isAdopted, modifyStream_channels] at member
      exact Or.inl member
  | join joined joining current notEnqueued =>
      rw [setTxEnqueuedChannel, modifyStream_channels, enqueueStream,
        modifyChannel_field world StreamChannel.waitingAck joined _ rfl]
        at member
      exact Or.inl member
  | take taken leaving rest sending enqueued current =>
      rw [setTxEnqueuedChannel, modifyStream_channels,
        modifyChannel_field world StreamChannel.waitingAck taken _ rfl]
        at member
      exact Or.inl member
  | send sender used head rest pktseq queue notEnqueued current =>
      apply (mem_insertWaitingAck rfl member).imp_right
      rintro ⟨sameChannel, isHead⟩
      have queued : head ∈ (world.streams sender).txQueue := by
        rw [queue]
        exact List.mem_cons_self
      refine ⟨sender, ?_, ?_, Or.inr ⟨head, queued, isHead⟩⟩
      · rw [isHead]
        exact owned sender head queued
      · rw [sameChannel]
        exact current
  | attach attaching used pktseq current =>
      apply (mem_insertWaitingAck rfl member).imp_right
      rintro ⟨sameChannel, isAttach⟩
      refine ⟨attaching, ?_, ?_, Or.inl ?_⟩
      · rw [isAttach]
        rfl
      · rw [sameChannel]
        exact current
      · rw [isAttach]
        rfl

private theorem timesHanded_of_log_eq_cons
    (stream : StreamPtr) (seq : ByteSeq)
    {world next : World} {event : Event}
    (longer : next.log = event :: world.log) :
    next.timesHanded stream seq =
      world.timesHanded stream seq +
        if event.Hands stream seq then 1 else 0 := by
  rw [timesHanded, longer, List.countP_cons, timesHanded]
  by_cases hands : event.Hands stream seq
  · simp [hands]
  · simp [hands]

private theorem timesHanded_of_not_hands
    {world next : World} {event : Event}
    (longer : next.log = event :: world.log)
    (notHanded : ¬ event.Hands stream seq) :
    next.timesHanded stream seq = world.timesHanded stream seq := by
  rw [timesHanded_of_log_eq_cons stream seq longer, if_neg notHanded,
    Nat.add_zero]

/-- The frames of the queue apart from the one that was sent. -/
theorem queued_send_of_not
    {world : World} {sender : StreamPtr} {head : TxFrame}
    {rest : List TxFrame}
    (queue : (world.streams sender).txQueue = head :: rest)
    (different : ¬ (sender = stream ∧ head.txByteSeq = seq)) :
    (world.setTxQueue sender rest).Queued stream seq ↔
      world.Queued stream seq := by
  unfold Queued setTxQueue
  by_cases same : stream = sender
  · subst sender
    rw [modifyStream_streams_self, queue]
    dsimp only
    constructor
    · intro found
      rcases found with ⟨frame, member, sameSeq⟩
      exact ⟨frame, List.mem_cons_of_mem head member, sameSeq⟩
    · intro found
      rcases found with ⟨frame, member, sameSeq⟩
      rcases List.mem_cons.mp member with isHead | inRest
      · rw [isHead] at sameSeq
        exact absurd ⟨rfl, sameSeq⟩ different
      · exact ⟨frame, inRest, sameSeq⟩
  · rw [modifyStream_streams_of_ne world same]

private theorem Tracked.brings_send
    {world next : World} (tracked : Tracked stream seq times world)
    {sender : StreamPtr} {channel : ChannelPtr} {head : TxFrame}
    {rest : List TxFrame} (step : TxStep world next)
    (queue : (world.streams sender).txQueue = head :: rest)
    (streams : next.streams = (world.setTxQueue sender rest).streams)
    (longer : next.log = .transmitted sender channel head :: world.log)
    (entries :
      ∀ other, ∀ copied ∈ (next.channels other).waitingAck,
        copied ∈ (world.channels other).waitingAck ∨
          copied.2.frame = { head with late := false }) :
    Brings stream seq times world False next := by
  have handed := timesHanded_of_log_eq_cons stream seq longer
  have counted := tracked.counted
  have tracks : Tracked stream seq times next := by
    refine ⟨?_, ?_, ?_⟩
    · rw [step.txWaitingAck]
      exact tracked.waiting
    · omega
    · exact tracked.owned.onlyDrops step.onlyDrops
  by_cases hands : (Event.transmitted sender channel head).Hands stream seq
  · rw [if_pos hands] at handed
    have resent : next.Resent stream seq times := Or.inr (by omega)
    have queued : world.Queued stream seq := by
      refine ⟨head, ?_, hands.2⟩
      rw [← hands.1, queue]
      exact List.mem_cons_self
    refine ⟨tracks, ?_, ?_⟩
    · exact ⟨fun _ => Or.inl (Or.inl queued), fun _ => resent⟩
    · exact fun _ _ _ _ => Or.inr resent
  · refine ⟨tracks, ?_, ?_⟩
    · rw [or_false, Resent, Resent,
        timesHanded_of_not_hands longer hands, Queued, streams]
      exact or_congr_left (queued_send_of_not queue hands)
    · intro other copied member sentAgain
      refine Or.inl ((entries other copied member).resolve_right ?_)
      intro isHead
      obtain ⟨_, owned, sameSeq⟩ := sentAgain
      rw [isHead] at owned sameSeq
      have ownHead : head.owner = some sender := by
        apply tracked.owned sender head
        rw [queue]
        exact List.mem_cons_self
      have sameStream : sender = stream :=
        Option.some.inj (ownHead.symm.trans owned)
      exact hands ⟨sameStream, sameSeq⟩

private theorem TxStep.brings
    {world next : World} (step : TxStep world next)
    (tracked : Tracked stream seq times world) :
    Brings stream seq times world False next := by
  have taken := step
  cases step with
  | tick =>
      exact
        tracked.brings_of_same (fun _ => rfl) rfl rfl
          fun _ _ member _ => member
  | join channel joined current notEnqueued =>
      exact
        tracked.brings_of_txStep taken
          (modifyStream_field _ BaseStream.txQueue joined _ rfl) rfl rfl
  | take channel leaving rest sending enqueued current =>
      exact
        tracked.brings_of_txStep taken
          (modifyStream_field _ BaseStream.txQueue leaving _ rfl) rfl rfl
  | collect =>
      exact tracked.brings_collect taken
  | charge charged amount =>
      exact
        tracked.brings_of_txStep taken
          (modifyStream_field world BaseStream.txQueue charged _ rfl) rfl
          rfl
  | adopt adopted channel =>
      obtain ⟨parent, isAdopted⟩ := adoptRoot_eq world adopted channel
      rw [isAdopted]
      exact
        tracked.brings_of_same
          (modifyStream_field world BaseStream.txQueue adopted _ rfl)
          (modifyStream_field world BaseStream.txWaitingAck adopted _ rfl
            stream)
          rfl fun _ _ member _ => member
  | send sender channel head rest pktseq queue =>
      exact
        tracked.brings_send taken queue rfl rfl
          fun _ _ member =>
            (mem_insertWaitingAck rfl member).imp_right And.right
  | attach attaching channel pktseq =>
      refine
        tracked.brings_of_same (fun _ => rfl) rfl rfl
          fun other copied member sentAgain => ?_
      apply (mem_insertWaitingAck rfl member).resolve_right
      intro isAttach
      have isEmpty := sentAgain.1
      rw [isAttach.2] at isEmpty
      cases isEmpty

private theorem TxSteps.brings
    {world next : World} (steps : TxSteps world next)
    (tracked : Tracked stream seq times world) :
    Brings stream seq times world False next := by
  induction steps with
  | refl =>
      exact Brings.refl tracked
  | tail _ step inductionHypothesis =>
      exact
        inductionHypothesis.trans_nothing
          (step.brings inductionHypothesis.tracked)

private theorem Tracked.brings_record
    {world : World} (tracked : Tracked stream seq times world)
    (event : Event) (notHanded : ¬ event.Hands stream seq) :
    Brings stream seq times world False (world.record event) := by
  refine
    tracked.brings_of_same (fun _ => rfl) rfl ?_
      fun _ _ member _ => member
  exact timesHanded_of_not_hands (record_log world event) notHanded

private theorem Tracked.brings_eraseWaitingAck
    {world : World} (tracked : Tracked stream seq times world)
    (channel : ChannelPtr) (pktseq : PacketSeq) :
    Brings stream seq times world False
      (world.eraseWaitingAck channel pktseq) := by
  refine tracked.brings_of_same (fun _ => rfl) rfl rfl ?_
  intro other copied member _
  by_cases same : other = channel
  · subst other
    rw [eraseWaitingAck, modifyChannel_channels_self] at member
    exact (List.mem_filter.mp member).1
  · rwa [eraseWaitingAck, modifyChannel_channels_of_ne world same]
      at member

private theorem queued_insertPacket
    (world : World) (owner : StreamPtr) (frame : TxFrame) :
    (world.insertPacket owner frame).Queued stream seq ↔
      world.Queued stream seq ∨
        owner = stream ∧ frame.txByteSeq = seq := by
  unfold Queued
  by_cases same : stream = owner
  · subst owner
    rw [insertPacket_txQueue]
    constructor
    · intro found
      rcases found with ⟨queued, member, sameSeq⟩
      rcases mem_insertFrame.mp member with inserted | old
      · rw [inserted] at sameSeq
        exact Or.inr ⟨rfl, sameSeq⟩
      · exact Or.inl ⟨queued, old, sameSeq⟩
    · intro either
      rcases either with ⟨queued, member, sameSeq⟩ | ⟨_, sameSeq⟩
      · exact ⟨queued, mem_insertFrame.mpr (Or.inr member), sameSeq⟩
      · exact ⟨_, mem_insertFrame.mpr (Or.inl rfl), sameSeq⟩
  · rw [insertPacket_txQueue_of_ne world same]
    constructor
    · exact Or.inl
    · intro either
      exact either.resolve_right fun isOwner => same isOwner.1.symm

private theorem Tracked.brings_insertPacket
    {world : World} (tracked : Tracked stream seq times world)
    (owner : StreamPtr) (frame : TxFrame)
    (owned : frame.owner = some owner) :
    Brings stream seq times world
      (owner = stream ∧ frame.txByteSeq = seq)
      (world.insertPacket owner frame) := by
  have sameTimes :
      (world.insertPacket owner frame).timesHanded stream seq =
        world.timesHanded stream seq := by
    have longer :
        (world.insertPacket owner frame).log =
          .enqueued owner (world.streams owner).txQueue
            { frame with stamp := world.clock } :: world.log :=
      rfl
    exact timesHanded_of_not_hands longer not_false
  refine ⟨⟨?_, ?_, ?_⟩, ?_, ?_⟩
  · have same :=
      modifyStream_field
        (world.record
          (.enqueued owner (world.streams owner).txQueue
            { frame with stamp := world.clock }))
        BaseStream.txWaitingAck owner
        (fun entry =>
          { entry with
            txQueue :=
              insertFrame { frame with stamp := world.clock }
                (world.streams owner).txQueue })
        rfl stream
    exact same ▸ tracked.waiting
  · rw [sameTimes]
    exact tracked.counted
  · exact tracked.owned.insertPacket owned
  · rw [Resent, Resent, sameTimes, queued_insertPacket]
    exact or_right_comm
  · exact fun _ _ member _ => Or.inl member

/-- A frame that goes back to its owner is sent again where it is of the type
of datagrams. -/
theorem Returned.brings
    {world next : World} {owner : StreamPtr} {entry : WaitingFrame}
    (returned : Returned world owner entry next)
    (owned : entry.frame.owner = some owner)
    (tracked : Tracked stream seq times world) :
    Brings stream seq times world (entry.IsSentAgain stream seq)
      next := by
  have reported :=
    tracked.brings_record (.missed entry.id) not_false
  unfold Returned at returned
  split at returned
  · next isEmpty =>
      have inserted :=
        reported.tracked.brings_insertPacket owner
          { entry.frame with late := true } owned
      have brings :=
        (reported.nothing_trans inserted).trans_nothing
          (returned.brings inserted.tracked)
      apply brings.congr
      rw [WaitingFrame.IsSentAgain, owned, Option.some.injEq]
      exact (and_iff_right isEmpty).symm
  · next notEmpty =>
      refine
        (reported.trans_nothing
          (returned.brings reported.tracked)).congr ?_
      exact iff_of_false not_false fun sentAgain => notEmpty sentAgain.1

private theorem OnlyDetaches.brings
    {world next : World} (detaches : OnlyDetaches world next)
    (tracked : Tracked stream seq times world) :
    Brings stream seq times world False next := by
  refine
    tracked.brings_of_same detaches.txQueue
      (detaches.txWaitingAck stream) ?_ ?_
  · obtain ⟨added, nextLog, cleared⟩ := detaches.log
    have none :
        added.countP (fun event => decide (event.Hands stream seq)) = 0 := by
      apply List.countP_eq_zero.mpr
      intro event member handed
      obtain ⟨_, _, _, isCleared⟩ := cleared event member
      rw [isCleared] at handed
      exact of_decide_eq_true handed
    rw [timesHanded, nextLog, List.countP_append, none, Nat.zero_add,
      timesHanded]
  · intro channel copied member _
    rwa [detaches.waitingAck] at member

/-! ## Going through a table -/

theorem foldlM_brings
    {α : Type} {Condition : α → Prop}
    {pass : World → α → Option World} {items : List α}
    {world next : World}
    (passes :
      ∀ item ∈ items, ∀ before after,
        Tracked stream seq times before →
        pass before item = some after →
        Brings stream seq times before (Condition item) after)
    (tracked : Tracked stream seq times world)
    (folded : items.foldlM pass world = some next) :
    Brings stream seq times world (∃ item ∈ items, Condition item)
      next := by
  induction items generalizing world with
  | nil =>
      cases folded
      apply (Brings.refl tracked).congr
      simp
  | cons first items inductionHypothesis =>
      rw [List.foldlM_cons, bind_eq_some_iff] at folded
      obtain ⟨middle, passed, folded⟩ := folded
      have one :=
        passes first List.mem_cons_self world middle tracked passed
      have others :=
        inductionHypothesis
          (fun item member =>
            passes item (List.mem_cons_of_mem first member))
          one.tracked folded
      apply (one.trans others).congr
      simp

/-- Clearing an attachment brings back what the channel has of the stream. -/
theorem clear_brings
    {env : Env} {world next : World} {cleared : StreamPtr} {slot : Slot}
    {channel : ChannelPtr} (sound : SoundTables world)
    (tracked : Tracked stream seq times world)
    (attached :
      ((world.streams cleared).txAttachments slot).channel =
        some channel)
    (returned : clear env world cleared slot = some next) :
    Brings stream seq times world
      (∃ copied ∈ (world.channels channel).waitingAck,
        copied.2.frame.owner = some cleared ∧
          copied.2.IsSentAgain stream seq)
      next := by
  rcases clear_cases returned with
    ⟨detached, _⟩ | ⟨clearedOn, middle, copies, alsoAttached, detaches,
      listed, folded⟩
  · rw [attached] at detached
    cases detached
  · have sameChannel : clearedOn = channel :=
      Option.some.inj (alsoAttached.symm.trans attached)
    subst clearedOn
    have before := detaches.brings tracked
    have passes :
        ∀ copied ∈ copies, ∀ reached after,
          Tracked stream seq times reached →
          clearEntry env cleared channel reached copied = some after →
          Brings stream seq times reached
            (copied.2.frame.owner = some cleared ∧
              copied.2.IsSentAgain stream seq)
            after := by
      intro copied inCopies reached after tracks passed
      have onTime := sound.onTime channel copied (listed.subset inCopies)
      rcases clearEntry_cases onTime passed with
        ⟨other, same⟩ | ⟨owned, handed, back, erased⟩
      · rw [same]
        apply (Brings.refl tracks).congr
        exact iff_of_false not_false fun both => other both.1
      · have brings := back.brings owned tracks
        rw [erased]
        refine
          (brings.trans_nothing
            (brings.tracked.brings_eraseWaitingAck channel
              copied.1)).congr ?_
        exact (and_iff_right owned).symm
    refine
      (before.nothing_trans
        (foldlM_brings passes before.tracked folded)).congr ?_
    simp only [listed.mem_iff]

/-- Detaching a channel brings back everything it has. -/
theorem detachAll_brings
    {env : Env} {world next : World} {channel : ChannelPtr}
    (sound : SoundTables world) (registered : Registered world)
    (tracked : Tracked stream seq times world)
    (returned : detachAll env world channel = some next) :
    Brings stream seq times world
      (∃ copied ∈ (world.channels channel).waitingAck,
        copied.2.IsSentAgain stream seq)
      next := by
  obtain ⟨middle, copies, detaches, listed, folded⟩ :=
    detachAll_cases registered returned
  have emptied :
      Brings stream seq times world False
        (world.modifyChannel channel fun entry =>
          { entry with waitingAck := [] }) := by
    refine tracked.brings_of_same (fun _ => rfl) rfl rfl ?_
    intro other copied member _
    by_cases same : other = channel
    · subst other
      rw [modifyChannel_channels_self] at member
      cases member
    · rwa [modifyChannel_channels_of_ne world same] at member
  have before := emptied.nothing_trans (detaches.brings emptied.tracked)
  have passes :
      ∀ copied ∈ copies, ∀ reached after,
        Tracked stream seq times reached →
        detachEntry env reached copied = some after →
        Brings stream seq times reached
          (copied.2.IsSentAgain stream seq) after := by
    intro copied inCopies reached after tracks passed
    have onTime := sound.onTime channel copied (listed.subset inCopies)
    obtain ⟨owner, owned, back⟩ := detachEntry_cases onTime passed
    exact back.brings owned tracks
  refine
    (before.nothing_trans
      (foldlM_brings passes before.tracked folded)).congr ?_
  simp only [listed.mem_iff]

/-- A loop whose passes each bring back what they select from the table, and
leave the rest there, brings back what any of them selects: an entry that
comes into the table meanwhile was handed over. -/
theorem foldlM_brings_selected
    {α : Type} (Selects : α → PacketSeq × WaitingFrame → Prop)
    (channel : ChannelPtr) {pass : World → α → Option World}
    (passes :
      ∀ item before after,
        SoundTables before →
        Tracked stream seq times before →
        pass before item = some after →
        SoundTables after ∧
          Brings stream seq times before
            (∃ copied ∈ (before.channels channel).waitingAck,
              Selects item copied ∧ copied.2.IsSentAgain stream seq)
            after ∧
          ∀ copied ∈ (before.channels channel).waitingAck,
            ¬ Selects item copied →
            copied ∈ (after.channels channel).waitingAck)
    {items : List α} {world next : World} (sound : SoundTables world)
    (tracked : Tracked stream seq times world)
    (folded : items.foldlM pass world = some next) :
    Brings stream seq times world
      (∃ copied ∈ (world.channels channel).waitingAck,
        (∃ item ∈ items, Selects item copied) ∧
          copied.2.IsSentAgain stream seq)
      next := by
  induction items generalizing world with
  | nil =>
      cases folded
      apply (Brings.refl tracked).congr
      simp
  | cons first items inductionHypothesis =>
      rw [List.foldlM_cons, bind_eq_some_iff] at folded
      obtain ⟨middle, passed, folded⟩ := folded
      obtain ⟨soundMiddle, one, stays⟩ :=
        passes first world middle sound tracked passed
      have rest := inductionHypothesis soundMiddle one.tracked folded
      have ofFirst :
          (∃ copied ∈ (world.channels channel).waitingAck,
            Selects first copied ∧ copied.2.IsSentAgain stream seq) →
          ∃ copied ∈ (world.channels channel).waitingAck,
            (∃ item ∈ first :: items, Selects item copied) ∧
              copied.2.IsSentAgain stream seq := by
        intro found
        obtain ⟨copied, waiting, selected, sentAgain⟩ := found
        exact
          ⟨copied, waiting, ⟨first, List.mem_cons_self, selected⟩,
            sentAgain⟩
      apply (one.trans rest).congr_of_not
      · intro either
        rcases either with
          isFirst | ⟨copied, waiting, ⟨item, listed, selected⟩, sentAgain⟩
        · exact Or.inr (ofFirst isFirst)
        · have later : item ∈ first :: items :=
            List.mem_cons_of_mem first listed
          rcases one.entries channel copied waiting sentAgain with
            old | resent
          · exact
              Or.inr ⟨copied, old, ⟨item, later, selected⟩, sentAgain⟩
          · exact (one.resent.mp resent).imp_right ofFirst
      · intro found
        obtain ⟨copied, waiting, ⟨item, listed, selected⟩, sentAgain⟩ :=
          found
        by_cases byFirst : Selects first copied
        · exact Or.inr (Or.inl ⟨copied, waiting, byFirst, sentAgain⟩)
        · have still := stays copied waiting byFirst
          rcases List.mem_cons.mp listed with isFirst | inRest
          · rw [isFirst] at selected
            exact absurd selected byFirst
          · exact
              Or.inr
                (Or.inr
                  ⟨copied, still, ⟨item, inRest, selected⟩, sentAgain⟩)

private theorem missedOne_brings
    {env : Env} {channel : ChannelPtr} {world next : World}
    {txseq : PacketSeq} (sound : SoundTables world)
    (tracked : Tracked stream seq times world)
    (passed : missedOne env channel world txseq = some next) :
    Brings stream seq times world
        (∃ copied ∈ (world.channels channel).waitingAck,
          copied.1 = txseq ∧ copied.2.IsSentAgain stream seq)
        next ∧
      ∀ copied ∈ (world.channels channel).waitingAck,
        ¬ copied.1 = txseq →
        copied ∈ (next.channels channel).waitingAck := by
  rcases missedOne_cases sound passed with
    ⟨unknown, same⟩ | ⟨entry, owner, reached, member, owned, back, kept⟩
  · subst next
    refine ⟨(Brings.refl tracked).congr ?_, fun _ waiting _ => waiting⟩
    apply iff_of_false not_false
    intro found
    obtain ⟨copied, waiting, sameKey, _⟩ := found
    have different := List.lookup_eq_none_iff.mp unknown copied waiting
    rw [sameKey] at different
    simp at different
  · have handed := back.brings owned tracked
    have isEntry :
        entry.IsSentAgain stream seq ↔
          ∃ copied ∈ (world.channels channel).waitingAck,
            copied.1 = txseq ∧ copied.2.IsSentAgain stream seq := by
      constructor
      · intro sentAgain
        exact ⟨(txseq, entry), member, rfl, sentAgain⟩
      · intro found
        obtain ⟨copied, waiting, sameKey, sentAgain⟩ := found
        have sameEntry : copied.2 = entry :=
          (sound.distinctKeys channel).value_eq
            (by rw [← sameKey]; exact waiting) member
        rw [← sameEntry]
        exact sentAgain
    rcases kept with same | same
    · rw [same]
      exact
        ⟨handed.congr isEntry, fun _ waiting _ =>
          (back.quietSteps owned).keeps waiting⟩
    · have erased :=
        handed.tracked.brings_eraseWaitingAck channel txseq
      rw [same]
      refine ⟨(handed.trans_nothing erased).congr isEntry, ?_⟩
      intro copied waiting otherKey
      have still := (back.quietSteps owned).keeps waiting
      rw [eraseWaitingAck, modifyChannel_channels_self]
      exact List.mem_filter.mpr ⟨still, decide_eq_true otherKey⟩

/-- Missing a range of packets brings back what waits under their numbers. -/
theorem missed_brings
    {env : Env} {channel : ChannelPtr} {keys : List PacketSeq}
    {world next : World} (sound : SoundTables world)
    (tracked : Tracked stream seq times world)
    (folded : keys.foldlM (missedOne env channel) world = some next) :
    Brings stream seq times world
      (∃ copied ∈ (world.channels channel).waitingAck,
        copied.1 ∈ keys ∧ copied.2.IsSentAgain stream seq)
      next := by
  have brings :=
    foldlM_brings_selected (fun key copied => copied.1 = key) channel ?_
      sound tracked folded
  · apply brings.congr
    simp
  · intro key before after soundBefore tracks passed
    exact
      ⟨(steps_acrossReturns.missedOne passed).soundTables soundBefore,
        missedOne_brings soundBefore tracks passed⟩

private theorem stop_brings
    {env : Env} {world next : World} {channel : ChannelPtr}
    (sound : SoundTables world)
    (tracked : Tracked stream seq times world)
    (returned : stop env world channel = some next) :
    Brings stream seq times world
      (∃ copied ∈ (world.channels channel).waitingAck,
        (∃ entry ∈ (world.channels channel).transmitSids,
          copied.2.frame.owner = some entry.2.1) ∧
          copied.2.IsSentAgain stream seq)
      next := by
  obtain ⟨first, second, sids, pass, before, listed, passes, folded, after⟩ :=
    stop_cases returned
  have start := before.brings tracked
  have cleared :=
    foldlM_brings_selected
      (fun entry copied => copied.2.frame.owner = some entry.2.1)
      channel ?_ (before.steps.soundTables sound) start.tracked
      folded
  · have finished := after.brings cleared.tracked
    apply ((start.nothing_trans cleared).trans_nothing finished).congr
    simp only [before.waitingAck, listed.mem_iff]
  · intro entry reached last soundReached tracks passed
    obtain ⟨attached, isCleared⟩ := passes _ _ _ passed
    exact
      ⟨(clear_steps isCleared).soundTables soundReached,
        clear_brings soundReached tracks attached isCleared,
        fun _ waiting other =>
          clear_keeps soundReached attached isCleared waiting other⟩

end Brings

/-- In every state that a run leads to, and for every entry that a call hands
back to its owner while the owner waits for its sequence number: afterwards a
frame with that number is in the queue of the owner or was handed to a
channel anew, exactly where there was such a frame in the queue before or the
call hands back a frame of the type of datagrams with that number. -/
theorem returned_segment_resent_iff
    {env : Env} {start world next : World} {calls : List Call}
    {call : Call}
    (initial : start.Initial)
    (run : CallRun env start calls world)
    (returned : call.run env world = some next) :
    ∀ channel, ∀ copied ∈ (world.channels channel).waitingAck,
      call.Covers world channel copied →
      ∀ owner, copied.2.frame.owner = some owner →
      copied.2.frame.txByteSeq ∈ (world.streams owner).txWaitingAck →
      (next.Resent owner copied.2.frame.txByteSeq
          (world.timesHanded owner copied.2.frame.txByteSeq) ↔
        world.Queued owner copied.2.frame.txByteSeq ∨
          ∃ other ∈ (world.channels channel).waitingAck,
            call.Covers world channel other ∧
              other.2.IsSentAgain owner copied.2.frame.txByteSeq) := by
  have steps := run.steps
  have sound := steps.soundTables (soundTables_of_initial initial)
  have registered := (CallRun.consistentAttachments initial run).registered
  have owned : OwnedQueues world :=
    steps.preserves (fun _ _ => ownedQueues_step)
      (ownedQueues_of_initial initial)
  intro channel copied _ covered owner _ unacknowledged
  have tracked :
      Tracked owner copied.2.frame.txByteSeq
        (world.timesHanded owner copied.2.frame.txByteSeq) world :=
    ⟨unacknowledged, Nat.le_refl _, owned⟩
  have brings :
      Brings owner copied.2.frame.txByteSeq
        (world.timesHanded owner copied.2.frame.txByteSeq) world
        (∃ other ∈ (world.channels channel).waitingAck,
          call.Covers world channel other ∧
            other.2.IsSentAgain owner copied.2.frame.txByteSeq)
        next := by
    cases call with
    | missed missedOn txseq npackets =>
        obtain ⟨sameChannel, _⟩ := covered
        subst missedOn
        apply (missed_brings sound tracked returned).congr
        simp only [Call.Covers, true_and]
    | clear cleared slot =>
        obtain ⟨attached, _⟩ := covered
        apply (clear_brings sound tracked attached returned).congr
        simp only [Call.Covers, attached, true_and]
    | detachAll detached =>
        have sameChannel : detached = channel := covered
        subst detached
        refine
          (detachAll_brings sound registered tracked returned).congr ?_
        simp only [Call.Covers, true_and]
    | stop stopped =>
        obtain ⟨sameChannel, _⟩ := covered
        subst stopped
        apply (stop_brings sound tracked returned).congr
        simp only [Call.Covers, true_and]
    | _ =>
        exact absurd covered not_false
  rw [brings.resent, Resent]
  simp only [lt_irrefl, or_false]

/-- An environment in which nothing is transmitted from a time on. -/
def Env.transmittingBefore (time : Nat) : Env :=
  { Env.constant true with
    mayTransmit := fun clock _ => decide (clock < time) }

/-- A segment without data waits under the number 2, and a datagram with its
sequence number is in the queue. -/
def datagramCalls : List Call :=
  [.construct 0 0, .start 0 true, .rxSetActive 1 .first 0 3 1,
    .setAttaching 1 .first 0 3, .setCurrent 1 .first,
    .writeData 1 0, .writeDatagram 1 1]

theorem returned_segment_resent_beside_datagram :
    ∃ world next,
      CallRun (Env.transmittingBefore 3) (World.create [1] [2])
          datagramCalls world ∧
        (Call.missed 0 2 1).run (Env.transmittingBefore 3) world =
          some next ∧
        next.Resent 1 0 (world.timesHanded 1 0) := by
  have run :
      CallRun (Env.transmittingBefore 3) (World.create [1] [2])
        datagramCalls _ :=
    CallRun.of_runAll rfl
  have resent :=
    returned_segment_resent_iff (create_initial [1] [2]) run
      (show (Call.missed 0 2 1).run _ _ = some _ from rfl) 0
      (2, ⟨TxFrame.create 1 .stream, 2⟩) (by decide)
      ⟨rfl, List.mem_cons_self⟩ 1 rfl (by decide)
  exact ⟨_, _, run, rfl, resent.mpr (Or.inl (by decide))⟩

/-- The segment is missed, and is neither in the queue of its owner nor
handed to a channel again. -/
theorem missed_segment_lost :
    ∃ world next copied,
      CallRun (Env.constant true) (World.create [1] [2])
          waitingCalls world ∧
        copied ∈ (world.channels 0).waitingAck ∧
        copied.2.frame.type = .stream ∧
        copied.2.frame.owner = some 1 ∧
        copied.2.frame.txByteSeq ∈ (world.streams 1).txWaitingAck ∧
        (Call.missed 0 2 1).Covers world 0 copied ∧
        (Call.missed 0 2 1).run (Env.constant true) world = some next ∧
        ¬ next.Resent 1 copied.2.frame.txByteSeq
          (world.timesHanded 1 copied.2.frame.txByteSeq) := by
  refine
    ⟨_, _, (2, ⟨TxFrame.create 1 .stream, 2⟩), CallRun.of_runAll rfl,
      by decide, rfl, rfl, by decide, ⟨rfl, List.mem_cons_self⟩, rfl, ?_⟩
  intro either
  rcases either with queued | handed
  · exact absurd queued (by decide)
  · exact absurd handed (by decide)

end StructuredStreams.Stream
