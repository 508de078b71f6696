import Mathlib.Data.List.Count
import StructuredStreams.Stream.Changes
import StructuredStreams.Stream.NoLoss

/-!
# What becomes of the frames that are queued

A frame that was inserted into a transmit queue is there until it is handed
to a channel, exactly once.  The garbage collection of `transmit_on` drops
none: no function takes a segment out of `tx_waiting_ack_`.  So the segments
that were handed over or are still queued are those that the writes were cut
into, and a stream holds onto all the data that was ever written to it.
-/

namespace StructuredStreams.Stream

open World

/-- The frame that `tx_enqueue_packet` inserted for the stream. -/
def Event.frameEnqueued (stream : StreamPtr) : Event → Option TxFrame
  | .enqueued owner _ frame => if owner = stream then some frame else none
  | _ => none

/-- The frame that `tx_data` handed over for the stream. -/
def Event.frameHanded (stream : StreamPtr) : Event → Option TxFrame
  | .transmitted sender _ frame =>
      if sender = stream then some frame else none
  | _ => none

/-- All frames that were inserted into the queue of the stream, the latest
first. -/
def World.enqueuedFrames (world : World) (stream : StreamPtr) :
    List TxFrame :=
  world.log.filterMap (Event.frameEnqueued stream)

/-- All frames of the stream that were handed to a channel, the latest
first. -/
def World.handedFrames (world : World) (stream : StreamPtr) :
    List TxFrame :=
  world.log.filterMap (Event.frameHanded stream)

/-- The frames that were handed over and those that are still queued. -/
def World.sentOrQueued (world : World) (stream : StreamPtr) :
    List TxFrame :=
  world.handedFrames stream ++ (world.streams stream).txQueue

/-- An event that moves no frame adds none to the history. -/
theorem enqueuedFrames_record
    (world : World) {event : Event} (still : ¬ event.Moves)
    (stream : StreamPtr) :
    (world.record event).enqueuedFrames stream =
      world.enqueuedFrames stream := by
  cases event with
  | enqueued | transmitted =>
      exact absurd trivial still
  | cleared | missed | acknowledged | expired =>
      rfl

private theorem handedFrames_record
    (world : World) {event : Event} (still : ¬ event.Moves)
    (stream : StreamPtr) :
    (world.record event).handedFrames stream =
      world.handedFrames stream := by
  cases event with
  | enqueued | transmitted =>
      exact absurd trivial still
  | cleared | missed | acknowledged | expired =>
      rfl

/-- The frame as it is inserted now. -/
def World.stamped (world : World) (frame : TxFrame) : TxFrame :=
  { frame with stamp := world.clock }

theorem enqueuedFrames_insertPacket
    (world : World) (stream : StreamPtr) (frame : TxFrame)
    (other : StreamPtr) :
    (world.insertPacket stream frame).enqueuedFrames other =
      if stream = other then
        world.stamped frame :: world.enqueuedFrames other
      else world.enqueuedFrames other := by
  change
    List.filterMap (Event.frameEnqueued other)
        (.enqueued stream (world.streams stream).txQueue
          (world.stamped frame) :: world.log) = _
  by_cases same : stream = other
  · simp only [List.filterMap_cons, Event.frameEnqueued, if_pos same]
    rfl
  · simp only [List.filterMap_cons, Event.frameEnqueued, if_neg same]
    rfl

/-- An insertion changes only the queue of a stream. -/
theorem insertPacket_keepsField
    {β : Type} (field : BaseStream → β)
    (queued :
      ∀ entry queue, field { entry with txQueue := queue } = field entry)
    (world : World) (stream : StreamPtr) (frame : TxFrame)
    (other : StreamPtr) :
    field ((world.insertPacket stream frame).streams other) =
      field (world.streams other) := by
  rw [insertPacket, tick_streams, setTxQueue]
  exact modifyStream_field _ field stream _ (queued _ _) other

private theorem handedFrames_insertPacket
    (world : World) (stream : StreamPtr) (frame : TxFrame)
    (other : StreamPtr) :
    (world.insertPacket stream frame).handedFrames other =
      world.handedFrames other :=
  rfl

/-- Transmissions insert nothing. -/
theorem TxStep.enqueuedFrames
    {world next : World} (step : TxStep world next) (stream : StreamPtr) :
    next.enqueuedFrames stream = world.enqueuedFrames stream := by
  cases step with
  | adopt child channel =>
      obtain ⟨parent, isAdopted⟩ := adoptRoot_eq world child channel
      rw [isAdopted]
      rfl
  | tick | join | take | collect | charge | attach | send =>
      rfl

/-- What was inserted is handed over or queued; queued segments are waited
for; and no two insertions have the same stamp. -/
structure Conserved (world : World) (stream : StreamPtr) : Prop where
  moved :
    (world.enqueuedFrames stream).Perm (world.sentOrQueued stream)
  held :
    ∀ frame ∈ (world.streams stream).txQueue, frame.type = .stream →
      frame.txByteSeq ∈ (world.streams stream).txWaitingAck
  stamped :
    ∀ frame ∈ world.enqueuedFrames stream, frame.stamp < world.clock
  distinct : ((world.enqueuedFrames stream).map TxFrame.stamp).Nodup

namespace Conserved

variable {world next : World} {stream : StreamPtr}

/-- A change that moves no frame of the stream. -/
theorem of_same
    (conserved : Conserved world stream)
    (enqueued :
      next.enqueuedFrames stream = world.enqueuedFrames stream)
    (handed : next.handedFrames stream = world.handedFrames stream)
    (queue :
      (next.streams stream).txQueue = (world.streams stream).txQueue)
    (waiting :
      (next.streams stream).txWaitingAck =
        (world.streams stream).txWaitingAck)
    (clock : world.clock ≤ next.clock) :
    Conserved next stream where
  moved := by
    rw [sentOrQueued, enqueued, handed, queue]
    exact conserved.moved
  held := by
    rw [queue, waiting]
    exact conserved.held
  stamped := by
    rw [enqueued]
    intro frame member
    exact Nat.lt_of_lt_of_le (conserved.stamped frame member) clock
  distinct := by
    rw [enqueued]
    exact conserved.distinct

/-- Garbage collection finds nothing to drop. -/
theorem collectAcked_eq (conserved : Conserved world stream) :
    (world.streams stream).txQueue.dropWhile
        (alreadyAcked (world.streams stream)) =
      (world.streams stream).txQueue := by
  cases queue : (world.streams stream).txQueue with
  | nil =>
      rfl
  | cons head rest =>
      have inQueue : head ∈ (world.streams stream).txQueue := by
        rw [queue]
        exact List.mem_cons_self
      apply List.dropWhile_cons_of_neg
      intro acknowledged
      obtain ⟨isStream, absent⟩ := of_decide_eq_true acknowledged
      exact absent (conserved.held head inQueue isStream)

/-- The front of the queue is handed over. -/
theorem send
    (conserved : Conserved world stream) {channel : ChannelPtr}
    {head : TxFrame} {rest : List TxFrame} (pktseq : PacketSeq)
    (frame : TxFrame)
    (queue : (world.streams stream).txQueue = head :: rest) :
    Conserved
      (((world.setTxQueue stream rest).record
        (.transmitted stream channel head)).insertWaitingAck channel
          pktseq frame) stream where
  moved := by
    have enqueued := conserved.moved
    rw [sentOrQueued, queue] at enqueued
    have handed :
        (((world.setTxQueue stream rest).record
            (.transmitted stream channel head)).insertWaitingAck channel
              pktseq frame).handedFrames stream =
          head :: world.handedFrames stream := by
      change
        List.filterMap (Event.frameHanded stream)
            (.transmitted stream channel head :: world.log) = _
      rw [List.filterMap_cons_some]
      · rfl
      · exact if_pos rfl
    rw [sentOrQueued, handed]
    change
      (world.enqueuedFrames stream).Perm
        (head :: world.handedFrames stream ++
          ((world.setTxQueue stream rest).streams stream).txQueue)
    rw [setTxQueue, modifyStream_streams_self]
    exact enqueued.trans List.perm_middle
  held := by
    change
      ∀ queued ∈ ((world.setTxQueue stream rest).streams stream).txQueue,
        _ → _ ∈ ((world.setTxQueue stream rest).streams
          stream).txWaitingAck
    rw [setTxQueue, modifyStream_streams_self]
    intro queued member isStream
    refine conserved.held queued ?_ isStream
    rw [queue]
    exact List.mem_cons_of_mem head member
  stamped := fun queued member =>
    Nat.lt_succ_of_lt (conserved.stamped queued member)
  distinct := conserved.distinct

theorem txStep
    (conserved : Conserved world stream) (step : TxStep world next) :
    Conserved next stream := by
  have waiting := step.txWaitingAck stream
  have clock := step.clock_le
  cases step with
  | tick | attach =>
      exact conserved.of_same rfl rfl rfl waiting clock
  | join channel joined =>
      refine conserved.of_same rfl rfl ?_ waiting clock
      exact modifyStream_field _ BaseStream.txQueue joined _ rfl stream
  | take channel taken =>
      refine conserved.of_same rfl rfl ?_ waiting clock
      exact modifyStream_field _ BaseStream.txQueue taken _ rfl stream
  | charge payer amount =>
      refine conserved.of_same rfl rfl ?_ waiting clock
      exact modifyStream_field _ BaseStream.txQueue payer _ rfl stream
  | adopt child channel =>
      obtain ⟨parent, isAdopted⟩ := adoptRoot_eq world child channel
      rw [isAdopted] at waiting clock ⊢
      refine conserved.of_same rfl rfl ?_ waiting clock
      exact modifyStream_field _ BaseStream.txQueue child _ rfl stream
  | collect collected =>
      refine conserved.of_same rfl rfl ?_ waiting clock
      rw [collectAcked, setTxQueue]
      by_cases same : stream = collected
      · subst collected
        rw [modifyStream_streams_self]
        exact conserved.collectAcked_eq
      · rw [modifyStream_streams_of_ne world same]
  | send sender channel head rest pktseq queue =>
      by_cases same : stream = sender
      · subst sender
        exact conserved.send pktseq _ queue
      · refine conserved.of_same rfl ?_ ?_ waiting clock
        · exact
            List.filterMap_cons_none (if_neg (Ne.symm same))
        · rw [insertWaitingAck, tick_streams, modifyChannel_streams,
            record_streams, setTxQueue,
            modifyStream_streams_of_ne world same]

/-- A datagram, or a segment that is held, comes into the queue. -/
theorem insertPacket
    (conserved : Conserved world stream) (inserted : StreamPtr)
    {frame : TxFrame}
    (held :
      inserted = stream → frame.type = .stream →
        frame.txByteSeq ∈ (world.streams stream).txWaitingAck) :
    Conserved (world.insertPacket inserted frame) stream := by
  have waiting :
      ((world.insertPacket inserted frame).streams stream).txWaitingAck =
        (world.streams stream).txWaitingAck :=
    insertPacket_keepsField BaseStream.txWaitingAck (fun _ _ => rfl) world
      inserted frame stream
  by_cases same : inserted = stream
  · subst inserted
    have enqueued :
        (world.insertPacket stream frame).enqueuedFrames stream =
          world.stamped frame :: world.enqueuedFrames stream := by
      rw [enqueuedFrames_insertPacket, if_pos rfl]
    constructor
    · rw [sentOrQueued, enqueued, handedFrames_insertPacket,
        insertPacket_txQueue]
      have placed :=
        (insertFrame_perm (world.stamped frame)
          (world.streams stream).txQueue).append_left
          (world.handedFrames stream)
      refine List.Perm.trans ?_ placed.symm
      exact (conserved.moved.cons _).trans List.perm_middle.symm
    · rw [insertPacket_txQueue, waiting]
      intro queued member isStream
      rcases mem_insertFrame.mp member with isInserted | old
      · rw [isInserted] at isStream ⊢
        exact held rfl isStream
      · exact conserved.held queued old isStream
    · rw [enqueued]
      intro queued member
      rcases List.mem_cons.mp member with isInserted | old
      · rw [isInserted]
        exact Nat.lt_succ_self world.clock
      · exact Nat.lt_succ_of_lt (conserved.stamped queued old)
    · rw [enqueued, List.map_cons, List.nodup_cons]
      refine ⟨?_, conserved.distinct⟩
      intro member
      obtain ⟨older, isOlder, sameStamp⟩ := List.mem_map.mp member
      have earlier := conserved.stamped older isOlder
      rw [sameStamp] at earlier
      exact Nat.lt_irrefl world.clock earlier
  · have different : stream ≠ inserted := Ne.symm same
    refine conserved.of_same ?_ rfl ?_ waiting (Nat.le_succ _)
    · rw [enqueuedFrames_insertPacket, if_neg same]
    · exact insertPacket_txQueue_of_ne world different frame

theorem holdSegment
    (conserved : Conserved world stream) (holder : StreamPtr)
    (size : Nat) :
    Conserved (world.holdSegment holder size) stream := by
  have queue :
      ((world.holdSegment holder size).streams stream).txQueue =
        (world.streams stream).txQueue :=
    modifyStream_field world BaseStream.txQueue holder _ rfl stream
  refine
    ⟨?_, ?_, conserved.stamped, conserved.distinct⟩
  · rw [sentOrQueued, queue]
    exact conserved.moved
  · rw [queue]
    intro frame member isStream
    have waiting := conserved.held frame member isStream
    rw [World.holdSegment]
    by_cases same : stream = holder
    · subst holder
      rw [modifyStream_streams_self]
      exact List.mem_insert_of_mem waiting
    · rwa [modifyStream_streams_of_ne world same]

theorem segmentWritten
    (conserved : Conserved world stream) (writer : StreamPtr)
    (size : Nat) :
    Conserved (segmentWritten world writer size) stream := by
  refine (conserved.holdSegment writer size).insertPacket writer ?_
  rintro rfl _
  rw [World.holdSegment, modifyStream_streams_self]
  exact List.mem_insert_self

theorem change
    {label : Option Write} (conserved : Conserved world stream)
    (change : Change world label next) :
    Conserved next stream := by
  cases change with
  | transmit step =>
      exact conserved.txStep step
  | segment writer size =>
      exact conserved.segmentWritten writer size
  | fragment writer =>
      exact conserved.insertPacket writer fun _ isStream => by cases isStream
  | again owner entry isEmpty =>
      have recorded : Conserved (world.record (.missed entry.id)) stream :=
        conserved.of_same rfl rfl rfl rfl (Nat.le_refl _)
      refine recorded.insertPacket owner fun _ isStream => ?_
      rw [show entry.frame.type = .stream from isStream] at isEmpty
      cases isEmpty
  | record event still =>
      exact
        conserved.of_same (enqueuedFrames_record world still stream)
          (handedFrames_record world still stream) rfl rfl (Nat.le_refl _)
  | modifyChannel channel change =>
      exact conserved.of_same rfl rfl rfl rfl (Nat.le_refl _)
  | modifyStream changed change keeps =>
      refine conserved.of_same rfl rfl ?_ ?_ (Nat.le_refl _)
      · exact
          modifyStream_field world BaseStream.txQueue changed change
            keeps.txQueue stream
      · exact
          modifyStream_field world BaseStream.txWaitingAck changed change
            keeps.txWaitingAck stream

theorem writes
    {written : List Write} (conserved : Conserved world stream)
    (writes : Writes world written next) :
    Conserved next stream := by
  obtain ⟨labels, run, -⟩ := writes
  induction run with
  | refl =>
      exact conserved
  | snoc label _ taken inductionHypothesis =>
      exact inductionHypothesis.change taken

theorem of_initial (initial : world.Initial) (stream : StreamPtr) :
    Conserved world stream := by
  obtain ⟨_, _, _, _, _, empty⟩ := initial.streams stream
  have nothing : world.enqueuedFrames stream = [] := by
    rw [enqueuedFrames, initial.log]
    rfl
  constructor
  · rw [sentOrQueued, handedFrames, initial.log, empty, nothing]
    exact List.Perm.refl []
  · rw [empty]
    exact fun _ member _ => absurd member List.not_mem_nil
  · rw [nothing]
    exact fun _ member => absurd member List.not_mem_nil
  · rw [nothing]
    exact List.nodup_nil

end Conserved

/-- In every run, every frame that was ever inserted into a transmit queue
has been handed to a channel exactly once or is still in the queue, and
never both. -/
theorem frames_conserved
    {env : Env} {start final : World} {calls : List Call}
    (initial : start.Initial)
    (run : CallRun env start calls final) (stream : StreamPtr) :
    (final.enqueuedFrames stream).Perm (final.sentOrQueued stream) ∧
      (final.sentOrQueued stream).Nodup := by
  have conserved :=
    (Conserved.of_initial initial stream).writes run.writes
  have distinct := conserved.distinct.of_map TxFrame.stamp
  exact ⟨conserved.moved, conserved.moved.nodup_iff.mp distinct⟩

/-- A segment is handed over, and a datagram is still in the queue. -/
theorem frames_conserved_with_datagram :
    ∃ final,
      CallRun (Env.transmittingBefore 3) (World.create [1] [2])
          datagramCalls final ∧
        (final.enqueuedFrames 1).Perm (final.sentOrQueued 1) ∧
          (final.sentOrQueued 1).Nodup := by
  have run :
      CallRun (Env.transmittingBefore 3) (World.create [1] [2])
          datagramCalls _ :=
    CallRun.of_runAll rfl
  exact ⟨_, run, frames_conserved (create_initial [1] [2]) run 1⟩

end StructuredStreams.Stream
