import StructuredStreams.Stream.Steps
import Mathlib.Data.List.TakeWhile

/-!
# The order of the transmit queue

`tx_enqueue_packet` means to keep the queue in the order of the byte sequence
numbers, first in first out among equal ones.  Its scan passes only frames of
the same sequence number, so that a frame is put in front of all others: the
queue stays in order exactly as long as no frame is queued behind one with a
smaller sequence number.
-/

namespace StructuredStreams.Stream

open World

/-- The order of the sequence numbers, and among equal ones the order in
which `tx_enqueue_packet` inserted the frames. -/
def Precedes (earlier later : TxFrame) : Prop :=
  earlier.txByteSeq ≤ later.txByteSeq ∧
    (earlier.txByteSeq = later.txByteSeq → earlier.stamp < later.stamp)

instance (earlier later : TxFrame) : Decidable (Precedes earlier later) :=
  inferInstanceAs (Decidable (_ ∧ _))

def InOrder (queue : List TxFrame) : Prop :=
  queue.Pairwise Precedes

instance (queue : List TxFrame) : Decidable (InOrder queue) :=
  inferInstanceAs (Decidable (queue.Pairwise Precedes))

/-- The queue starts with a frame of a smaller sequence number. -/
def Overtakes (frame : TxFrame) : List TxFrame → Prop
  | [] => False
  | head :: _ => head.txByteSeq < frame.txByteSeq

instance (frame : TxFrame) (queue : List TxFrame) :
    Decidable (Overtakes frame queue) :=
  match queue with
  | [] => inferInstanceAs (Decidable False)
  | head :: _ =>
      inferInstanceAs (Decidable (head.txByteSeq < frame.txByteSeq))

private theorem sub_le_zero_iff (left right : ByteSeq) :
    left - right ≤ 0 ↔ left = right := by
  constructor
  · intro small
    have zero : left - right = 0 :=
      UInt64.le_antisymm small UInt64.zero_le
    rw [← UInt64.sub_add_cancel left right, zero, UInt64.zero_add]
  · rintro rfl
    rw [UInt64.sub_self]
    exact UInt64.le_refl 0

/-- The scan passes the leading frames of the same sequence number. -/
theorem insertFrame_eq (frame : TxFrame) (queue : List TxFrame) :
    insertFrame frame queue =
      queue.takeWhile (fun other => other.txByteSeq = frame.txByteSeq) ++
        frame ::
          queue.dropWhile
            fun other => other.txByteSeq = frame.txByteSeq := by
  have passed :
      (fun other : TxFrame =>
          decide (other.txByteSeq - frame.txByteSeq ≤ 0)) =
        fun other => decide (other.txByteSeq = frame.txByteSeq) := by
    funext other
    exact decide_eq_decide.mpr (sub_le_zero_iff _ _)
  simp only [insertFrame, passed]

theorem mem_insertFrame
    {frame other : TxFrame} {queue : List TxFrame} :
    other ∈ insertFrame frame queue ↔ other = frame ∨ other ∈ queue := by
  have split :
      other ∈ queue ↔
        other ∈
            queue.takeWhile
              (fun item => item.txByteSeq = frame.txByteSeq) ∨
          other ∈
            queue.dropWhile
              fun item => item.txByteSeq = frame.txByteSeq := by
    rw [← List.mem_append, List.takeWhile_append_dropWhile]
  rw [insertFrame_eq, List.mem_append, List.mem_cons, split]
  exact or_left_comm

/-- Behind the leading frames of its sequence number there are only frames
of a larger one, unless the new frame overtakes. -/
theorem lt_of_mem_dropWhile
    {frame other : TxFrame} {queue : List TxFrame}
    (ordered : InOrder queue)
    (notOvertaking : ¬ Overtakes frame queue)
    (member :
      other ∈
        queue.dropWhile fun item => item.txByteSeq = frame.txByteSeq) :
    frame.txByteSeq < other.txByteSeq := by
  induction queue with
  | nil =>
      cases member
  | cons head rest inductionHypothesis =>
      have headBound : frame.txByteSeq ≤ head.txByteSeq :=
        UInt64.not_lt.mp notOvertaking
      obtain ⟨headPrecedes, restOrdered⟩ := List.pairwise_cons.mp ordered
      by_cases same : head.txByteSeq = frame.txByteSeq
      · rw [List.dropWhile_cons_of_pos (by simpa using same)] at member
        refine inductionHypothesis restOrdered ?_ member
        cases rest with
        | nil =>
            exact id
        | cons second rest =>
            have secondBound :=
              (headPrecedes second List.mem_cons_self).1
            rw [same] at secondBound
            exact UInt64.not_lt.mpr secondBound
      · rw [List.dropWhile_cons_of_neg (by simpa using same)] at member
        have headLarger : frame.txByteSeq < head.txByteSeq :=
          UInt64.lt_of_le_of_ne headBound (Ne.symm same)
        rcases List.mem_cons.mp member with rfl | later
        · exact headLarger
        · exact
            UInt64.lt_of_lt_of_le headLarger (headPrecedes other later).1

/-- An insertion keeps an ordered queue in order exactly when the frame does
not overtake. -/
theorem insertFrame_inOrder_iff
    {frame : TxFrame} {queue : List TxFrame}
    (ordered : InOrder queue)
    (older : ∀ other ∈ queue, other.stamp < frame.stamp) :
    InOrder (insertFrame frame queue) ↔ ¬ Overtakes frame queue := by
  rw [insertFrame_eq]
  constructor
  · intro inserted overtakes
    cases queue with
    | nil =>
        exact overtakes
    | cons head rest =>
        have different : head.txByteSeq ≠ frame.txByteSeq :=
          UInt64.ne_of_lt overtakes
        rw [List.takeWhile_cons_of_neg (by simpa using different),
          List.dropWhile_cons_of_neg (by simpa using different)]
          at inserted
        have precedes :=
          (List.pairwise_cons.mp inserted).1 head List.mem_cons_self
        exact UInt64.not_le.mpr overtakes precedes.1
  · intro notOvertaking
    have split := ordered
    rw [InOrder,
      ← List.takeWhile_append_dropWhile
        (p := fun item : TxFrame =>
          decide (item.txByteSeq = frame.txByteSeq))
        (l := queue),
      List.pairwise_append] at split
    obtain ⟨frontOrdered, backOrdered, across⟩ := split
    refine
      List.pairwise_append.mpr
        ⟨frontOrdered, List.pairwise_cons.mpr ⟨?_, backOrdered⟩, ?_⟩
    · intro other member
      have larger := lt_of_mem_dropWhile ordered notOvertaking member
      exact ⟨UInt64.le_of_lt larger, fun same =>
        absurd same (UInt64.ne_of_lt larger)⟩
    · intro earlier earlierMember later laterMember
      rcases List.mem_cons.mp laterMember with rfl | laterMember
      · have same : earlier.txByteSeq = later.txByteSeq := by
          simpa using List.mem_takeWhile_imp earlierMember
        have inQueue :=
          (List.takeWhile_sublist _).subset earlierMember
        exact ⟨UInt64.le_of_eq same, fun _ => older earlier inQueue⟩
      · exact across earlier earlierMember later laterMember

/-- A call of `tx_enqueue_packet` found a queue that the frame overtakes. -/
def Event.Overtaking : Event → Prop
  | .enqueued _ queue frame => Overtakes frame queue
  | _ => False

instance (event : Event) : Decidable event.Overtaking :=
  match event with
  | .enqueued _ queue frame =>
      inferInstanceAs (Decidable (Overtakes frame queue))
  | .transmitted _ _ _ => inferInstanceAs (Decidable False)
  | .cleared _ _ _ => inferInstanceAs (Decidable False)
  | .missed _ => inferInstanceAs (Decidable False)
  | .acknowledged _ => inferInstanceAs (Decidable False)
  | .expired _ => inferInstanceAs (Decidable False)

def NoOvertaking (log : List Event) : Prop :=
  ∀ event ∈ log, ¬ event.Overtaking

instance (log : List Event) : Decidable (NoOvertaking log) :=
  inferInstanceAs (Decidable (∀ event ∈ log, ¬ event.Overtaking))

theorem NoOvertaking.of_cons
    {event : Event} {log : List Event}
    (none : NoOvertaking (event :: log)) :
    NoOvertaking log :=
  fun other member => none other (List.mem_cons_of_mem event member)

/-- Frames leave a queue or stay, and none comes in. -/
def OnlyDrops (world next : World) : Prop :=
  ∀ stream,
    ((next.streams stream).txQueue).Sublist (world.streams stream).txQueue

theorem onlyDrops_of_txQueue_eq
    {world next : World}
    (same :
      ∀ stream,
        (next.streams stream).txQueue =
          (world.streams stream).txQueue) :
    OnlyDrops world next := by
  intro stream
  simp [same stream]

private theorem onlyDrops_setTxQueue
    (world : World) (stream : StreamPtr) {queue : List TxFrame}
    (shorter : queue.Sublist (world.streams stream).txQueue) :
    OnlyDrops world (world.setTxQueue stream queue) := by
  intro other
  by_cases same : other = stream
  · subst other
    rw [setTxQueue, modifyStream_streams_self]
    exact shorter
  · simp [setTxQueue, modifyStream_streams_of_ne world same]

theorem TxStep.onlyDrops
    {world next : World} (step : TxStep world next) :
    OnlyDrops world next := by
  cases step with
  | join channel stream current notEnqueued =>
      exact
        onlyDrops_of_txQueue_eq
          (modifyStream_field _ BaseStream.txQueue stream _ rfl)
  | take channel stream rest sending enqueued current =>
      exact
        onlyDrops_of_txQueue_eq
          (modifyStream_field _ BaseStream.txQueue stream _ rfl)
  | collect stream =>
      exact
        onlyDrops_setTxQueue world stream (List.dropWhile_sublist _)
  | charge stream amount =>
      exact
        onlyDrops_of_txQueue_eq
          (modifyStream_field world BaseStream.txQueue stream _ rfl)
  | adopt stream channel =>
      obtain ⟨parent, isAdopted⟩ := adoptRoot_eq world stream channel
      rw [isAdopted]
      exact
        onlyDrops_of_txQueue_eq
          (modifyStream_field world BaseStream.txQueue stream _ rfl)
  | send stream channel head rest pktseq queue =>
      apply onlyDrops_setTxQueue world stream
      rw [queue]
      exact List.sublist_cons_self head rest
  | tick | attach =>
      exact onlyDrops_of_txQueue_eq fun _ => rfl

theorem QuietStep.onlyDrops_or_insertPacket
    {world next : World} (step : QuietStep world next) :
    OnlyDrops world next ∨
      ∃ stream frame,
        frame.owner = some stream ∧
          next = world.insertPacket stream frame := by
  cases step with
  | transmit step =>
      exact Or.inl step.onlyDrops
  | insertPacket stream frame owned =>
      exact Or.inr ⟨stream, frame, owned, rfl⟩
  | reprioritise channel stream enqueued current =>
      exact Or.inl (onlyDrops_of_txQueue_eq fun _ => rfl)
  | setAttaching stream slot channel attachment free unregistered =>
      refine Or.inl (onlyDrops_of_txQueue_eq fun other => ?_)
      rw [modifyChannel_streams]
      exact modifyStream_field world BaseStream.txQueue stream _ rfl other
  | setCurrent stream slot noCurrent attached =>
      exact
        Or.inl
          (onlyDrops_of_txQueue_eq
            (modifyStream_field world BaseStream.txQueue stream _ rfl))
  | other keeps =>
      exact Or.inl (onlyDrops_of_txQueue_eq keeps.txQueue)

/-- Every small step other than an insertion lets frames only leave. -/
theorem Step.onlyDrops_or_insertPacket
    {world next : World} (step : Step world next) :
    OnlyDrops world next ∨
      ∃ stream frame,
        frame.owner = some stream ∧
          next = world.insertPacket stream frame := by
  cases step with
  | quiet step =>
      exact step.onlyDrops_or_insertPacket
  | unregister stream slot channel sid attached registered =>
      exact
        Or.inl
          (onlyDrops_of_txQueue_eq
            (unregister_txQueue world stream slot channel sid))
  | account keeps =>
      exact Or.inl (onlyDrops_of_txQueue_eq keeps.txQueue)

/-- All queues are in order, and the next insertion gets a later stamp than
any frame in them. -/
structure OrderedQueues (world : World) : Prop where
  inOrder : ∀ stream, InOrder (world.streams stream).txQueue
  stamped :
    ∀ stream, ∀ frame ∈ (world.streams stream).txQueue,
      frame.stamp < world.clock

theorem OrderedQueues.onlyDrops
    {world next : World} (ordered : OrderedQueues world)
    (drops : OnlyDrops world next) (clock : world.clock ≤ next.clock) :
    OrderedQueues next where
  inOrder := fun stream =>
    (ordered.inOrder stream).sublist (drops stream)
  stamped := fun stream frame member =>
    Nat.lt_of_lt_of_le
      (ordered.stamped stream frame ((drops stream).subset member))
      clock

theorem insertPacket_txQueue
    (world : World) (stream : StreamPtr) (frame : TxFrame) :
    ((world.insertPacket stream frame).streams stream).txQueue =
      insertFrame { frame with stamp := world.clock }
        (world.streams stream).txQueue := by
  simp [insertPacket, setTxQueue]

theorem insertPacket_txQueue_of_ne
    (world : World) {stream other : StreamPtr}
    (different : other ≠ stream) (frame : TxFrame) :
    ((world.insertPacket stream frame).streams other).txQueue =
      (world.streams other).txQueue := by
  simp [insertPacket, setTxQueue, modifyStream_streams_of_ne _ different]

theorem OrderedQueues.insertPacket
    {world : World} (ordered : OrderedQueues world)
    {stream : StreamPtr} {frame : TxFrame}
    (notOvertaking :
      ¬ Overtakes { frame with stamp := world.clock }
        (world.streams stream).txQueue) :
    OrderedQueues (world.insertPacket stream frame) where
  inOrder := by
    intro other
    by_cases same : other = stream
    · subst other
      rw [insertPacket_txQueue]
      exact
        (insertFrame_inOrder_iff (ordered.inOrder stream)
          (ordered.stamped stream)).mpr notOvertaking
    · rw [insertPacket_txQueue_of_ne world same]
      exact ordered.inOrder other
  stamped := by
    intro other queued member
    change queued.stamp < world.clock + 1
    by_cases same : other = stream
    · subst other
      rw [insertPacket_txQueue, mem_insertFrame] at member
      rcases member with rfl | member
      · exact Nat.lt_succ_self world.clock
      · exact Nat.lt_succ_of_lt (ordered.stamped stream queued member)
    · rw [insertPacket_txQueue_of_ne world same] at member
      exact Nat.lt_succ_of_lt (ordered.stamped other queued member)

private theorem orderedQueues_step
    {world next : World} (step : Step world next)
    (ordered : NoOvertaking world.log → OrderedQueues world) :
    NoOvertaking next.log → OrderedQueues next := by
  intro none
  have earlier : NoOvertaking world.log := by
    rcases step.log_extends with same | ⟨event, longer⟩
    · rwa [same] at none
    · rw [longer] at none
      exact none.of_cons
  rcases step.onlyDrops_or_insertPacket with
    drops | ⟨stream, frame, _, rfl⟩
  · exact (ordered earlier).onlyDrops drops step.clock_le
  · exact (ordered earlier).insertPacket (none _ List.mem_cons_self)

private theorem orderedQueues_of_initial
    {world : World} (initial : world.Initial) :
    OrderedQueues world where
  inOrder := by
    intro stream
    obtain ⟨_, _, _, _, _, empty⟩ := initial.streams stream
    rw [empty]
    exact List.Pairwise.nil
  stamped := by
    intro stream frame member
    obtain ⟨_, _, _, _, _, empty⟩ := initial.streams stream
    rw [empty] at member
    cases member

/-- In every run in which no frame was queued behind one with a smaller
sequence number, all transmit queues are in order. -/
theorem tx_queues_in_order
    {env : Env} {start final : World} {calls : List Call}
    (initial : start.Initial)
    (run : CallRun env start calls final)
    (noOvertaking : NoOvertaking final.log)
    (stream : StreamPtr) :
    InOrder (final.streams stream).txQueue := by
  have ordered :=
    run.steps.preserves (fun _ _ => orderedQueues_step)
      (fun _ => orderedQueues_of_initial initial)
  exact (ordered noOvertaking).inOrder stream

/-- Two datagrams and a segment share a sequence number and are queued first
in first out. -/
theorem tx_queue_in_order_after_datagrams :
    ∃ final,
      CallRun (Env.constant true) (World.create [] [])
          [.writeDatagram 0 1, .writeDatagram 0 1, .writeData 0 1] final ∧
        NoOvertaking final.log ∧
        InOrder (final.streams 0).txQueue := by
  have run :
      CallRun (Env.constant true) (World.create [] [])
        [.writeDatagram 0 1, .writeDatagram 0 1, .writeData 0 1] _ :=
    CallRun.of_runAll rfl
  refine ⟨_, run, by decide, ?_⟩
  exact tx_queues_in_order (create_initial [] []) run (by decide) 0

/-- The second segment of a write is queued in front of the first. -/
theorem tx_queue_out_of_order_after_two_segments :
    ∃ final,
      CallRun (Env.constant true) (World.create [] [])
          [.writeData 0 2] final ∧
        (final.streams 0).txQueue.map TxFrame.txByteSeq = [1, 0] ∧
        ¬ InOrder (final.streams 0).txQueue := by
  refine ⟨_, CallRun.of_runAll rfl, ?_, ?_⟩
  · decide
  · decide

end StructuredStreams.Stream
