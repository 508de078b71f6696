import StructuredStreams.Stream.Conservation

/-!
# What a stream keeps of the data written to it

Only the writes of the application add to what a stream waits for, and
nothing that happens to its frames takes anything away.  The segments that
were queued are those that the data was cut into.  A datagram comes into the
queue when it is written and once more for a report that it was missed.
-/

namespace StructuredStreams.Stream

open World

/-- The sizes of the segments written to the stream. -/
def segmentsWritten (stream : StreamPtr) (written : List Write) :
    List Nat :=
  written.filterMap fun write =>
    match write with
    | .segment writer size => if writer = stream then some size else none
    | .fragment _ => none

/-- The number of the fragments of datagrams written to the stream. -/
def fragmentsWritten (stream : StreamPtr) (written : List Write) : Nat :=
  written.count (.fragment stream)

/-- The sizes that `write_data` was called with on the stream. -/
def dataWritten (stream : StreamPtr) (calls : List Call) : List Nat :=
  calls.filterMap fun call =>
    match call with
    | .writeData writer totalSize =>
        if writer = stream then some totalSize else none
    | _ => none

/-- The sizes that `write_datagram` was called with on the stream. -/
def datagramsWritten (stream : StreamPtr) (calls : List Call) :
    List Nat :=
  calls.filterMap fun call =>
    match call with
    | .writeDatagram writer totalSize =>
        if writer = stream then some totalSize else none
    | _ => none

private theorem segmentsWritten_append
    (stream : StreamPtr) (first second : List Write) :
    segmentsWritten stream (first ++ second) =
      segmentsWritten stream first ++ segmentsWritten stream second :=
  List.filterMap_append

private theorem segmentsWritten_segments
    (stream writer : StreamPtr) (sizes : List Nat) :
    segmentsWritten stream (sizes.map (Write.segment writer)) =
      if writer = stream then sizes else [] := by
  rw [segmentsWritten, List.filterMap_map]
  by_cases same : writer = stream
  · rw [if_pos same]
    simp [same]
  · rw [if_neg same]
    simp [same]

private theorem segmentsWritten_fragments
    (stream writer : StreamPtr) (sizes : List Nat) :
    segmentsWritten stream (sizes.map fun _ => Write.fragment writer) =
      [] := by
  rw [segmentsWritten, List.filterMap_map]
  simp

private theorem fragmentsWritten_segments
    (stream writer : StreamPtr) (sizes : List Nat) :
    fragmentsWritten stream (sizes.map (Write.segment writer)) = 0 := by
  rw [fragmentsWritten, List.count_eq_zero]
  intro member
  obtain ⟨size, _, impossible⟩ := List.mem_map.mp member
  cases impossible

private theorem fragmentsWritten_fragments
    (stream writer : StreamPtr) (sizes : List Nat) :
    fragmentsWritten stream (sizes.map fun _ => Write.fragment writer) =
      if writer = stream then sizes.length else 0 := by
  rw [fragmentsWritten, List.map_const', List.count_replicate]
  by_cases same : writer = stream
  · subst writer
    simp
  · simp [same]

/-- The segments of the calls are those that their data is cut into. -/
theorem segmentsWritten_calls
    (env : Env) (stream : StreamPtr) (calls : List Call) :
    segmentsWritten stream (calls.flatMap (Call.writes env)) =
      cutSizes env (dataWritten stream calls) := by
  induction calls with
  | nil =>
      rfl
  | cons call calls inductionHypothesis =>
      rw [List.flatMap_cons, segmentsWritten_append, inductionHypothesis]
      cases call with
      | writeData writer totalSize =>
          rw [Call.writes, segmentsWritten_segments]
          by_cases same : writer = stream
          · rw [if_pos same, ← cutSizes_cons]
            simp [dataWritten, same]
          · rw [if_neg same, List.nil_append]
            simp [dataWritten, same]
      | writeDatagram writer totalSize =>
          rw [Call.writes, segmentsWritten_fragments]
          rfl
      | _ =>
          rfl

/-- The fragments of the calls are those that their datagrams are cut
into. -/
theorem fragmentsWritten_calls
    (env : Env) (stream : StreamPtr) (calls : List Call) :
    fragmentsWritten stream (calls.flatMap (Call.writes env)) =
      (cutSizes env (datagramsWritten stream calls)).length := by
  induction calls with
  | nil =>
      rfl
  | cons call calls inductionHypothesis =>
      rw [List.flatMap_cons, fragmentsWritten, List.count_append,
        ← fragmentsWritten, ← fragmentsWritten, inductionHypothesis]
      cases call with
      | writeData writer totalSize =>
          rw [Call.writes, fragmentsWritten_segments, Nat.zero_add]
          rfl
      | writeDatagram writer totalSize =>
          rw [Call.writes, fragmentsWritten_fragments]
          by_cases same : writer = stream
          · rw [if_pos same, ← List.length_append, ← cutSizes_cons]
            simp [datagramsWritten, same]
          · rw [if_neg same, Nat.zero_add]
            simp [datagramsWritten, same]
      | _ =>
          simp [Call.writes, fragmentsWritten, datagramsWritten]

/-- The first bytes of segments that lie end to end from the byte on. -/
def firstBytesFrom (first : ByteSeq) (sizes : List Nat) : List ByteSeq :=
  (segmentsFrom first.toNat sizes).map Segment.txByteSeq

private theorem firstBytesFrom_snoc
    (first : ByteSeq) (sizes : List Nat) (size : Nat) :
    firstBytesFrom first (sizes ++ [size]) =
      firstBytesFrom first sizes ++ [first + UInt64.ofNat sizes.sum] := by
  rw [firstBytesFrom, segmentsFrom_append, List.map_append]
  have last :
      (segmentsFrom (first.toNat + sizes.sum) [size]).map
          Segment.txByteSeq =
        [UInt64.ofNat (first.toNat + sizes.sum)] :=
    rfl
  rw [last, UInt64.ofNat_add, UInt64.ofNat_toNat]
  rfl

/-! ## What a stream holds -/

def TxFrame.isSegment (frame : TxFrame) : Bool :=
  frame.type = .stream

/-- The first bytes of the segments that were inserted into the queue of the
stream, the latest first. -/
def World.enqueuedSegments (world : World) (stream : StreamPtr) :
    List ByteSeq :=
  ((world.enqueuedFrames stream).filter TxFrame.isSegment).map
    TxFrame.txByteSeq

/-- What the writes since the start left behind in the stream and in the
history of its queue. -/
structure HoldsWritten
    (start : World) (stream : StreamPtr) (written : List Write)
    (world : World) : Prop where
  byteSeq :
    (world.streams stream).txByteSeq =
      (start.streams stream).txByteSeq +
        UInt64.ofNat (segmentsWritten stream written).sum
  waitingAck :
    (world.streams stream).txWaitingAck =
      insertAll []
        (firstBytesFrom (start.streams stream).txByteSeq
          (segmentsWritten stream written))
  waitingSize :
    (world.streams stream).txWaitingSize =
      (start.streams stream).txWaitingSize +
        UInt64.ofNat (segmentsWritten stream written).sum
  segments :
    world.enqueuedSegments stream =
      (firstBytesFrom (start.streams stream).txByteSeq
        (segmentsWritten stream written)).reverse

namespace HoldsWritten

variable {start world next : World} {stream : StreamPtr}
variable {written : List Write}

/-- No segment is written to the stream. -/
theorem of_same
    (holds : HoldsWritten start stream written world)
    (byteSeq :
      (next.streams stream).txByteSeq = (world.streams stream).txByteSeq)
    (waitingAck :
      (next.streams stream).txWaitingAck =
        (world.streams stream).txWaitingAck)
    (waitingSize :
      (next.streams stream).txWaitingSize =
        (world.streams stream).txWaitingSize)
    (enqueued :
      next.enqueuedSegments stream = world.enqueuedSegments stream) :
    HoldsWritten start stream written next where
  byteSeq := byteSeq.trans holds.byteSeq
  waitingAck := waitingAck.trans holds.waitingAck
  waitingSize := waitingSize.trans holds.waitingSize
  segments := enqueued.trans holds.segments

theorem append
    (holds : HoldsWritten start stream written world)
    {further : List Write}
    (noSegments : segmentsWritten stream further = []) :
    HoldsWritten start stream (written ++ further) world := by
  have sameSizes :
      segmentsWritten stream (written ++ further) =
        segmentsWritten stream written := by
    rw [segmentsWritten_append, noSegments, List.append_nil]
  constructor
  · rw [sameSizes]
    exact holds.byteSeq
  · rw [sameSizes]
    exact holds.waitingAck
  · rw [sameSizes]
    exact holds.waitingSize
  · rw [sameSizes]
    exact holds.segments

theorem txStep
    (holds : HoldsWritten start stream written world)
    (step : TxStep world next) :
    HoldsWritten start stream written next := by
  refine holds.of_same ?_ (step.txWaitingAck stream) ?_ ?_
  · exact
      step.stream_field (fun _ _ => rfl) (fun _ _ => rfl)
        (fun _ _ => rfl) (fun _ _ => rfl) stream
  · exact
      step.stream_field (fun _ _ => rfl) (fun _ _ => rfl)
        (fun _ _ => rfl) (fun _ _ => rfl) stream
  · rw [enqueuedSegments, enqueuedSegments, step.enqueuedFrames]

/-- A datagram comes into a queue. -/
theorem insertDatagram
    (holds : HoldsWritten start stream written world)
    (inserted : StreamPtr) {frame : TxFrame}
    (isDatagram : frame.type = .empty) :
    HoldsWritten start stream written
      (world.insertPacket inserted frame) := by
  have same :
      ∀ {β : Type} (field : BaseStream → β),
        (∀ entry queue,
          field { entry with txQueue := queue } = field entry) →
        field ((world.insertPacket inserted frame).streams stream) =
          field (world.streams stream) :=
    fun field queued =>
      insertPacket_keepsField field queued world inserted frame stream
  refine
    holds.of_same (same BaseStream.txByteSeq fun _ _ => rfl)
      (same BaseStream.txWaitingAck fun _ _ => rfl)
      (same BaseStream.txWaitingSize fun _ _ => rfl) ?_
  rw [enqueuedSegments, enqueuedSegments, enqueuedFrames_insertPacket]
  split
  · rw [List.filter_cons_of_neg]
    simp [TxFrame.isSegment, World.stamped, isDatagram]
  · rfl

/-- A segment is held and comes into the queue. -/
theorem segmentWritten
    (holds : HoldsWritten start stream written world)
    (writer : StreamPtr) (size : Nat) :
    HoldsWritten start stream (written ++ [.segment writer size])
      (segmentWritten world writer size) := by
  by_cases same : writer = stream
  · subst writer
    have sizes :
        segmentsWritten stream (written ++ [.segment stream size]) =
          segmentsWritten stream written ++ [size] := by
      rw [segmentsWritten_append]
      simp [segmentsWritten]
    obtain ⟨frame, _, changed⟩ := segmentWritten_stream world stream size
    constructor
    · rw [changed, sizes, List.sum_append, List.sum_singleton,
        UInt64.ofNat_add, ← UInt64.add_assoc, ← holds.byteSeq]
    · rw [changed, sizes, firstBytesFrom_snoc, insertAll_snoc,
        ← holds.waitingAck, ← holds.byteSeq]
    · rw [changed, sizes, List.sum_append, List.sum_singleton,
        UInt64.ofNat_add, ← UInt64.add_assoc, ← holds.waitingSize]
    · have enqueued :
          (Stream.segmentWritten world stream size).enqueuedSegments
              stream =
            (world.streams stream).txByteSeq ::
              world.enqueuedSegments stream := by
        rw [enqueuedSegments, Stream.segmentWritten,
          enqueuedFrames_insertPacket, if_pos rfl,
          List.filter_cons_of_pos rfl]
        rfl
      rw [enqueued, sizes, firstBytesFrom_snoc, List.reverse_append,
        holds.segments, holds.byteSeq]
      rfl
  · have noSegments : segmentsWritten stream [.segment writer size] = [] :=
      List.filterMap_cons_none (if_neg same)
    have other : stream ≠ writer := Ne.symm same
    have unchanged :
        ∃ queue,
          (Stream.segmentWritten world writer size).streams stream =
            { world.streams stream with txQueue := queue } := by
      refine ⟨(world.streams stream).txQueue, ?_⟩
      rw [Stream.segmentWritten, World.insertPacket, tick_streams,
        setTxQueue, modifyStream_streams_of_ne _ other, record_streams,
        World.holdSegment, modifyStream_streams_of_ne _ other]
    obtain ⟨queue, unchanged⟩ := unchanged
    refine (holds.of_same ?_ ?_ ?_ ?_).append noSegments
    · rw [unchanged]
    · rw [unchanged]
    · rw [unchanged]
    · rw [enqueuedSegments, Stream.segmentWritten,
        enqueuedFrames_insertPacket, if_neg same]
      rfl

theorem change
    {label : Option Write}
    (holds : HoldsWritten start stream written world)
    (change : Change world label next) :
    HoldsWritten start stream (written ++ label.toList) next := by
  cases change with
  | transmit step =>
      rw [Option.toList_none, List.append_nil]
      exact holds.txStep step
  | segment writer size =>
      exact holds.segmentWritten writer size
  | fragment writer =>
      exact (holds.insertDatagram writer rfl).append rfl
  | again owner entry isEmpty =>
      rw [Option.toList_none, List.append_nil]
      have recorded :
          HoldsWritten start stream written
            (world.record (.missed entry.id)) :=
        holds.of_same rfl rfl rfl rfl
      exact recorded.insertDatagram owner isEmpty
  | record event still =>
      rw [Option.toList_none, List.append_nil]
      refine holds.of_same rfl rfl rfl ?_
      rw [enqueuedSegments, enqueuedFrames_record world still]
      rfl
  | modifyChannel channel change =>
      rw [Option.toList_none, List.append_nil]
      exact holds.of_same rfl rfl rfl rfl
  | modifyStream changed change keeps =>
      rw [Option.toList_none, List.append_nil]
      refine holds.of_same ?_ ?_ ?_ rfl
      · exact
          modifyStream_field world BaseStream.txByteSeq changed change
            keeps.txByteSeq stream
      · exact
          modifyStream_field world BaseStream.txWaitingAck changed change
            keeps.txWaitingAck stream
      · exact
          modifyStream_field world BaseStream.txWaitingSize changed change
            keeps.txWaitingSize stream

theorem of_writes
    (initial : start.Initial) (stream : StreamPtr)
    (writes : Writes start written next) :
    HoldsWritten start stream written next := by
  obtain ⟨labels, run, isWritten⟩ := writes
  rw [← isWritten]
  clear isWritten
  induction run with
  | refl =>
      obtain ⟨_, _, _, _, nothing, _⟩ := initial.streams stream
      refine
        ⟨(UInt64.add_zero _).symm, nothing, (UInt64.add_zero _).symm, ?_⟩
      rw [enqueuedSegments, enqueuedFrames, initial.log]
      rfl
  | snoc label _ taken inductionHypothesis =>
      rw [List.reduceOption_append]
      have further := inductionHypothesis.change taken
      cases label <;> exact further

end HoldsWritten

/-- In every run, the segments of a stream that were handed to a channel or
are still queued are exactly those that the data written to it was cut into,
each of them once. -/
theorem segments_sent_exactly_once
    {env : Env} {start final : World} {calls : List Call}
    (initial : start.Initial)
    (run : CallRun env start calls final) (stream : StreamPtr) :
    (((final.sentOrQueued stream).filter TxFrame.isSegment).map
        TxFrame.txByteSeq).Perm
      (firstBytesFrom (start.streams stream).txByteSeq
        (cutSizes env (dataWritten stream calls))) := by
  have holds := HoldsWritten.of_writes initial stream run.writes
  have conserved :=
    (Conserved.of_initial initial stream).writes run.writes
  have segments := holds.segments
  rw [segmentsWritten_calls] at segments
  have moved :=
    (conserved.moved.filter TxFrame.isSegment).map TxFrame.txByteSeq
  rw [← enqueuedSegments, segments] at moved
  exact moved.symm.trans (List.reverse_perm _)

/-- A segment is handed over and reported missed, its attachment is cleared,
and two more segments wait in the queue then. -/
theorem segments_sent_exactly_once_after_missed :
    ∃ final,
      CallRun (Env.constant true) (World.create [1] [2])
          (waitingCalls ++
            [.missed 0 2 1, .clear 1 .first, .writeData 1 2])
          final ∧
        (final.handedFrames 1).map TxFrame.txByteSeq = [0] ∧
        (final.streams 1).txQueue.map TxFrame.txByteSeq = [2, 1] ∧
        (((final.sentOrQueued 1).filter TxFrame.isSegment).map
            TxFrame.txByteSeq).Perm
          (firstBytesFrom 0 (cutSizes (Env.constant true) [1, 2])) := by
  have run :
      CallRun (Env.constant true) (World.create [1] [2])
        (waitingCalls ++ [.missed 0 2 1, .clear 1 .first, .writeData 1 2])
        _ :=
    CallRun.of_runAll rfl
  exact
    ⟨_, run, rfl, rfl,
      segments_sent_exactly_once (create_initial [1] [2]) run 1⟩

/-- In every run, the byte sequence of a stream and the size that waits for
an acknowledgment have grown, modulo `2 ^ 64`, by all the data ever written
to it, and `tx_waiting_ack_` holds every segment of that data: no report on a
frame releases anything. -/
theorem written_data_never_released
    {env : Env} {start final : World} {calls : List Call}
    (initial : start.Initial)
    (run : CallRun env start calls final) (stream : StreamPtr) :
    (final.streams stream).txByteSeq =
        (start.streams stream).txByteSeq +
          UInt64.ofNat (dataWritten stream calls).sum ∧
      (final.streams stream).txWaitingSize =
        (start.streams stream).txWaitingSize +
          UInt64.ofNat (dataWritten stream calls).sum ∧
      ∀ seq,
        seq ∈ (final.streams stream).txWaitingAck ↔
          seq ∈
            firstBytesFrom (start.streams stream).txByteSeq
              (cutSizes env (dataWritten stream calls)) := by
  have holds := HoldsWritten.of_writes initial stream run.writes
  have sizes := segmentsWritten_calls env stream calls
  refine ⟨?_, ?_, ?_⟩
  · rw [holds.byteSeq, sizes, cutSizes_sum]
  · rw [holds.waitingSize, sizes, cutSizes_sum]
  · intro seq
    rw [holds.waitingAck, sizes, mem_insertAll]
    simp only [List.not_mem_nil, false_or]

/-- A segment is reported missed and then acknowledged, and the stream still
holds it. -/
theorem written_data_never_released_after_acknowledgment :
    ∃ final,
      CallRun (Env.constant true) (World.create [1] [2])
          (waitingCalls ++ [.missed 0 2 1] ++ [.acknowledged 0 2 1])
          final ∧
        (final.streams 1).txByteSeq =
            0 + UInt64.ofNat (dataWritten 1 waitingCalls).sum ∧
          (final.streams 1).txWaitingSize =
            0 + UInt64.ofNat (dataWritten 1 waitingCalls).sum ∧
          ∀ seq,
            seq ∈ (final.streams 1).txWaitingAck ↔
              seq ∈
                firstBytesFrom 0
                  (cutSizes (Env.constant true)
                    (dataWritten 1 waitingCalls)) := by
  have run :
      CallRun (Env.constant true) (World.create [1] [2])
        (waitingCalls ++ [.missed 0 2 1] ++ [.acknowledged 0 2 1]) _ :=
    CallRun.of_runAll rfl
  exact
    ⟨_, run, written_data_never_released (create_initial [1] [2]) run 1⟩

def TxFrame.isDatagram (frame : TxFrame) : Bool :=
  frame.type = .empty

def Event.isMissed : Event → Bool
  | .missed _ => true
  | _ => false

/-- How often `base_stream::missed` was invoked. -/
def World.missedReports (world : World) : Nat :=
  world.log.countP Event.isMissed

/-- The fragments of the stream that were inserted into its queue. -/
def World.enqueuedDatagrams (world : World) (stream : StreamPtr) : Nat :=
  (world.enqueuedFrames stream).countP TxFrame.isDatagram

/-- Every fragment written was inserted once, and further insertions are
paid for by reports. -/
structure DatagramsPaid
    (stream : StreamPtr) (written : List Write) (world : World) :
    Prop where
  fragments_le :
    fragmentsWritten stream written ≤ world.enqueuedDatagrams stream
  le_reports :
    world.enqueuedDatagrams stream ≤
      fragmentsWritten stream written + world.missedReports

namespace DatagramsPaid

variable {world next : World} {stream : StreamPtr}
variable {written : List Write}

/-- No datagram comes into the queue of the stream. -/
theorem of_same
    (paid : DatagramsPaid stream written world)
    {further : List Write}
    (noFragments : fragmentsWritten stream further = 0)
    (enqueued :
      next.enqueuedDatagrams stream = world.enqueuedDatagrams stream)
    (missed : world.missedReports ≤ next.missedReports) :
    DatagramsPaid stream (written ++ further) next := by
  have fragments :
      fragmentsWritten stream (written ++ further) =
        fragmentsWritten stream written := by
    rw [fragmentsWritten, List.count_append, ← fragmentsWritten,
      ← fragmentsWritten, noFragments, Nat.add_zero]
  constructor
  · rw [fragments, enqueued]
    exact paid.fragments_le
  · rw [fragments, enqueued]
    exact le_trans paid.le_reports (Nat.add_le_add_left missed _)

private theorem enqueuedDatagrams_insert
    (world : World) (inserted : StreamPtr) (frame : TxFrame)
    (stream : StreamPtr) :
    (world.insertPacket inserted frame).enqueuedDatagrams stream =
      world.enqueuedDatagrams stream +
        if inserted = stream ∧ frame.type = .empty then 1 else 0 := by
  rw [World.enqueuedDatagrams, enqueuedFrames_insertPacket]
  by_cases same : inserted = stream
  · have kind :
        (world.stamped frame).isDatagram = decide (frame.type = .empty) :=
      rfl
    rw [if_pos same, List.countP_cons, kind]
    simp [same, World.enqueuedDatagrams]
  · simp [same, World.enqueuedDatagrams]

private theorem missedReports_insert
    (world : World) (inserted : StreamPtr) (frame : TxFrame) :
    (world.insertPacket inserted frame).missedReports =
      world.missedReports :=
  List.countP_cons_of_neg Bool.false_ne_true

private theorem txStep_missedReports (step : TxStep world next) :
    next.missedReports = world.missedReports := by
  cases step with
  | adopt child channel =>
      obtain ⟨parent, isAdopted⟩ := adoptRoot_eq world child channel
      rw [isAdopted]
      rfl
  | tick | join | take | collect | charge | attach =>
      rfl
  | send =>
      exact List.countP_cons_of_neg Bool.false_ne_true

theorem fragmentWritten
    (paid : DatagramsPaid stream written world) (writer : StreamPtr) :
    DatagramsPaid stream (written ++ [.fragment writer])
      (fragmentWritten world writer) := by
  have fragments :
      fragmentsWritten stream (written ++ [.fragment writer]) =
        fragmentsWritten stream written +
          if writer = stream then 1 else 0 := by
    rw [fragmentsWritten, List.count_append, List.count_singleton,
      ← fragmentsWritten]
    simp
  have enqueued :
      (Stream.fragmentWritten world writer).enqueuedDatagrams stream =
        world.enqueuedDatagrams stream +
          if writer = stream then 1 else 0 := by
    rw [Stream.fragmentWritten, enqueuedDatagrams_insert]
    simp [TxFrame.create]
  constructor
  · rw [fragments, enqueued]
    exact Nat.add_le_add_right paid.fragments_le _
  · rw [fragments, enqueued, Stream.fragmentWritten,
      missedReports_insert, Nat.add_right_comm]
    exact Nat.add_le_add_right paid.le_reports _

/-- The report pays for the insertion. -/
theorem sentAgain
    (paid : DatagramsPaid stream written world) (owner : StreamPtr)
    (entry : WaitingFrame) :
    DatagramsPaid stream written (sentAgain world owner entry) := by
  have reports :
      (Stream.sentAgain world owner entry).missedReports =
        world.missedReports + 1 := by
    rw [Stream.sentAgain, missedReports_insert]
    exact List.countP_cons_of_pos rfl
  have enqueued :=
    enqueuedDatagrams_insert (world.record (.missed entry.id)) owner
      { entry.frame with late := true } stream
  rw [← Stream.sentAgain] at enqueued
  have unchanged :
      (world.record (.missed entry.id)).enqueuedDatagrams stream =
        world.enqueuedDatagrams stream :=
    rfl
  have written_le := paid.fragments_le
  have paid_le := paid.le_reports
  constructor
  · rw [enqueued, unchanged]
    omega
  · rw [enqueued, unchanged, reports]
    split <;> omega

theorem change
    {label : Option Write} (paid : DatagramsPaid stream written world)
    (change : Change world label next) :
    DatagramsPaid stream (written ++ label.toList) next := by
  cases change with
  | transmit step =>
      refine paid.of_same rfl ?_ (le_of_eq (txStep_missedReports step).symm)
      rw [World.enqueuedDatagrams, step.enqueuedFrames]
      rfl
  | segment writer size =>
      refine paid.of_same ?_ ?_ ?_
      · simp [fragmentsWritten]
      · rw [segmentWritten, enqueuedDatagrams_insert]
        simp only [TxFrame.create, reduceCtorEq, and_false, if_false]
        rfl
      · rw [segmentWritten, missedReports_insert]
        rfl
  | fragment writer =>
      exact paid.fragmentWritten writer
  | again owner entry isEmpty =>
      rw [Option.toList_none, List.append_nil]
      exact paid.sentAgain owner entry
  | record event still =>
      refine paid.of_same rfl ?_ ?_
      · rw [World.enqueuedDatagrams, enqueuedFrames_record world still]
        rfl
      · exact (List.sublist_cons_self event world.log).countP_le
  | modifyChannel channel change =>
      exact paid.of_same rfl rfl (le_refl _)
  | modifyStream changed change keeps =>
      exact paid.of_same rfl rfl (le_refl _)

theorem of_writes
    {start : World} (initial : start.Initial) (stream : StreamPtr)
    (writes : Writes start written next) :
    DatagramsPaid stream written next := by
  obtain ⟨labels, run, isWritten⟩ := writes
  rw [← isWritten]
  clear isWritten
  induction run with
  | refl =>
      have nothing : start.enqueuedDatagrams stream = 0 := by
        rw [World.enqueuedDatagrams, enqueuedFrames, initial.log]
        rfl
      constructor
      · exact Nat.zero_le _
      · rw [nothing]
        exact Nat.zero_le _
  | snoc label _ taken inductionHypothesis =>
      rw [List.reduceOption_append]
      have further := inductionHypothesis.change taken
      cases label <;> exact further

end DatagramsPaid

/-- In every run, the datagram frames of a stream that were handed over or
are queued are the fragments of the datagrams written to it and at most one
more for each report that a frame was missed. -/
theorem datagrams_sent_bounded
    {env : Env} {start final : World} {calls : List Call}
    (initial : start.Initial)
    (run : CallRun env start calls final) (stream : StreamPtr) :
    (cutSizes env (datagramsWritten stream calls)).length ≤
        (final.sentOrQueued stream).countP TxFrame.isDatagram ∧
      (final.sentOrQueued stream).countP TxFrame.isDatagram ≤
        (cutSizes env (datagramsWritten stream calls)).length +
          final.missedReports := by
  have paid := DatagramsPaid.of_writes initial stream run.writes
  have conserved :=
    (Conserved.of_initial initial stream).writes run.writes
  rw [← fragmentsWritten_calls,
    ← conserved.moved.countP_eq TxFrame.isDatagram]
  exact ⟨paid.fragments_le, paid.le_reports⟩

theorem datagrams_sent_bounded_in_queue :
    ∃ final,
      CallRun (Env.transmittingBefore 3) (World.create [1] [2])
          datagramCalls final ∧
        (cutSizes (Env.transmittingBefore 3)
              (datagramsWritten 1 datagramCalls)).length ≤
            (final.sentOrQueued 1).countP TxFrame.isDatagram ∧
          (final.sentOrQueued 1).countP TxFrame.isDatagram ≤
            (cutSizes (Env.transmittingBefore 3)
                (datagramsWritten 1 datagramCalls)).length +
              final.missedReports := by
  have run :
      CallRun (Env.transmittingBefore 3) (World.create [1] [2])
        datagramCalls _ :=
    CallRun.of_runAll rfl
  exact
    ⟨_, run, datagrams_sent_bounded (create_initial [1] [2]) run 1⟩

end StructuredStreams.Stream
