import Mathlib.Algebra.BigOperators.Group.List.Basic
import StructuredStreams.Foundation.Guarded
import StructuredStreams.Foundation.Tiling
import StructuredStreams.Stream.TransmitLoop

/-!
# Cutting the written data into segments

`write_data` as the loop of the source, with its return value and with the
segments it queues, and sequences of such calls on a stream that has no
channel yet.  The segments lie end to end, but a segment is known to
`tx_waiting_ack_` only by its first byte: the empty segment of an empty
write shares its byte with whatever is written next.
-/

namespace StructuredStreams.Stream

open World

/-- A segment as it is queued: its first byte and its size. -/
structure Segment where
  txByteSeq : ByteSeq
  size : Nat
  deriving DecidableEq, Repr

/-- What calls of `write_data` return and leave behind. -/
structure Writing where
  actualSizes : List Nat
  segments : List Segment
  world : World

/-- The loop of `write_data` from the point where `totalSize` bytes are left
and `actualSize` are written, cut off after `fuel` passes. -/
def writeDataLoop (env : Env) (stream : StreamPtr) :
    (fuel totalSize actualSize : Nat) → World →
      Option (Nat × List Segment × World)
  | 0, _, _, _ => none
  | fuel + 1, totalSize, actualSize, world => do
      let size := if totalSize ≤ env.mtu then totalSize else env.mtu
      let segment := ⟨(world.streams stream).txByteSeq, size⟩
      let world ← writeSegment env stream world size
      let totalSize := totalSize - size
      let actualSize := actualSize + size
      if 0 < totalSize then
        let (actualSize, segments, world) ←
          writeDataLoop env stream fuel totalSize actualSize world
        return (actualSize, segment :: segments, world)
      else
        return (actualSize, [segment], world)

/-- One call, with its return value and the segments it queued. -/
def writeDataCall
    (env : Env) (world : World) (stream : StreamPtr) (totalSize : Nat) :
    Option (Nat × List Segment × World) := do
  guard (¬ (world.streams stream).endWrite)
  writeDataLoop env stream (totalSize + 1) totalSize 0 world

/-- A sequence of calls. -/
def writeCalls (env : Env) (stream : StreamPtr) :
    (totalSizes : List Nat) → World → Option Writing
  | [], world => some ⟨[], [], world⟩
  | totalSize :: totalSizes, world => do
      let (actualSize, segments, world) ←
        writeDataCall env world stream totalSize
      let later ← writeCalls env stream totalSizes world
      return {
        later with
        actualSizes := actualSize :: later.actualSizes
        segments := segments ++ later.segments }

/-- The loop has the effect of the fold over the segment sizes. -/
theorem writeDataLoop_world
    (env : Env) (stream : StreamPtr) (fuel totalSize actualSize : Nat)
    (world : World) (enough : totalSize < fuel) :
    (writeDataLoop env stream fuel totalSize actualSize world).map
        (fun written => written.2.2) =
      (segmentSizes env.mtu fuel totalSize).foldlM
        (writeSegment env stream) world := by
  induction fuel generalizing totalSize actualSize world with
  | zero =>
      omega
  | succ fuel inductionHypothesis =>
      have positive := env.mtuPositive
      rw [writeDataLoop, segmentSizes]
      by_cases last : totalSize ≤ env.mtu
      · simp only [if_pos last, Nat.sub_self, Nat.lt_irrefl, if_false,
          List.foldlM_cons, List.foldlM_nil]
        cases writeSegment env stream world totalSize <;> rfl
      · have remaining : 0 < totalSize - env.mtu := by
          omega
        simp only [if_neg last, if_pos remaining, List.foldlM_cons]
        cases writeSegment env stream world env.mtu with
        | none =>
            rfl
        | some middle =>
            have rest :=
              inductionHypothesis (totalSize - env.mtu)
                (actualSize + env.mtu) middle (by omega)
            simp only [Option.bind_eq_bind, Option.bind_some]
            rw [← rest]
            cases writeDataLoop env stream fuel (totalSize - env.mtu)
                (actualSize + env.mtu) middle <;> rfl

/-- A call with its results has the effect of `writeData`. -/
theorem writeDataCall_world
    (env : Env) (world : World) (stream : StreamPtr) (totalSize : Nat) :
    (writeDataCall env world stream totalSize).map
        (fun written => written.2.2) =
      writeData env world stream totalSize := by
  unfold writeDataCall writeData
  by_cases ended : (world.streams stream).endWrite = true
  · simp [ended]
  · have effect :=
      writeDataLoop_world env stream (totalSize + 1) totalSize 0 world
        (Nat.lt_succ_self totalSize)
    simpa [ended] using effect

/-- A stream to which nothing was written and which has no channel. -/
structure NewUnattached (world : World) (stream : StreamPtr) : Prop where
  unattached : (world.streams stream).txCurrentAttachment = none
  writable : (world.streams stream).endWrite = false
  byteSeq : (world.streams stream).txByteSeq = 0
  waitingAck : (world.streams stream).txWaitingAck = []
  waitingSize : (world.streams stream).txWaitingSize = 0
  queue : (world.streams stream).txQueue = []

/-- The calls return the sizes they are given; the segments are at most
`mtu` bytes long and tile the interval from 0 to the sum of the sizes, which
is also the next byte and the total that waits for an acknowledgment; and
`tx_waiting_ack_` has one entry for each queued segment. -/
def Segmented
    (env : Env) (world : World) (stream : StreamPtr)
    (totalSizes : List Nat) : Prop :=
  ∃ written,
    writeCalls env stream totalSizes world = some written ∧
      written.actualSizes = totalSizes ∧
      (∀ segment ∈ written.segments, segment.size ≤ env.mtu) ∧
      Tiles 0
        (written.segments.map fun segment =>
          (segment.txByteSeq.toNat, segment.size))
        totalSizes.sum ∧
      (written.world.streams stream).txByteSeq.toNat = totalSizes.sum ∧
      (written.world.streams stream).txWaitingSize.toNat =
        totalSizes.sum ∧
      ((written.world.streams stream).txQueue.map
          TxFrame.txByteSeq).Perm
        (written.segments.map Segment.txByteSeq) ∧
      (written.world.streams stream).txWaitingAck.Perm
        (written.segments.map Segment.txByteSeq)

/-- The sequence numbers do not wrap, and nothing is written after an empty
write. -/
def Distinguished (totalSizes : List Nat) : Prop :=
  totalSizes.sum < 2 ^ 64 ∧ ∀ size ∈ totalSizes.dropLast, 0 < size

private theorem txEnqueueChannelNow_unattached
    (env : Env) {world : World} {stream : StreamPtr}
    (unattached : (world.streams stream).txCurrentAttachment = none) :
    txEnqueueChannelNow env world stream = some world := by
  have notCurrent : world.currentChannel stream = none := by
    simp [currentChannel, unattached]
  simp [txEnqueueChannelNow, txEnqueueChannel, unattached, notCurrent]

/-- The world after a segment is held and queued. -/
def segmentWritten
    (world : World) (stream : StreamPtr) (size : Nat) : World :=
  (world.holdSegment stream size).insertPacket stream
    { TxFrame.create stream .stream with
      txByteSeq := (world.streams stream).txByteSeq }

theorem segmentWritten_stream
    (world : World) (stream : StreamPtr) (size : Nat) :
    ∃ frame : TxFrame,
      frame.txByteSeq = (world.streams stream).txByteSeq ∧
        (segmentWritten world stream size).streams stream =
          { world.streams stream with
            txByteSeq :=
              (world.streams stream).txByteSeq + UInt64.ofNat size
            txWaitingAck :=
              (world.streams stream).txWaitingAck.insert
                (world.streams stream).txByteSeq
            txWaitingSize :=
              (world.streams stream).txWaitingSize + UInt64.ofNat size
            txQueue :=
              insertFrame frame (world.streams stream).txQueue } := by
  refine
    ⟨{ TxFrame.create stream .stream with
        txByteSeq := (world.streams stream).txByteSeq
        stamp := world.clock }, rfl, ?_⟩
  simp only [segmentWritten, insertPacket, tick_streams, setTxQueue,
    record_streams, modifyStream_streams_self, holdSegment]
  rfl

private theorem writeSegment_unattached
    (env : Env) {world : World} {stream : StreamPtr} (size : Nat)
    (unattached : (world.streams stream).txCurrentAttachment = none) :
    writeSegment env stream world size =
      some (segmentWritten world stream size) := by
  apply txEnqueueChannelNow_unattached
  obtain ⟨frame, _, changed⟩ := segmentWritten_stream world stream size
  have kept :
      ((segmentWritten world stream size).streams
        stream).txCurrentAttachment = none := by
    rw [changed]
    exact unattached
  exact kept

/-! ## Whole calls -/

/-- Segments of the given sizes, numbered modulo `2 ^ 64`. -/
def segmentsFrom (first : Nat) (sizes : List Nat) : List Segment :=
  (piecesFrom first sizes).map fun piece =>
    ⟨UInt64.ofNat piece.1, piece.2⟩

/-- The first bytes of segments that start at byte 0. -/
def firstBytes (sizes : List Nat) : List ByteSeq :=
  (segmentsFrom 0 sizes).map Segment.txByteSeq

/-- The state of a stream without a channel after segments of these sizes
were written to it. -/
structure Wrote
    (world : World) (stream : StreamPtr) (sizes : List Nat) : Prop where
  unattached : (world.streams stream).txCurrentAttachment = none
  writable : (world.streams stream).endWrite = false
  byteSeq :
    (world.streams stream).txByteSeq = UInt64.ofNat sizes.sum
  waitingAck :
    (world.streams stream).txWaitingAck = insertAll [] (firstBytes sizes)
  waitingSize :
    (world.streams stream).txWaitingSize = UInt64.ofNat sizes.sum
  queue :
    ((world.streams stream).txQueue.map TxFrame.txByteSeq).Perm
      (firstBytes sizes)

theorem segmentsFrom_append (first : Nat) (sizes further : List Nat) :
    segmentsFrom first (sizes ++ further) =
      segmentsFrom first sizes ++
        segmentsFrom (first + sizes.sum) further := by
  rw [segmentsFrom, piecesFrom_append, List.map_append]
  rfl

private theorem firstBytes_snoc (sizes : List Nat) (size : Nat) :
    firstBytes (sizes ++ [size]) =
      firstBytes sizes ++ [UInt64.ofNat sizes.sum] := by
  rw [firstBytes, segmentsFrom_append, List.map_append, Nat.zero_add]
  rfl

theorem insertFrame_perm (frame : TxFrame) (queue : List TxFrame) :
    (insertFrame frame queue).Perm (frame :: queue) := by
  unfold insertFrame
  dsimp only
  refine List.perm_middle.trans ?_
  rw [List.takeWhile_append_dropWhile]

private theorem NewUnattached.wrote
    {world : World} {stream : StreamPtr}
    (new : NewUnattached world stream) : Wrote world stream [] where
  unattached := new.unattached
  writable := new.writable
  byteSeq := new.byteSeq
  waitingAck := new.waitingAck
  waitingSize := new.waitingSize
  queue := by
    rw [new.queue]
    exact List.Perm.refl _

theorem Wrote.segmentWritten
    {world : World} {stream : StreamPtr} {sizes : List Nat}
    (wrote : Wrote world stream sizes) (size : Nat) :
    Wrote (segmentWritten world stream size) stream
      (sizes ++ [size]) := by
  obtain ⟨frame, start, changed⟩ :=
    segmentWritten_stream world stream size
  rw [wrote.byteSeq] at start
  constructor
  · rw [changed]
    exact wrote.unattached
  · rw [changed]
    exact wrote.writable
  · rw [changed]
    dsimp only
    rw [wrote.byteSeq, ← UInt64.ofNat_add, List.sum_append,
      List.sum_singleton]
  · rw [changed, firstBytes_snoc, insertAll_snoc, ← wrote.waitingAck,
      ← wrote.byteSeq]
  · rw [changed]
    dsimp only
    rw [wrote.waitingSize, ← UInt64.ofNat_add, List.sum_append,
      List.sum_singleton]
  · rw [changed, firstBytes_snoc]
    dsimp only
    have inserted :=
      (insertFrame_perm frame (world.streams stream).txQueue).map
        TxFrame.txByteSeq
    rw [List.map_cons, start] at inserted
    refine inserted.trans ?_
    refine (wrote.queue.cons _).trans ?_
    exact (List.perm_append_singleton _ _).symm

private theorem writeDataLoop_unattached
    (env : Env) {stream : StreamPtr} (fuel totalSize actualSize : Nat)
    {world : World} {sizes : List Nat}
    (wrote : Wrote world stream sizes) (enough : totalSize < fuel) :
    ∃ next,
      writeDataLoop env stream fuel totalSize actualSize world =
          some
            (actualSize + totalSize,
              segmentsFrom sizes.sum
                (segmentSizes env.mtu fuel totalSize),
              next) ∧
        Wrote next stream
          (sizes ++ segmentSizes env.mtu fuel totalSize) := by
  induction fuel generalizing totalSize actualSize world sizes with
  | zero =>
      omega
  | succ fuel inductionHypothesis =>
      have positive := env.mtuPositive
      rw [writeDataLoop, segmentSizes]
      by_cases last : totalSize ≤ env.mtu
      · simp only [if_pos last, Nat.sub_self, Nat.lt_irrefl, if_false]
        refine ⟨_, ?_, wrote.segmentWritten totalSize⟩
        rw [writeSegment_unattached env totalSize wrote.unattached,
          wrote.byteSeq]
        rfl
      · have remaining : 0 < totalSize - env.mtu := by
          omega
        obtain ⟨next, rest, wroteAll⟩ :=
          inductionHypothesis (totalSize - env.mtu)
            (actualSize + env.mtu) (wrote.segmentWritten env.mtu)
            (by omega)
        rw [List.sum_append, List.sum_singleton] at rest
        rw [List.append_assoc, List.singleton_append] at wroteAll
        refine ⟨next, ?_, ?_⟩
        · simp only [if_neg last, if_pos remaining]
          rw [writeSegment_unattached env env.mtu wrote.unattached,
            wrote.byteSeq]
          simp only [Option.bind_eq_bind, Option.bind_some, rest]
          have whole :
              actualSize + env.mtu + (totalSize - env.mtu) =
                actualSize + totalSize := by
            omega
          rw [whole]
          rfl
        · rw [if_neg last]
          exact wroteAll

/-- The sizes of all segments that the calls queue. -/
def cutSizes (env : Env) (totalSizes : List Nat) : List Nat :=
  totalSizes.flatMap fun totalSize =>
    segmentSizes env.mtu (totalSize + 1) totalSize

theorem cutSizes_cons
    (env : Env) (totalSize : Nat) (totalSizes : List Nat) :
    cutSizes env (totalSize :: totalSizes) =
      segmentSizes env.mtu (totalSize + 1) totalSize ++
        cutSizes env totalSizes :=
  List.flatMap_cons

private theorem writeCalls_unattached
    (env : Env) {stream : StreamPtr} (totalSizes : List Nat)
    {world : World} {sizes : List Nat}
    (wrote : Wrote world stream sizes) :
    ∃ next,
      writeCalls env stream totalSizes world =
          some
            ⟨totalSizes,
              segmentsFrom sizes.sum (cutSizes env totalSizes), next⟩ ∧
        Wrote next stream (sizes ++ cutSizes env totalSizes) := by
  induction totalSizes generalizing world sizes with
  | nil =>
      refine ⟨world, rfl, ?_⟩
      rw [cutSizes, List.flatMap_nil, List.append_nil]
      exact wrote
  | cons totalSize totalSizes inductionHypothesis =>
      obtain ⟨middle, call, wroteCall⟩ :=
        writeDataLoop_unattached env (totalSize + 1) totalSize 0 wrote
          (Nat.lt_succ_self totalSize)
      obtain ⟨next, calls, wroteAll⟩ := inductionHypothesis wroteCall
      rw [Nat.zero_add] at call
      rw [List.append_assoc, ← cutSizes_cons] at wroteAll
      rw [List.sum_append] at calls
      refine ⟨next, ?_, wroteAll⟩
      have writable : ¬ (world.streams stream).endWrite = true := by
        rw [wrote.writable]
        exact Bool.false_ne_true
      have returned :
          writeDataCall env world stream totalSize =
            some
              (totalSize,
                segmentsFrom sizes.sum
                  (segmentSizes env.mtu (totalSize + 1) totalSize),
                middle) :=
        guard_bind_eq_some_iff.mpr ⟨writable, call⟩
      rw [writeCalls, returned]
      simp only [Option.bind_eq_bind, Option.bind_some, calls]
      rw [cutSizes_cons, segmentsFrom_append]
      rfl

private theorem segmentSizes_le
    {mtu fuel total size : Nat}
    (member : size ∈ segmentSizes mtu fuel total) : size ≤ mtu := by
  induction fuel generalizing total with
  | zero =>
      cases member
  | succ fuel inductionHypothesis =>
      rw [segmentSizes] at member
      split at member
      · rename_i last
        rw [List.mem_singleton.mp member]
        exact last
      · rcases List.mem_cons.mp member with rfl | later
        · exact le_refl size
        · exact inductionHypothesis later

private theorem segmentSizes_ne_nil (mtu fuel total : Nat) :
    segmentSizes mtu (fuel + 1) total ≠ [] := by
  rw [segmentSizes]
  split <;> exact List.cons_ne_nil _ _

/-- Only the segment of an empty write is empty. -/
theorem segmentSizes_positive_iff
    {mtu fuel total : Nat} (positive : 0 < mtu) (enough : total < fuel) :
    (∀ size ∈ segmentSizes mtu fuel total, 0 < size) ↔ 0 < total := by
  induction fuel generalizing total with
  | zero =>
      omega
  | succ fuel inductionHypothesis =>
      rw [segmentSizes]
      split
      · exact List.forall_mem_singleton
      · rw [List.forall_mem_cons, inductionHypothesis (by omega)]
        omega

private theorem segmentSizes_dropLast_positive
    {mtu : Nat} (positive : 0 < mtu) (fuel total : Nat) :
    ∀ size ∈ (segmentSizes mtu fuel total).dropLast, 0 < size := by
  induction fuel generalizing total with
  | zero =>
      intro size member
      cases member
  | succ fuel inductionHypothesis =>
      rw [segmentSizes]
      split
      · intro size member
        cases member
      · intro size member
        cases rest : segmentSizes mtu fuel (total - mtu) with
        | nil =>
            rw [rest] at member
            cases member
        | cons next later =>
            rw [rest, List.dropLast_cons_cons] at member
            rcases List.mem_cons.mp member with rfl | further
            · exact positive
            · apply inductionHypothesis (total - mtu)
              rw [rest]
              exact further

theorem cutSizes_sum (env : Env) (totalSizes : List Nat) :
    (cutSizes env totalSizes).sum = totalSizes.sum := by
  induction totalSizes with
  | nil =>
      rfl
  | cons totalSize totalSizes inductionHypothesis =>
      rw [cutSizes_cons, List.sum_append, inductionHypothesis,
        segmentSizes_sum env.mtuPositive (Nat.lt_succ_self totalSize),
        List.sum_cons]

private theorem cutSizes_le
    {env : Env} {totalSizes : List Nat} {size : Nat}
    (member : size ∈ cutSizes env totalSizes) : size ≤ env.mtu := by
  obtain ⟨totalSize, _, isSegment⟩ := List.mem_flatMap.mp member
  exact segmentSizes_le isSegment

/-- All segments but the last are non-empty exactly when all writes but the
last are. -/
theorem cutSizes_dropLast_positive_iff
    (env : Env) (totalSizes : List Nat) :
    (∀ size ∈ (cutSizes env totalSizes).dropLast, 0 < size) ↔
      ∀ size ∈ totalSizes.dropLast, 0 < size := by
  induction totalSizes with
  | nil =>
      exact Iff.rfl
  | cons totalSize totalSizes inductionHypothesis =>
      rw [cutSizes_cons]
      cases totalSizes with
      | nil =>
          have only : cutSizes env [] = [] := rfl
          rw [only, List.append_nil]
          refine
            ⟨?_, fun _ =>
              segmentSizes_dropLast_positive env.mtuPositive _ _⟩
          intro _ size member
          cases member
      | cons next totalSizes =>
          have notLast : cutSizes env (next :: totalSizes) ≠ [] := by
            rw [cutSizes_cons]
            exact
              List.append_ne_nil_of_left_ne_nil
                (segmentSizes_ne_nil _ _ _) _
          rw [List.dropLast_append_of_ne_nil notLast,
            List.forall_mem_append, inductionHypothesis,
            segmentSizes_positive_iff env.mtuPositive
              (Nat.lt_succ_self totalSize),
            List.dropLast_cons_cons, List.forall_mem_cons]

/-- Without wrapping, the first bytes are as distinct as the numbers they
stand for. -/
theorem firstBytes_nodup_iff
    {sizes : List Nat} (fits : sizes.sum < 2 ^ 64) :
    (firstBytes sizes).Nodup ↔ ∀ size ∈ sizes.dropLast, 0 < size := by
  rw [← starts_nodup_iff 0 sizes]
  have numbers :
      firstBytes sizes =
        ((piecesFrom 0 sizes).map Prod.fst).map UInt64.ofNat := by
    simp only [firstBytes, segmentsFrom, List.map_map]
    rfl
  rw [numbers]
  constructor
  · exact List.Nodup.of_map UInt64.ofNat
  · intro distinct
    refine List.Nodup.map_on ?_ distinct
    intro left isLeft right isRight same
    obtain ⟨leftPiece, leftMember, rfl⟩ := List.mem_map.mp isLeft
    obtain ⟨rightPiece, rightMember, rfl⟩ := List.mem_map.mp isRight
    have leftBound := (start_bounds leftMember).2
    have rightBound := (start_bounds rightMember).2
    have equal := congrArg UInt64.toNat same
    rw [UInt64.toNat_ofNat', UInt64.toNat_ofNat',
      Nat.mod_eq_of_lt (by omega), Nat.mod_eq_of_lt (by omega)] at equal
    exact equal

private theorem segmentsFrom_tile
    {sizes : List Nat} (fits : sizes.sum < 2 ^ 64) :
    Tiles 0
      ((segmentsFrom 0 sizes).map fun segment =>
        (segment.txByteSeq.toNat, segment.size))
      sizes.sum := by
  have pieces :
      ((segmentsFrom 0 sizes).map fun segment =>
        (segment.txByteSeq.toNat, segment.size)) =
      piecesFrom 0 sizes := by
    rw [segmentsFrom, List.map_map, List.map_congr_left, List.map_id]
    intro piece member
    have bound := (start_bounds member).2
    have number : (UInt64.ofNat piece.1).toNat = piece.1 := by
      rw [UInt64.toNat_ofNat', Nat.mod_eq_of_lt (by omega)]
    exact Prod.ext number rfl
  rw [pieces]
  have tiled := tiles_piecesFrom 0 sizes
  rwa [Nat.zero_add] at tiled

/-- Calls of `write_data` on a new stream without a channel segment the data
as promised if and only if the sequence numbers do not wrap and no call
follows an empty write. -/
theorem segmented_iff_distinguished
    (env : Env) {world : World} {stream : StreamPtr}
    (totalSizes : List Nat) (new : NewUnattached world stream) :
    Segmented env world stream totalSizes ↔ Distinguished totalSizes := by
  obtain ⟨next, calls, wrote⟩ :=
    writeCalls_unattached env totalSizes new.wrote
  rw [List.nil_append] at wrote
  have sum := cutSizes_sum env totalSizes
  constructor
  · rintro ⟨written, returned, _, _, _, byteSeq, _, _, waitingAck⟩
    rw [calls] at returned
    cases returned
    have fits : totalSizes.sum < 2 ^ 64 := by
      rw [← byteSeq]
      exact UInt64.toNat_lt _
    refine ⟨fits, ?_⟩
    rw [← sum] at fits
    rw [← cutSizes_dropLast_positive_iff env,
      ← firstBytes_nodup_iff fits]
    dsimp only at waitingAck
    rw [wrote.waitingAck] at waitingAck
    exact (insertAll_perm_iff _).mp waitingAck
  · rintro ⟨fits, positive⟩
    rw [← sum] at fits
    have distinct : (firstBytes (cutSizes env totalSizes)).Nodup := by
      rw [firstBytes_nodup_iff fits, cutSizes_dropLast_positive_iff]
      exact positive
    have waitingAck := (insertAll_perm_iff _).mpr distinct
    rw [← wrote.waitingAck] at waitingAck
    refine
      ⟨_, calls, rfl, ?_, ?_, ?_, ?_, wrote.queue, waitingAck⟩
    · intro segment member
      obtain ⟨piece, isPiece, rfl⟩ := List.mem_map.mp member
      exact cutSizes_le (size_mem_of_mem_piecesFrom isPiece)
    · rw [← sum]
      exact segmentsFrom_tile fits
    · dsimp only
      rw [wrote.byteSeq, ← sum, UInt64.toNat_ofNat',
        Nat.mod_eq_of_lt fits]
    · dsimp only
      rw [wrote.waitingSize, sum, UInt64.toNat_ofNat',
        Nat.mod_eq_of_lt (sum ▸ fits)]

private theorem newUnattached_create (stream : StreamPtr) :
    NewUnattached (World.create [] []) stream where
  unattached := rfl
  writable := rfl
  byteSeq := rfl
  waitingAck := rfl
  waitingSize := rfl
  queue := rfl

/-- Three bytes and then an empty write, which ends the sequence. -/
theorem segmented_with_empty_write_at_the_end :
    NewUnattached (World.create [] []) 0 ∧
      Segmented (Env.constant true) (World.create [] []) 0 [3, 0] :=
  ⟨newUnattached_create 0,
    (segmented_iff_distinguished (Env.constant true) [3, 0]
      (newUnattached_create 0)).mpr
      ⟨by decide, by decide⟩⟩

/-- An empty write and then one byte: two segments, one entry. -/
theorem empty_write_not_segmented :
    ¬ Segmented (Env.constant true) (World.create [] []) 0 [0, 1] := by
  rintro ⟨written, returned, _, _, _, _, _, _, waitingAck⟩
  obtain ⟨next, calls, wrote⟩ :=
    writeCalls_unattached (Env.constant true) [0, 1]
      (newUnattached_create 0).wrote
  rw [calls] at returned
  cases returned
  have lengths := waitingAck.length_eq
  dsimp only at lengths
  rw [wrote.waitingAck] at lengths
  revert lengths
  decide

end StructuredStreams.Stream
