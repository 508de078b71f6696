import StructuredStreams.Stream.Steps
import Mathlib.Algebra.Order.BigOperators.Group.List
import Mathlib.Algebra.Order.Group.Nat

/-!
# The loops of transmission

`got_ready_transmit` lets the stream at the front of the line transmit until
the line is empty or the channel may not transmit.  A stream gets back in line
only after it sent a frame of its queue, so the passes are no more than the
streams in line with their frames: the loop ends by itself.  So do the loops
of `write_data` and `write_datagram`, whose segments carry every byte.
-/

namespace StructuredStreams.Stream

open World

section Line

variable {env : Env} {world next : World} {channel : ChannelPtr}
variable {stream : StreamPtr}

/-- In the same line there is no more to do when no queue is longer. -/
theorem readyTransmitFuel_le
    (line :
      (next.channels channel).sendingStreams =
        (world.channels channel).sendingStreams)
    (shorter :
      ∀ other,
        (next.streams other).txQueue.length ≤
          (world.streams other).txQueue.length) :
    next.readyTransmitFuel channel ≤ world.readyTransmitFuel channel := by
  rw [readyTransmitFuel, readyTransmitFuel, line]
  apply List.sum_le_sum
  intro other _
  exact Nat.succ_le_succ (shorter other)

private theorem joinSendingStreams_fuel
    (world : World) (channel current : ChannelPtr) (stream : StreamPtr) :
    (world.joinSendingStreams current stream).readyTransmitFuel channel ≤
      world.readyTransmitFuel channel +
        ((world.streams stream).txQueue.length + 1) := by
  unfold joinSendingStreams
  split
  · exact Nat.le_add_right _ _
  split
  · exact Nat.le_add_right _ _
  have sameQueue (other : StreamPtr) :
      ((((world.enqueueStream current stream).setTxEnqueuedChannel
          stream true).streams other).txQueue) =
        (world.streams other).txQueue := by
    rw [setTxEnqueuedChannel]
    exact
      modifyStream_field _ (fun entry => entry.txQueue) stream _ rfl other
  by_cases here : channel = current
  · subst current
    have line :=
      insertUpperBound_perm
        (fun other =>
          decide
            ((world.streams stream).priority ≤
              (world.streams other).priority))
        stream (world.channels channel).sendingStreams
    have work :=
      (line.map fun other =>
        (world.streams other).txQueue.length + 1).sum_eq
    rw [List.map_cons, List.sum_cons] at work
    simp only [readyTransmitFuel, sameQueue]
    simp only [setTxEnqueuedChannel, enqueueStream,
      modifyStream_channels, modifyChannel_channels_self]
    omega
  · have elsewhere :
        (((world.enqueueStream current stream).setTxEnqueuedChannel
            stream true).channels channel).sendingStreams =
          (world.channels channel).sendingStreams := by
      rw [setTxEnqueuedChannel, modifyStream_channels, enqueueStream]
      rw [modifyChannel_channels_of_ne world here]
    have noMore :=
      readyTransmitFuel_le elsewhere
        (fun other => Nat.le_of_eq (congrArg List.length (sameQueue other)))
    omega

private theorem txEnqueueChannel_fuel
    (returned : world.txEnqueueChannel stream = some next) :
    next.readyTransmitFuel channel ≤
      world.readyTransmitFuel channel +
        ((world.streams stream).txQueue.length + 1) := by
  unfold txEnqueueChannel at returned
  split at returned
  · cases returned
    exact Nat.le_add_right _ _
  · rw [bind_eq_some_iff] at returned
    obtain ⟨current, _, returned⟩ := returned
    rw [guard_bind_eq_some_iff] at returned
    obtain ⟨_, returned⟩ := returned
    cases returned
    exact joinSendingStreams_fuel world channel current stream

private theorem setTxQueue_length_le
    {queue : List TxFrame}
    (shorter : queue.length ≤ (world.streams stream).txQueue.length)
    (other : StreamPtr) :
    (((world.setTxQueue stream queue).streams other).txQueue.length) ≤
      (world.streams other).txQueue.length := by
  by_cases equal : other = stream
  · subst other
    rw [setTxQueue, modifyStream_streams_self]
    exact shorter
  · rw [setTxQueue, modifyStream_streams_of_ne world equal]

private theorem txData_fuel
    {head : TxFrame} {rest : List TxFrame}
    (queue : (world.streams stream).txQueue = head :: rest)
    (returned :
      txData env (world.setTxQueue stream rest) stream head = some next) :
    next.readyTransmitFuel channel ≤
      world.readyTransmitFuel channel +
        (world.streams stream).txQueue.length := by
  unfold txData at returned
  rw [bind_eq_some_iff] at returned
  obtain ⟨current, _, returned⟩ := returned
  rw [guard_bind_eq_some_iff] at returned
  obtain ⟨_, returned⟩ := returned
  dsimp only at returned
  generalize sentEq :
    ((world.setTxQueue stream rest).record
        (.transmitted stream current head)).insertWaitingAck
      current
      (env.packetSeq (world.setTxQueue stream rest).clock)
      { head with late := false } = sent at returned
  have line :
      (sent.channels channel).sendingStreams =
        (world.channels channel).sendingStreams := by
    rw [← sentEq, insertWaitingAck_sendingStreams]
    rfl
  have streams :
      sent.streams = (world.setTxQueue stream rest).streams := by
    rw [← sentEq]
    rfl
  have noMore :
      sent.readyTransmitFuel channel ≤ world.readyTransmitFuel channel := by
    apply readyTransmitFuel_le line
    rw [streams]
    apply setTxQueue_length_le
    rw [queue, List.length_cons]
    exact Nat.le_succ _
  have left : (sent.streams stream).txQueue = rest := by
    rw [streams, setTxQueue, modifyStream_streams_self]
  rw [queue, List.length_cons]
  split at returned
  · cases returned
    omega
  · have joined :
        next.readyTransmitFuel channel ≤
          sent.readyTransmitFuel channel +
            ((sent.streams stream).txQueue.length + 1) :=
      txEnqueueChannel_fuel returned
    rw [left] at joined
    omega

private theorem txAttachData_fuel
    (returned : txAttachData env world stream = some next) :
    next.readyTransmitFuel channel ≤
      world.readyTransmitFuel channel +
        (world.streams stream).txQueue.length := by
  unfold txAttachData at returned
  split at returned
  · cases returned
  · next head rest queue =>
      rw [guard_bind_eq_some_iff, guard_bind_eq_some_iff] at returned
      exact txData_fuel queue returned.2.2

/-- Where no queue changes, there is as much to do. -/
theorem modifyStream_work
    (world : World) (changed : StreamPtr)
    (change : BaseStream → BaseStream)
    (same : ∀ entry, (change entry).txQueue = entry.txQueue)
    (channel : ChannelPtr) (stream : StreamPtr) :
    (world.modifyStream changed change).readyTransmitFuel channel +
        ((world.modifyStream changed change).streams stream).txQueue.length =
      world.readyTransmitFuel channel +
        (world.streams stream).txQueue.length := by
  have sameQueue (other : StreamPtr) :
      ((world.modifyStream changed change).streams other).txQueue =
        (world.streams other).txQueue :=
    modifyStream_field world (fun entry => entry.txQueue) changed change
      (same _) other
  simp only [readyTransmitFuel, sameQueue, modifyStream_channels]

private theorem addTxInflight_work
    (world : World) (charged : StreamPtr) (amount : Int)
    (channel : ChannelPtr) (stream : StreamPtr) :
    (world.addTxInflight charged amount).readyTransmitFuel channel +
        ((world.addTxInflight charged amount).streams
          stream).txQueue.length =
      world.readyTransmitFuel channel +
        (world.streams stream).txQueue.length := by
  apply modifyStream_work
  intro entry
  rfl

private theorem adoptRoot_work
    (world : World) (stream : StreamPtr) (channel : ChannelPtr) :
    (world.adoptRoot stream channel).readyTransmitFuel channel +
        ((world.adoptRoot stream channel).streams stream).txQueue.length =
      world.readyTransmitFuel channel +
        (world.streams stream).txQueue.length := by
  obtain ⟨parent, isAdopted⟩ := adoptRoot_eq world stream channel
  rw [isAdopted]
  apply modifyStream_work
  intro entry
  rfl

/-- The part of `transmit_on` after the garbage collection lets the stream
back in line at most once, with a frame less. -/
theorem transmitHead_fuel
    {slot : Slot}
    (returned : transmitHead env world stream channel slot = some next) :
    next.readyTransmitFuel channel ≤
      world.readyTransmitFuel channel +
        (world.streams stream).txQueue.length := by
  unfold transmitHead at returned
  split at returned
  · cases returned
    exact Nat.le_add_right _ _
  · next head rest queue =>
      simp only at returned
      split at returned
      · rw [guard_bind_eq_some_iff, guard_bind_eq_some_iff] at returned
        obtain ⟨_, _, returned⟩ := returned
        rw [← addTxInflight_work world stream head.payloadSize]
        apply txData_fuel _ returned
        rw [addTxInflight, modifyStream_streams_self]
        exact queue
      · rw [← adoptRoot_work]
        generalize world.adoptRoot stream channel = adopted at returned ⊢
        split at returned
        · next parent _ =>
            rw [← addTxInflight_work adopted parent head.payloadSize]
            exact txAttachData_fuel returned
        · split at returned
          · rw [← addTxInflight_work adopted stream head.payloadSize]
            exact txAttachData_fuel returned
          · unfold txAttach at returned
            rw [bind_eq_some_iff] at returned
            obtain ⟨current, _, returned⟩ := returned
            cases returned
            have noMore :
                (adopted.insertWaitingAck current
                    (env.packetSeq adopted.clock)
                    (TxFrame.create stream .stream)).readyTransmitFuel
                    channel ≤
                  adopted.readyTransmitFuel channel :=
              readyTransmitFuel_le
                (insertWaitingAck_sendingStreams adopted current _ _ channel)
                (fun _ => Nat.le_refl _)
            exact Nat.le_add_right_of_le noMore

/-- A pass of the loop leaves less to do. -/
theorem transmitOn_fuel_lt
    {rest : List StreamPtr}
    (sending :
      (world.channels channel).sendingStreams = stream :: rest)
    (returned :
      transmitOn env
        (world.modifyChannel channel fun entry =>
          { entry with sendingStreams := rest })
        stream channel = some next) :
    next.readyTransmitFuel channel < world.readyTransmitFuel channel := by
  unfold transmitOn at returned
  rw [guard_bind_eq_some_iff, bind_eq_some_iff] at returned
  obtain ⟨_, slot, _, returned⟩ := returned
  rw [guard_bind_eq_some_iff, guard_bind_eq_some_iff] at returned
  obtain ⟨_, _, returned⟩ := returned
  have sent := transmitHead_fuel returned
  generalize takenEq :
    (world.modifyChannel channel fun entry =>
        { entry with sendingStreams := rest }).setTxEnqueuedChannel
      stream false = taken at sent
  have sameQueue (other : StreamPtr) :
      (taken.streams other).txQueue = (world.streams other).txQueue := by
    rw [← takenEq, setTxEnqueuedChannel]
    exact
      modifyStream_field _ (fun entry => entry.txQueue) stream _ rfl other
  have line : (taken.channels channel).sendingStreams = rest := by
    rw [← takenEq, setTxEnqueuedChannel, modifyStream_channels]
    rw [modifyChannel_channels_self]
  have shorter :
      ((taken.streams stream).txQueue.dropWhile
          (alreadyAcked (taken.streams stream))).length ≤
        (taken.streams stream).txQueue.length :=
    (List.dropWhile_sublist _).length_le
  have collected :
      (taken.collectAcked stream).readyTransmitFuel channel ≤
        taken.readyTransmitFuel channel :=
    readyTransmitFuel_le rfl (setTxQueue_length_le shorter)
  have collectedQueue :
      ((taken.collectAcked stream).streams stream).txQueue.length ≤
        (taken.streams stream).txQueue.length :=
    setTxQueue_length_le shorter stream
  have before :
      world.readyTransmitFuel channel =
        (world.streams stream).txQueue.length + 1 +
          taken.readyTransmitFuel channel := by
    simp only [readyTransmitFuel, sending, line, sameQueue, List.map_cons,
      List.sum_cons]
  rw [sameQueue] at collectedQueue
  omega

end Line

/-- With enough fuel the loop does not depend on it: it ends by itself or at
an assertion that fails. -/
theorem readyTransmitLoop_congr
    {env : Env} {channel : ChannelPtr} {world : World} {first second : Nat}
    (enoughFirst : world.readyTransmitFuel channel ≤ first)
    (enoughSecond : world.readyTransmitFuel channel ≤ second) :
    readyTransmitLoop env channel first world =
      readyTransmitLoop env channel second world := by
  induction first generalizing world second with
  | zero =>
      have nobody : (world.channels channel).sendingStreams = [] := by
        cases line : (world.channels channel).sendingStreams with
        | nil =>
            rfl
        | cons stream rest =>
            rw [readyTransmitFuel, line, List.map_cons, List.sum_cons]
              at enoughFirst
            omega
      cases second with
      | zero =>
          rfl
      | succ second =>
          simp only [readyTransmitLoop, nobody]
  | succ first inductionHypothesis =>
      cases line : (world.channels channel).sendingStreams with
      | nil =>
          cases second with
          | zero =>
              simp only [readyTransmitLoop, line]
          | succ second =>
              simp only [readyTransmitLoop, line]
      | cons stream rest =>
          cases second with
          | zero =>
              rw [readyTransmitFuel, line, List.map_cons, List.sum_cons]
                at enoughSecond
              omega
          | succ second =>
              simp only [readyTransmitLoop, line]
              apply Option.bind_congr
              intro middle transmitted
              have less := transmitOn_fuel_lt line transmitted
              have further :
                  readyTransmitLoop env channel first middle.tick =
                    readyTransmitLoop env channel second middle.tick :=
                inductionHypothesis
                  (Nat.le_of_lt_succ (Nat.lt_of_lt_of_le less enoughFirst))
                  (Nat.le_of_lt_succ (Nat.lt_of_lt_of_le less enoughSecond))
              rw [further]

/-- The fuel that the signal is given is enough. -/
theorem gotReadyTransmit_eq_loop
    {env : Env} {channel : ChannelPtr} {world : World} {fuel : Nat}
    (waiting : (world.channels channel).sendingStreams ≠ [])
    (enough : world.readyTransmitFuel channel ≤ fuel) :
    gotReadyTransmit env world channel =
      readyTransmitLoop env channel fuel world := by
  rw [gotReadyTransmit, if_neg]
  · exact readyTransmitLoop_congr (Nat.le_refl _) enough
  · rw [List.isEmpty_iff]
    exact waiting

/-- The segments that the loops cut are as long as what is written. -/
theorem segmentSizes_sum
    {mtu fuel total : Nat} (positive : 0 < mtu) (enough : total < fuel) :
    (segmentSizes mtu fuel total).sum = total := by
  induction fuel generalizing total with
  | zero =>
      omega
  | succ fuel inductionHypothesis =>
      rw [segmentSizes]
      split
      · simp
      · rw [List.sum_cons, inductionHypothesis (by omega)]
        omega

theorem TxSteps.txByteSeq
    {world next : World} (steps : TxSteps world next) (stream : StreamPtr) :
    (next.streams stream).txByteSeq = (world.streams stream).txByteSeq :=
  steps.stream_field (fun _ _ => rfl) (fun _ _ => rfl)
    (fun _ _ => rfl) (fun _ _ => rfl) stream

theorem writeSegment_txByteSeq
    {env : Env} {world next : World} {stream : StreamPtr} {size : Nat}
    (returned : writeSegment env stream world size = some next) :
    (next.streams stream).txByteSeq =
      (world.streams stream).txByteSeq + UInt64.ofNat size := by
  rw [writeSegment, txEnqueuePacket] at returned
  rw [TxSteps.txByteSeq (txEnqueueChannelNow_steps returned)]
  rw [insertPacket, tick_streams, setTxQueue, modifyStream_streams_self]
  rw [record_streams, holdSegment, modifyStream_streams_self]

end StructuredStreams.Stream
