import StructuredStreams.Stream.TransmitLoop

/-!
# The invocations of `transmit_on`

Every invocation of `transmit_on` that a call leads to, with the world it
was made in, and the assertions that `transmit_on` and `tx_attach_data` check
there.
-/

namespace StructuredStreams.Stream

open World

/-- An invocation of `transmit_on`. -/
structure Transmission where
  world : World
  stream : StreamPtr
  channel : ChannelPtr

/-- `transmit_on` gets to `tx_attach_data` with this frame at the front of
the queue. -/
def World.attachesData
    (world : World) (stream : StreamPtr) (channel : ChannelPtr)
    (attachment : TxAttachment) (head : TxFrame) : Bool :=
  let world := world.adoptRoot stream channel
  (world.initParent stream channel attachment).isSome ||
    world.canReply stream channel head.payloadSize

/-- What `transmit_on`, and `tx_attach_data` where it gets there, assert of
the frame at the front of the queue. -/
def World.HeadAssertionsHold
    (world : World) (stream : StreamPtr) (channel : ChannelPtr)
    (slot : Slot) (head : TxFrame) : Prop :=
  let attachment := (world.streams stream).txAttachments slot
  if attachment.isAcknowledged then
    (world.streams stream).init = false ∧ attachment.active = true
  else
    world.attachesData stream channel attachment head = true →
      head.type = .stream ∧ head.txByteSeq ≤ 0xffff

/-- The assertions of `transmit_on` and `tx_attach_data`. -/
def Transmission.AssertionsHold (transmission : Transmission) : Prop :=
  let world := transmission.world
  let stream := transmission.stream
  let channel := transmission.channel
  (world.streams stream).txEnqueuedChannel = true ∧
    (world.streams stream).txCurrentAttachment ≠ none ∧
    world.currentChannel stream = some channel ∧
    (world.streams stream).txQueue ≠ [] ∧
    let world :=
      (world.setTxEnqueuedChannel stream false).collectAcked stream
    ∀ slot head rest,
      (world.streams stream).txCurrentAttachment = some slot →
      (world.streams stream).txQueue = head :: rest →
      world.HeadAssertionsHold stream channel slot head

private theorem txEnqueueChannel_isSome
    {world : World} {stream : StreamPtr} {channel : ChannelPtr}
    (current : world.currentChannel stream = some channel)
    (active : (world.channels channel).active = true) :
    (world.txEnqueueChannel stream).isSome := by
  unfold txEnqueueChannel
  split
  · rfl
  · rw [current]
    simp [active]

private theorem txData_isSome
    {env : Env} {world : World} {stream : StreamPtr}
    {channel : ChannelPtr} {frame : TxFrame}
    (current : world.currentChannel stream = some channel)
    (active : (world.channels channel).active = true) :
    (txData env world stream frame).isSome := by
  unfold txData
  rw [current, Option.bind_eq_bind, Option.bind_some,
    guard_bind_isSome_iff]
  refine ⟨active, ?_⟩
  dsimp only
  split
  · rfl
  · refine txEnqueueChannel_isSome current ?_
    rw [insertWaitingAck, tick_channels]
    exact
      (modifyChannel_field _ StreamChannel.active channel _ rfl
        channel).trans active

private theorem currentChannel_addTxInflight
    (world : World) (stream : StreamPtr) (amount : Int)
    (other : StreamPtr) :
    (world.addTxInflight stream amount).currentChannel other =
      world.currentChannel other :=
  currentChannel_modifyStream world stream _ rfl rfl other

private theorem txAttachData_isSome_iff
    {env : Env} {world : World} {stream : StreamPtr}
    {channel : ChannelPtr} {head : TxFrame} {rest : List TxFrame}
    (queue : (world.streams stream).txQueue = head :: rest)
    (current : world.currentChannel stream = some channel)
    (active : (world.channels channel).active = true) :
    (txAttachData env world stream).isSome ↔
      head.type = .stream ∧ head.txByteSeq ≤ 0xffff := by
  unfold txAttachData
  rw [queue]
  dsimp only
  rw [guard_bind_isSome_iff, guard_bind_isSome_iff]
  have returns :
      (txData env (world.setTxQueue stream rest) stream head).isSome := by
    refine txData_isSome ?_ active
    rw [currentChannel_setTxQueue]
    exact current
  exact and_congr_right fun _ => and_iff_left returns

theorem adoptRoot_keeps
    (world : World) (stream : StreamPtr) (channel : ChannelPtr) :
    (world.adoptRoot stream channel).channels = world.channels ∧
      (∀ other,
        (world.adoptRoot stream channel).currentChannel other =
          world.currentChannel other) ∧
      ∀ other,
        ((world.adoptRoot stream channel).streams other).txQueue =
          (world.streams other).txQueue := by
  obtain ⟨parent, isAdopted⟩ := adoptRoot_eq world stream channel
  rw [isAdopted]
  refine ⟨rfl, ?_, ?_⟩
  · exact currentChannel_modifyStream world stream _ rfl rfl
  · exact modifyStream_field world BaseStream.txQueue stream _ rfl

/-- Where the data goes out with the attach packet after charging it to a
stream. -/
theorem chargedAttachData_isSome_iff
    {env : Env} {world : World} {stream payer : StreamPtr}
    {channel : ChannelPtr} {head : TxFrame} {rest : List TxFrame}
    {amount : Int}
    (queue : (world.streams stream).txQueue = head :: rest)
    (current : world.currentChannel stream = some channel)
    (active : (world.channels channel).active = true) :
    (txAttachData env (world.addTxInflight payer amount) stream).isSome ↔
      head.type = .stream ∧ head.txByteSeq ≤ 0xffff := by
  have sameQueue :
      ((world.addTxInflight payer amount).streams stream).txQueue =
        (world.streams stream).txQueue :=
    modifyStream_field world BaseStream.txQueue payer _ rfl stream
  refine txAttachData_isSome_iff (sameQueue.trans queue) ?_ active
  rw [currentChannel_addTxInflight]
  exact current

private theorem transmitHead_isSome_iff
    {env : Env} {world : World} {stream : StreamPtr}
    {channel : ChannelPtr} {slot : Slot}
    (current : world.currentChannel stream = some channel)
    (active : (world.channels channel).active = true) :
    (transmitHead env world stream channel slot).isSome ↔
      ∀ head rest,
        (world.streams stream).txQueue = head :: rest →
        world.HeadAssertionsHold stream channel slot head := by
  unfold transmitHead
  cases queue : (world.streams stream).txQueue with
  | nil =>
      simp
  | cons head rest =>
      have onlyHead :
          (∀ other more, head :: rest = other :: more →
            world.HeadAssertionsHold stream channel slot other) ↔
            world.HeadAssertionsHold stream channel slot head := by
        constructor
        · intro all
          exact all head rest rfl
        · rintro holds other more ⟨⟩
          exact holds
      rw [onlyHead, HeadAssertionsHold]
      dsimp only
      by_cases acknowledged :
          ((world.streams stream).txAttachments slot).isAcknowledged = true
      · rw [if_pos acknowledged, if_pos acknowledged,
          guard_bind_isSome_iff, guard_bind_isSome_iff]
        have returns :
            (txData env
              ((world.addTxInflight stream head.payloadSize).setTxQueue
                stream rest)
              stream head).isSome := by
          refine txData_isSome ?_ active
          rw [currentChannel_setTxQueue, currentChannel_addTxInflight]
          exact current
        rw [Bool.not_eq_true]
        exact and_congr_right fun _ => and_iff_left returns
      · rw [if_neg acknowledged, if_neg acknowledged, attachesData]
        obtain ⟨sameChannels, sameCurrent, sameQueue⟩ :=
          adoptRoot_keeps world stream channel
        have adoptedQueue := (sameQueue stream).trans queue
        have adoptedCurrent := (sameCurrent stream).trans current
        rw [← sameChannels] at active
        cases parent :
            (world.adoptRoot stream channel).initParent stream channel
              ((world.streams stream).txAttachments slot) with
        | some parent =>
            dsimp only
            rw [chargedAttachData_isSome_iff adoptedQueue adoptedCurrent
              active]
            simp
        | none =>
            dsimp only
            by_cases replies :
                (world.adoptRoot stream channel).canReply stream channel
                  head.payloadSize = true
            · rw [if_pos replies,
                chargedAttachData_isSome_iff adoptedQueue adoptedCurrent
                  active]
              simp [replies]
            · rw [if_neg replies, txAttach, adoptedCurrent]
              simp [replies]

/-- On an active channel, `transmit_on` comes to its end exactly when its
assertions and those of `tx_attach_data` hold. -/
theorem transmitOn_isSome_iff
    {env : Env} {world : World} {stream : StreamPtr}
    {channel : ChannelPtr}
    (active : (world.channels channel).active = true) :
    (transmitOn env world stream channel).isSome ↔
      Transmission.AssertionsHold ⟨world, stream, channel⟩ := by
  unfold transmitOn Transmission.AssertionsHold
  dsimp only
  rw [guard_bind_isSome_iff]
  refine and_congr_right fun _ => ?_
  cases isCurrent : (world.streams stream).txCurrentAttachment with
  | none =>
      simp
  | some slot =>
      rw [Option.bind_eq_bind, Option.bind_some, guard_bind_isSome_iff,
        guard_bind_isSome_iff]
      simp only [ne_eq, reduceCtorEq, not_false_eq_true, true_and]
      refine and_congr_right fun current => and_congr_right fun _ => ?_
      have stillCurrent :
          ((world.setTxEnqueuedChannel stream false).collectAcked
            stream).currentChannel stream = some channel := by
        rw [collectAcked, currentChannel_setTxQueue,
          currentChannel_setTxEnqueuedChannel]
        exact current
      have sameSlot :
          (((world.setTxEnqueuedChannel stream false).collectAcked
            stream).streams stream).txCurrentAttachment = some slot := by
        rw [collectAcked, setTxQueue, modifyStream_streams_self,
          setTxEnqueuedChannel, modifyStream_streams_self]
        exact isCurrent
      rw [transmitHead_isSome_iff stillCurrent active]
      constructor
      · intro holds otherSlot head rest otherCurrent queue
        rw [sameSlot, Option.some.injEq] at otherCurrent
        subst otherSlot
        exact holds head rest queue
      · intro holds head rest queue
        exact holds slot head rest sameSlot queue

namespace World

/-- In the loop of `got_ready_transmit`. -/
def readyTransmitLoopTransmissions
    (env : Env) (channel : ChannelPtr) :
    (fuel : Nat) → World → List Transmission
  | 0, _ => []
  | fuel + 1, world =>
      match (world.channels channel).sendingStreams with
      | [] => []
      | stream :: rest =>
          let world :=
            world.modifyChannel channel fun entry =>
              { entry with sendingStreams := rest }
          ⟨world, stream, channel⟩ ::
            match transmitOn env world stream channel with
            | none => []
            | some world =>
                if (world.channels channel).sendingStreams.isEmpty then []
                else if env.mayTransmit world.clock channel then
                  readyTransmitLoopTransmissions env channel fuel
                    world.tick
                else []

def gotReadyTransmitTransmissions
    (env : Env) (world : World) (channel : ChannelPtr) :
    List Transmission :=
  readyTransmitLoopTransmissions env channel
    (world.readyTransmitFuel channel) world

def txEnqueueChannelNowTransmissions
    (env : Env) (world : World) (stream : StreamPtr) :
    List Transmission :=
  match world.txEnqueueChannel stream with
  | none => []
  | some world =>
      match world.currentChannel stream with
      | none => []
      | some channel =>
          if env.mayTransmit world.clock channel then
            gotReadyTransmitTransmissions env world.tick channel
          else []

def txEnqueuePacketTransmissions
    (env : Env) (world : World) (stream : StreamPtr) (frame : TxFrame) :
    List Transmission :=
  txEnqueueChannelNowTransmissions env (world.insertPacket stream frame)
    stream

def writeSegmentTransmissions
    (env : Env) (stream : StreamPtr) (world : World) (size : Nat) :
    List Transmission :=
  let frame :=
    { TxFrame.create stream .stream with
      txByteSeq := (world.streams stream).txByteSeq }
  txEnqueuePacketTransmissions env (world.holdSegment stream size) stream
    frame

def writeFragmentTransmissions
    (env : Env) (stream : StreamPtr) (world : World) (_size : Nat) :
    List Transmission :=
  let frame :=
    { TxFrame.create stream .empty with
      txByteSeq := (world.streams stream).txByteSeq }
  txEnqueuePacketTransmissions env world stream frame

def writeDatagramTransmissions
    (env : Env) (world : World) (stream : StreamPtr) (totalSize : Nat) :
    List Transmission :=
  let sizes := segmentSizes env.mtu (totalSize + 1) totalSize
  foldTrace (writeFragment env stream)
      (writeFragmentTransmissions env stream) sizes world ++
    match sizes.foldlM (writeFragment env stream) world with
    | none => []
    | some world => txEnqueueChannelNowTransmissions env world stream

/-- Only a frame that is sent again leads to transmissions. -/
def baseMissedTransmissions
    (env : Env) (world : World) (stream : StreamPtr) (frame : TxFrame) :
    List Transmission :=
  match frame.type with
  | .empty => txEnqueuePacketTransmissions env world stream frame
  | _ => []

def missedOneTransmissions
    (env : Env) (channel : ChannelPtr) (world : World)
    (txseq : PacketSeq) : List Transmission :=
  match (world.channels channel).waitingAck.lookup txseq with
  | none => []
  | some entry =>
      if entry.frame.late then []
      else
        match entry.frame.owner with
        | none => []
        | some owner =>
            (world.record (.missed entry.id)).baseMissedTransmissions env
              owner { entry.frame with late := true }

def returnFrameTransmissions
    (env : Env) (world : World) (owner : StreamPtr)
    (entry : WaitingFrame) : List Transmission :=
  if entry.frame.late then []
  else
    (world.record (.missed entry.id)).baseMissedTransmissions env owner
      { entry.frame with late := true }

def clearEntryTransmissions
    (env : Env) (stream : StreamPtr) (world : World)
    (copied : PacketSeq × WaitingFrame) : List Transmission :=
  if copied.2.frame.owner ≠ some stream then []
  else world.returnFrameTransmissions env stream copied.2

def clearTransmissions
    (env : Env) (world : World) (stream : StreamPtr) (slot : Slot) :
    List Transmission :=
  let attachment := (world.streams stream).txAttachments slot
  match attachment.channel with
  | none => []
  | some channel =>
      let sid := attachment.streamId
      if (world.channels channel).transmitSids.lookup sid =
          some (stream, slot) then
        let world := world.unregister stream slot channel sid
        let ackCopy :=
          env.iterate world.clock (world.channels channel).waitingAck
        foldTrace (clearEntry env stream channel)
          (clearEntryTransmissions env stream) ackCopy world.tick
      else []

def detachEntryTransmissions
    (env : Env) (world : World) (copied : PacketSeq × WaitingFrame) :
    List Transmission :=
  match copied.2.frame.owner with
  | none => []
  | some owner => world.returnFrameTransmissions env owner copied.2

def detachAllTransmissions
    (env : Env) (world : World) (channel : ChannelPtr) :
    List Transmission :=
  let ackCopy :=
    env.iterate world.clock (world.channels channel).waitingAck
  let tsidsCopy :=
    env.iterate (world.clock + 1) (world.channels channel).transmitSids
  let world :=
    (world.modifyChannel channel fun entry =>
      { entry with waitingAck := [] }).tick.tick
  foldTrace (fun world entry => clear env world entry.2.1 entry.2.2)
      (fun world entry => clearTransmissions env world entry.2.1 entry.2.2)
      tsidsCopy world ++
    match world.clearAll env tsidsCopy with
    | none => []
    | some world =>
        if (world.channels channel).transmitSids.isEmpty then
          foldTrace (detachEntry env) (detachEntryTransmissions env)
            ackCopy world
        else []

def stopTransmissions
    (env : Env) (world : World) (channel : ChannelPtr) :
    List Transmission :=
  let world :=
    world.modifyChannel channel fun entry => { entry with active := false }
  let tsidsCopy :=
    env.iterate world.clock (world.channels channel).transmitSids
  foldTrace
    (fun world entry => do
      let attachment :=
        (world.streams entry.2.1).txAttachments entry.2.2
      guard (attachment.channel = some channel)
      clear env world entry.2.1 entry.2.2)
    (fun world entry =>
      let attachment :=
        (world.streams entry.2.1).txAttachments entry.2.2
      if attachment.channel = some channel then
        clearTransmissions env world entry.2.1 entry.2.2
      else [])
    tsidsCopy world.tick

def recalculateTransmitWindowTransmissions
    (env : Env) (world : World) (stream : StreamPtr)
    (windowByte : UInt8) : List Transmission :=
  let windowByte := if 158 < windowByte then 158 else windowByte
  let oldWindow := (world.streams stream).txWindow
  let window : Int := 2 ^ (windowByte &&& 0x1f).toNat - 1
  let world :=
    world.modifyStream stream fun entry => { entry with txWindow := window }
  if oldWindow < window then
    txEnqueueChannelNowTransmissions env world stream
  else []

end World

private theorem transmitOn_active
    {env : Env} {world next : World} {stream : StreamPtr}
    {channel : ChannelPtr}
    (returned : transmitOn env world stream channel = some next)
    (other : ChannelPtr) :
    (next.channels other).active = (world.channels other).active := by
  obtain ⟨_, _, steps⟩ := transmitOn_eq_some returned
  exact steps.channel_field (fun _ _ => rfl) (fun _ _ => rfl) other

/-- The loop comes to its end exactly when the assertions hold in all its
passes. -/
theorem readyTransmitLoop_isSome_iff
    {env : Env} {channel : ChannelPtr} {fuel : Nat} {world : World}
    (active : (world.channels channel).active = true)
    (waiting : (world.channels channel).sendingStreams ≠ [])
    (enough : world.readyTransmitFuel channel ≤ fuel) :
    (readyTransmitLoop env channel fuel world).isSome ↔
      ∀ transmission ∈
        readyTransmitLoopTransmissions env channel fuel world,
        transmission.AssertionsHold := by
  induction fuel generalizing world with
  | zero =>
      obtain ⟨stream, rest, line⟩ := List.exists_cons_of_ne_nil waiting
      rw [readyTransmitFuel, line, List.map_cons, List.sum_cons] at enough
      omega
  | succ fuel inductionHypothesis =>
      obtain ⟨stream, rest, line⟩ := List.exists_cons_of_ne_nil waiting
      simp only [readyTransmitLoop, readyTransmitLoopTransmissions, line]
      generalize takenEq :
        (world.modifyChannel channel fun entry =>
          { entry with sendingStreams := rest }) = taken
      have takenActive : (taken.channels channel).active = true := by
        rw [← takenEq, modifyChannel_channels_self]
        exact active
      have passes :
          (transmitOn env taken stream channel).isSome ↔
            Transmission.AssertionsHold ⟨taken, stream, channel⟩ :=
        transmitOn_isSome_iff takenActive
      rw [List.forall_mem_cons, ← passes]
      cases transmitted : transmitOn env taken stream channel with
      | none =>
          simp
      | some passed =>
          have passedActive : (passed.channels channel).active = true :=
            (transmitOn_active transmitted channel).trans takenActive
          rw [← takenEq] at transmitted
          have less := transmitOn_fuel_lt line transmitted
          rw [Option.bind_eq_bind, Option.bind_some]
          dsimp only
          split
          · simp
          · next someone =>
              split
              · have remaining :
                    (readyTransmitLoop env channel fuel
                      passed.tick).isSome ↔ _ :=
                  inductionHypothesis passedActive
                    (mt List.isEmpty_iff.mpr someone)
                    (Nat.le_of_lt_succ (Nat.lt_of_lt_of_le less enough))
                exact remaining.trans (and_iff_right rfl).symm
              · simp

/-- On an active channel, `got_ready_transmit` comes to its end exactly when
the assertions hold in all its invocations of `transmit_on`. -/
theorem gotReadyTransmit_isSome_iff
    {env : Env} {channel : ChannelPtr} {world : World}
    (active : (world.channels channel).active = true) :
    (gotReadyTransmit env world channel).isSome ↔
      ∀ transmission ∈ world.gotReadyTransmitTransmissions env channel,
        transmission.AssertionsHold := by
  unfold gotReadyTransmit gotReadyTransmitTransmissions
  split
  · next nobody =>
      rw [List.isEmpty_iff] at nobody
      rw [readyTransmitFuel, nobody]
      simp [readyTransmitLoopTransmissions]
  · next waiting =>
      exact
        readyTransmitLoop_isSome_iff active
          (mt List.isEmpty_iff.mpr waiting) (Nat.le_refl _)

/-- The invocations of `transmit_on` in a call, in their order. -/
def Call.transmissions (env : Env) (world : World) :
    Call → List Transmission
  | .start channel _ =>
      gotReadyTransmitTransmissions env
        (world.modifyChannel channel fun entry =>
          { entry with active := true })
        channel
  | .stop channel => world.stopTransmissions env channel
  | .detachAll channel => world.detachAllTransmissions env channel
  | .clear stream slot => world.clearTransmissions env stream slot
  | .writeData stream totalSize =>
      if (world.streams stream).endWrite then []
      else
        foldTrace (writeSegment env stream)
          (writeSegmentTransmissions env stream)
          (segmentSizes env.mtu (totalSize + 1) totalSize) world
  | .writeDatagram stream totalSize =>
      world.writeDatagramTransmissions env stream totalSize
  | .txEnqueueChannel stream immediately =>
      if immediately then world.txEnqueueChannelNowTransmissions env stream
      else []
  | .recalculateTransmitWindow stream windowByte =>
      world.recalculateTransmitWindowTransmissions env stream windowByte
  | .gotReadyTransmit channel =>
      world.gotReadyTransmitTransmissions env channel
  | .missed channel txseq npackets =>
      foldTrace (missedOne env channel)
        (missedOneTransmissions env channel)
        (seqRange txseq npackets.toNatClampNeg) world
  | _ => []

end StructuredStreams.Stream
