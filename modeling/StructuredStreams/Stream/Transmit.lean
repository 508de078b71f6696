import StructuredStreams.Stream.State

/-!
# Transmission

The functions of streams and channels that queue, transmit and return
frames.  An assertion that fails and a null pointer that is followed end the
call with `none`.  The handlers that an application may connect to the
signals of a stream do nothing here.
-/

namespace StructuredStreams.Stream

namespace World

/-- `enqueue_stream`: the streams that must follow are those of at least the
priority of the new one. -/
def enqueueStream
    (world : World) (channel : ChannelPtr) (stream : StreamPtr) : World :=
  let prio := (world.streams stream).priority
  world.modifyChannel channel fun entry =>
    { entry with
      sendingStreams :=
        insertUpperBound
          (fun other => decide (prio ≤ (world.streams other).priority))
          stream entry.sendingStreams }

def dequeueStream
    (world : World) (channel : ChannelPtr) (stream : StreamPtr) : World :=
  world.modifyChannel channel fun entry =>
    { entry with
      sendingStreams := entry.sendingStreams.filter (· ≠ stream) }

def setTxEnqueuedChannel
    (world : World) (stream : StreamPtr) (enqueued : Bool) : World :=
  world.modifyStream stream fun entry =>
    { entry with txEnqueuedChannel := enqueued }

/-- Get in line on the channel, unless there already or with nothing to
send. -/
def joinSendingStreams
    (world : World) (channel : ChannelPtr) (stream : StreamPtr) : World :=
  if (world.streams stream).txEnqueuedChannel then world
  else if (world.streams stream).txQueue.isEmpty then world
  else
    (world.enqueueStream channel stream).setTxEnqueuedChannel stream true

/-- `tx_enqueue_channel` without immediate transmission.  The body of
`attach_for_transmit` is commented out. -/
def txEnqueueChannel
    (world : World) (stream : StreamPtr) : Option World :=
  match (world.streams stream).txCurrentAttachment with
  | none => some world
  | some _ => do
      let channel ← world.currentChannel stream
      guard (world.channels channel).active
      return world.joinSendingStreams channel stream

/-- Enter a frame in `waiting_ack_`, which leaves an existing entry of that
packet sequence number alone. -/
def insertWaitingAck
    (world : World) (channel : ChannelPtr) (pktseq : PacketSeq)
    (frame : TxFrame) : World :=
  (world.modifyChannel channel fun entry =>
    { entry with
      waitingAck :=
        if (entry.waitingAck.lookup pktseq).isSome then entry.waitingAck
        else (pktseq, ⟨frame, world.clock⟩) :: entry.waitingAck }).tick

def eraseWaitingAck
    (world : World) (channel : ChannelPtr) (pktseq : PacketSeq) : World :=
  world.modifyChannel channel fun entry =>
    { entry with
      waitingAck := entry.waitingAck.filter (·.1 ≠ pktseq) }

def setTxQueue
    (world : World) (stream : StreamPtr) (queue : List TxFrame) : World :=
  world.modifyStream stream fun entry => { entry with txQueue := queue }

def addTxInflight
    (world : World) (stream : StreamPtr) (amount : Int) : World :=
  world.modifyStream stream fun entry =>
    { entry with txInflight := entry.txInflight + amount }

def txAttach
    (env : Env) (world : World) (stream : StreamPtr) : Option World := do
  let channel ← world.currentChannel stream
  return world.insertWaitingAck channel (env.packetSeq world.clock)
    (TxFrame.create stream .stream)

def txData
    (env : Env) (world : World) (stream : StreamPtr) (frame : TxFrame) :
    Option World := do
  let channel ← world.currentChannel stream
  guard (world.channels channel).active
  let world :=
    (world.record (.transmitted stream channel frame)).insertWaitingAck
      channel (env.packetSeq world.clock) { frame with late := false }
  if (world.streams stream).txQueue.isEmpty then
    return world
  else
    world.txEnqueueChannel stream

def txAttachData
    (env : Env) (world : World) (stream : StreamPtr) : Option World :=
  match (world.streams stream).txQueue with
  | [] => none
  | frame :: rest => do
      guard (frame.type = .stream)
      guard (frame.txByteSeq ≤ 0xffff)
      txData env (world.setTxQueue stream rest) stream frame

/-- The segment was acknowledged while it waited in the queue. -/
def alreadyAcked (entry : BaseStream) (frame : TxFrame) : Bool :=
  frame.type = .stream ∧ frame.txByteSeq ∉ entry.txWaitingAck

/-- Garbage-collect the leading segments that were acknowledged. -/
def collectAcked (world : World) (stream : StreamPtr) : World :=
  world.setTxQueue stream
    ((world.streams stream).txQueue.dropWhile
      (alreadyAcked (world.streams stream)))

/-- A top-level stream has the root stream of the channel as its parent. -/
def adoptRoot
    (world : World) (stream : StreamPtr) (channel : ChannelPtr) : World :=
  if (world.streams stream).topLevel then
    world.modifyStream stream fun entry =>
      { entry with parent := (world.channels channel).root }
  else world

/-- The parent that an optimized init packet can refer to. -/
def initParent
    (world : World) (stream : StreamPtr) (channel : ChannelPtr)
    (attachment : TxAttachment) : Option StreamPtr := do
  let entry := world.streams stream
  let parent ← entry.parent
  let slot ← (world.streams parent).txCurrentAttachment
  let parentAttachment := (world.streams parent).txAttachments slot
  guard entry.init
  guard (parentAttachment.channel = some channel)
  guard parentAttachment.active
  guard (entry.usid.halfChannelId = (world.channels channel).txChannelId)
  guard (entry.usid.counter.toUInt16 = attachment.streamId)
  return parent

/-- The peer has the stream in its own SID space. -/
def canReply
    (world : World) (stream : StreamPtr) (channel : ChannelPtr)
    (segSize : Nat) : Bool :=
  let entry := world.streams stream
  entry.txInflight + segSize ≤ entry.txWindow ∧
    ∃ slot : Slot, (entry.rxAttachments slot).channel = some channel

/-- The part of `transmit_on` after the garbage collection. -/
def transmitHead
    (env : Env) (world : World) (stream : StreamPtr)
    (channel : ChannelPtr) (slot : Slot) : Option World :=
  match (world.streams stream).txQueue with
  | [] => some world
  | head :: rest =>
      let attachment := (world.streams stream).txAttachments slot
      let segSize := head.payloadSize
      if attachment.isAcknowledged then do
        guard (¬ (world.streams stream).init)
        guard attachment.active
        let world := world.addTxInflight stream segSize
        txData env (world.setTxQueue stream rest) stream head
      else
        let world := world.adoptRoot stream channel
        match world.initParent stream channel attachment with
        | some parent =>
            txAttachData env (world.addTxInflight parent segSize) stream
        | none =>
            if world.canReply stream channel segSize then
              txAttachData env (world.addTxInflight stream segSize) stream
            else
              txAttach env world stream

def transmitOn
    (env : Env) (world : World) (stream : StreamPtr)
    (channel : ChannelPtr) : Option World := do
  guard (world.streams stream).txEnqueuedChannel
  let slot ← (world.streams stream).txCurrentAttachment
  guard (world.currentChannel stream = some channel)
  guard ((world.streams stream).txQueue ≠ [])
  let world := world.setTxEnqueuedChannel stream false
  transmitHead env (world.collectAcked stream) stream channel slot

/-- The passes of the loop of `got_ready_transmit`. -/
def readyTransmitLoop
    (env : Env) (channel : ChannelPtr) : (fuel : Nat) → World → Option World
  | 0, _ => none
  | fuel + 1, world =>
      match (world.channels channel).sendingStreams with
      | [] => none
      | stream :: rest => do
          let world :=
            world.modifyChannel channel fun entry =>
              { entry with sendingStreams := rest }
          let world ← transmitOn env world stream channel
          if (world.channels channel).sendingStreams.isEmpty then
            return world
          else if env.mayTransmit world.clock channel then
            readyTransmitLoop env channel fuel world.tick
          else
            return world.tick

/-- Every pass uses up a queued frame or a place in line. -/
def readyTransmitFuel (world : World) (channel : ChannelPtr) : Nat :=
  ((world.channels channel).sendingStreams.map fun stream =>
    (world.streams stream).txQueue.length + 1).sum

def gotReadyTransmit
    (env : Env) (world : World) (channel : ChannelPtr) : Option World :=
  if (world.channels channel).sendingStreams.isEmpty then some world
  else readyTransmitLoop env channel (world.readyTransmitFuel channel) world

/-- `tx_enqueue_channel` with immediate transmission. -/
def txEnqueueChannelNow
    (env : Env) (world : World) (stream : StreamPtr) : Option World := do
  let world ← world.txEnqueueChannel stream
  match world.currentChannel stream with
  | none => return world
  | some channel =>
      if env.mayTransmit world.clock channel then
        gotReadyTransmit env world.tick channel
      else
        return world.tick

/-- The insertion scan.  The difference of the sequence numbers is unsigned,
so that only an equal one is not above zero. -/
def insertFrame (frame : TxFrame) (queue : List TxFrame) : List TxFrame :=
  let passed := fun other : TxFrame =>
    decide (other.txByteSeq - frame.txByteSeq ≤ 0)
  queue.takeWhile passed ++ frame :: queue.dropWhile passed

/-- The stream-local part of `tx_enqueue_packet`. -/
def insertPacket
    (world : World) (stream : StreamPtr) (frame : TxFrame) : World :=
  let frame := { frame with stamp := world.clock }
  let queue := (world.streams stream).txQueue
  ((world.record (.enqueued stream queue frame)).setTxQueue stream
    (insertFrame frame queue)).tick

def txEnqueuePacket
    (env : Env) (world : World) (stream : StreamPtr) (frame : TxFrame) :
    Option World :=
  (world.insertPacket stream frame).txEnqueueChannelNow env stream

/-- The sizes of the segments that the loops of `write_data` and
`write_datagram` cut; the last one may be empty. -/
def segmentSizes (mtu : Nat) : (fuel total : Nat) → List Nat
  | 0, _ => []
  | fuel + 1, total =>
      if total ≤ mtu then [total]
      else mtu :: segmentSizes mtu fuel (total - mtu)

/-- Advance the byte sequence and hold onto the segment. -/
def holdSegment
    (world : World) (stream : StreamPtr) (size : Nat) : World :=
  world.modifyStream stream fun entry =>
    { entry with
      txByteSeq := entry.txByteSeq + UInt64.ofNat size
      txWaitingAck := entry.txWaitingAck.insert entry.txByteSeq
      txWaitingSize := entry.txWaitingSize + UInt64.ofNat size }

def writeSegment
    (env : Env) (stream : StreamPtr) (world : World) (size : Nat) :
    Option World :=
  let frame :=
    { TxFrame.create stream .stream with
      txByteSeq := (world.streams stream).txByteSeq }
  txEnqueuePacket env (world.holdSegment stream size) stream frame

def writeData
    (env : Env) (world : World) (stream : StreamPtr) (totalSize : Nat) :
    Option World := do
  guard (¬ (world.streams stream).endWrite)
  (segmentSizes env.mtu (totalSize + 1) totalSize).foldlM
    (writeSegment env stream) world

def writeFragment
    (env : Env) (stream : StreamPtr) (world : World) (_size : Nat) :
    Option World :=
  let frame :=
    { TxFrame.create stream .empty with
      txByteSeq := (world.streams stream).txByteSeq }
  txEnqueuePacket env world stream frame

/-- An unreliable datagram.  A reliable one opens a substream and sends
nothing. -/
def writeDatagram
    (env : Env) (world : World) (stream : StreamPtr) (totalSize : Nat) :
    Option World := do
  let world ←
    (segmentSizes env.mtu (totalSize + 1) totalSize).foldlM
      (writeFragment env stream) world
  world.txEnqueueChannelNow env stream

def recalculateTransmitWindow
    (env : Env) (world : World) (stream : StreamPtr)
    (windowByte : UInt8) : Option World :=
  let windowByte := if 158 < windowByte then 158 else windowByte
  let oldWindow := (world.streams stream).txWindow
  let window : Int := 2 ^ (windowByte &&& 0x1f).toNat - 1
  let world :=
    world.modifyStream stream fun entry => { entry with txWindow := window }
  if oldWindow < window then world.txEnqueueChannelNow env stream
  else some world

def setPriority
    (world : World) (stream : StreamPtr) (priority : Priority) :
    Option World :=
  if (world.streams stream).priority = priority then some world
  else
    let world :=
      world.modifyStream stream fun entry =>
        { entry with priority := priority }
    if (world.streams stream).txEnqueuedChannel then do
      let channel ← world.currentChannel stream
      guard (world.channels channel).active
      return (world.dequeueStream channel stream).enqueueStream channel stream
    else some world

end World

end StructuredStreams.Stream
