import StructuredStreams.Foundation.Run
import StructuredStreams.Stream.Transmit

/-!
# The calls of the stream layer

How frames come back from a channel (`acknowledged`, `missed`, `expire`), how
attachments are made and taken away, and the calls that a run is made of.

`channel::stop` also sets the link status to down, and a change of status
makes the channel delete itself.  `stop` is modelled for a channel whose
status is down already.
-/

namespace StructuredStreams.Stream

namespace World

/-- `base_stream::missed`, with what it returns. -/
def baseMissed
    (env : Env) (world : World) (stream : StreamPtr) (frame : TxFrame) :
    Option (Bool × World) := do
  guard frame.late
  match frame.type with
  | .empty =>
      let world ← world.txEnqueuePacket env stream frame
      return (true, world)
  | .stream =>
      let world ← world.txEnqueueChannel stream
      return (true, world)
  | .ack =>
      let world := world.addTxInflight stream (-(frame.payloadSize : Int))
      guard (0 ≤ (world.streams stream).txInflight)
      return (false, world)
  | _ => return (false, world)

/-- The frames of a run of packet sequence numbers. -/
def seqRange : (txseq : PacketSeq) → (npackets : Nat) → List PacketSeq
  | _, 0 => []
  | txseq, npackets + 1 => txseq :: seqRange (txseq + 1) npackets

/-- One frame of `stream_channel::acknowledged`.  The owner does nothing. -/
def acknowledgedOne
    (channel : ChannelPtr) (world : World) (txseq : PacketSeq) :
    Option World :=
  match (world.channels channel).waitingAck.lookup txseq with
  | none => some world
  | some entry => do
      let _owner ← entry.frame.owner
      return (world.eraseWaitingAck channel txseq).record
        (.acknowledged entry.id)

/-- One frame of `stream_channel::expire`.  The owner does nothing. -/
def expireOne
    (channel : ChannelPtr) (world : World) (txseq : PacketSeq) : World :=
  match (world.channels channel).waitingAck.lookup txseq with
  | none => world
  | some entry =>
      let world := world.eraseWaitingAck channel txseq
      match entry.frame.owner with
      | none => world
      | some _ => world.record (.expired entry.id)

/-- One frame of `stream_channel::missed`, which marks its own copy late. -/
def missedOne
    (env : Env) (channel : ChannelPtr) (world : World)
    (txseq : PacketSeq) : Option World :=
  match (world.channels channel).waitingAck.lookup txseq with
  | none => some world
  | some entry =>
      if entry.frame.late then some world
      else do
        let owner ← entry.frame.owner
        let (kept, world) ←
          (world.record (.missed entry.id)).baseMissed env owner
            { entry.frame with late := true }
        if kept then return world
        else return world.eraseWaitingAck channel txseq

/-- Hand a frame of a copied table back to its owner, as late or expired. -/
def returnFrame
    (env : Env) (world : World) (owner : StreamPtr)
    (entry : WaitingFrame) : Option World :=
  if entry.frame.late then some (world.record (.expired entry.id))
  else do
    let (_, world) ←
      (world.record (.missed entry.id)).baseMissed env owner
        { entry.frame with late := true }
    return world

def setTxAttachment
    (world : World) (stream : StreamPtr) (slot : Slot)
    (change : TxAttachment → TxAttachment) : World :=
  world.modifyStream stream fun entry =>
    { entry with
      txAttachments :=
        Function.update entry.txAttachments slot
          (change (entry.txAttachments slot)) }

def setAttaching
    (world : World) (stream : StreamPtr) (slot : Slot)
    (channel : ChannelPtr) (sid : LocalStreamId) : Option World := do
  guard (¬ ((world.streams stream).txAttachments slot).isInUse)
  guard (((world.channels channel).transmitSids.lookup sid).isNone)
  let world :=
    world.setTxAttachment stream slot fun _ =>
      { channel := some channel
        streamId := sid
        sidSeq := unacknowledgedSeq
        active := false
        deprecated := false }
  return world.modifyChannel channel fun entry =>
    { entry with transmitSids := (sid, stream, slot) :: entry.transmitSids }

def setActive
    (world : World) (stream : StreamPtr) (slot : Slot)
    (rxseq : PacketSeq) : Option World := do
  let attachment := (world.streams stream).txAttachments slot
  guard (attachment.isInUse ∧ ¬ attachment.isAcknowledged)
  return world.setTxAttachment stream slot fun attachment =>
    { attachment with sidSeq := rxseq, active := true }

/-- Transmit on an attachment in use, where there is no current one. -/
def setCurrent
    (world : World) (stream : StreamPtr) (slot : Slot) : Option World := do
  guard ((world.streams stream).txCurrentAttachment = none)
  guard ((world.streams stream).txAttachments slot).isInUse
  return world.modifyStream stream fun entry =>
    { entry with txCurrentAttachment := some slot }

def rxSetActive
    (world : World) (stream : StreamPtr) (slot : Slot)
    (channel : ChannelPtr) (sid : LocalStreamId) (rxseq : PacketSeq) :
    Option World := do
  guard (¬ ((world.streams stream).rxAttachments slot).isActive)
  guard (((world.channels channel).receiveSids.lookup sid).isNone)
  let world :=
    world.modifyStream stream fun entry =>
      { entry with
        rxAttachments :=
          Function.update entry.rxAttachments slot
            ⟨some channel, sid, rxseq⟩ }
  return world.modifyChannel channel fun entry =>
    { entry with receiveSids := (sid, stream, slot) :: entry.receiveSids }

/-- `stream_rx_attachment::clear`. -/
def rxClear
    (world : World) (stream : StreamPtr) (slot : Slot) : Option World :=
  let attachment := (world.streams stream).rxAttachments slot
  match attachment.channel with
  | none => some world
  | some channel => do
      let sid := attachment.streamId
      guard
        ((world.channels channel).receiveSids.lookup sid =
          some (stream, slot))
      let world :=
        world.modifyChannel channel fun entry =>
          { entry with
            receiveSids := entry.receiveSids.filter (·.1 ≠ sid) }
      return world.modifyStream stream fun entry =>
        { entry with
          rxAttachments :=
            Function.update entry.rxAttachments slot
              { attachment with channel := none } }

/-- The part of `stream_tx_attachment::clear` before the frames of the stream
are returned. -/
def unregister
    (world : World) (stream : StreamPtr) (slot : Slot)
    (channel : ChannelPtr) (sid : LocalStreamId) : World :=
  let enqueuedOn :=
    if (world.streams stream).txEnqueuedChannel then
      world.currentChannel stream
    else none
  let world := world.record (.cleared stream channel enqueuedOn)
  let world :=
    world.modifyStream stream fun entry =>
      { entry with
        txCurrentAttachment :=
          if entry.txCurrentAttachment = some slot then none
          else entry.txCurrentAttachment }
  let world :=
    world.modifyChannel channel fun entry =>
      { entry with
        transmitSids := entry.transmitSids.filter (·.1 ≠ sid) }
  let world :=
    world.setTxAttachment stream slot fun attachment =>
      { attachment with channel := none, active := false }
  (world.dequeueStream channel stream).setTxEnqueuedChannel stream false

/-- One entry of the copied table in `stream_tx_attachment::clear`. -/
def clearEntry
    (env : Env) (stream : StreamPtr) (channel : ChannelPtr)
    (world : World) (copied : PacketSeq × WaitingFrame) :
    Option World := do
  guard copied.2.frame.owner.isSome
  if copied.2.frame.owner ≠ some stream then
    return world
  else
    let world ← world.returnFrame env stream copied.2
    return world.eraseWaitingAck channel copied.1

/-- `stream_tx_attachment::clear`. -/
def clear
    (env : Env) (world : World) (stream : StreamPtr) (slot : Slot) :
    Option World :=
  let attachment := (world.streams stream).txAttachments slot
  match attachment.channel with
  | none => some world
  | some channel => do
      let sid := attachment.streamId
      guard
        ((world.channels channel).transmitSids.lookup sid =
          some (stream, slot))
      let world := world.unregister stream slot channel sid
      let ackCopy :=
        env.iterate world.clock (world.channels channel).waitingAck
      ackCopy.foldlM (clearEntry env stream channel) world.tick

/-- One entry of the copied table in `detach_all`. -/
def detachEntry
    (env : Env) (world : World) (copied : PacketSeq × WaitingFrame) :
    Option World := do
  let owner ← copied.2.frame.owner
  world.returnFrame env owner copied.2

/-- Clear the attachments of a copied stream table one after the other. -/
def clearAll
    (env : Env) (world : World)
    (sids : List (LocalStreamId × StreamPtr × Slot)) : Option World :=
  sids.foldlM (fun world entry => clear env world entry.2.1 entry.2.2) world

def detachAll
    (env : Env) (world : World) (channel : ChannelPtr) :
    Option World := do
  let ackCopy :=
    env.iterate world.clock (world.channels channel).waitingAck
  let tsidsCopy :=
    env.iterate (world.clock + 1) (world.channels channel).transmitSids
  let world :=
    (world.modifyChannel channel fun entry =>
      { entry with waitingAck := [] }).tick.tick
  let world ← world.clearAll env tsidsCopy
  guard ((world.channels channel).transmitSids.isEmpty)
  ackCopy.foldlM (detachEntry env) world

def stop
    (env : Env) (world : World) (channel : ChannelPtr) :
    Option World := do
  let world :=
    world.modifyChannel channel fun entry => { entry with active := false }
  let tsidsCopy :=
    env.iterate world.clock (world.channels channel).transmitSids
  let world ←
    tsidsCopy.foldlM
      (fun world entry => do
        let attachment :=
          (world.streams entry.2.1).txAttachments entry.2.2
        guard (attachment.channel = some channel)
        clear env world entry.2.1 entry.2.2)
      world.tick
  let rsidsCopy :=
    env.iterate world.clock (world.channels channel).receiveSids
  rsidsCopy.foldlM
    (fun world entry => do
      let attachment := (world.streams entry.2.1).rxAttachments entry.2.2
      guard (attachment.channel = some channel)
      rxClear world entry.2.1 entry.2.2)
    world.tick

/-- A stream that was just created. -/
def IsNew (world : World) (stream : StreamPtr) : Prop :=
  let entry := world.streams stream
  (∀ slot, (entry.txAttachments slot).channel = none) ∧
    (∀ slot, (entry.rxAttachments slot).channel = none) ∧
    entry.txCurrentAttachment = none ∧
    entry.txEnqueuedChannel = false ∧
    entry.txWaitingAck = [] ∧
    entry.txQueue = []

instance (world : World) (stream : StreamPtr) :
    Decidable (world.IsNew stream) :=
  inferInstanceAs (Decidable (_ ∧ _))

/-- The constructor of a channel, which attaches a new root stream. -/
def construct
    (world : World) (channel : ChannelPtr) (root : StreamPtr) :
    Option World := do
  guard ((world.channels channel).root = none)
  guard (world.IsNew root)
  let world :=
    world.modifyChannel channel fun entry =>
      { entry with root := some root }
  let world ← world.setAttaching root Slot.first channel 0
  let world ← world.setActive root Slot.first 1
  let world ← world.setCurrent root Slot.first
  world.rxSetActive root Slot.first channel 0 1

/-- `stream_channel::start`, which first signals that the channel is ready
to transmit. -/
def start
    (env : Env) (world : World) (channel : ChannelPtr)
    (initiate : Bool) : Option World := do
  let world :=
    world.modifyChannel channel fun entry => { entry with active := true }
  let world ← gotReadyTransmit env world channel
  let root ← (world.channels channel).root
  let halfChannelId :=
    if initiate then (world.channels channel).txChannelId
    else (world.channels channel).rxChannelId
  guard (halfChannelId ≠ [])
  return world.modifyStream root fun entry =>
    { entry with usid := ⟨0, halfChannelId⟩ }

/-- The worlds before any call: nothing is attached, queued or waiting. -/
structure Initial (world : World) : Prop where
  streams : ∀ stream, world.IsNew stream
  transmitSids :
    ∀ channel, (world.channels channel).transmitSids = []
  receiveSids :
    ∀ channel, (world.channels channel).receiveSids = []
  sendingStreams :
    ∀ channel, (world.channels channel).sendingStreams = []
  waitingAck :
    ∀ channel, (world.channels channel).waitingAck = []
  log : world.log = []

theorem create_initial (txChannelId rxChannelId : ByteCodec.Bytes) :
    (World.create txChannelId rxChannelId).Initial where
  streams := fun _ =>
    ⟨fun _ => rfl, fun _ => rfl, rfl, rfl, rfl, rfl⟩
  transmitSids := fun _ => rfl
  receiveSids := fun _ => rfl
  sendingStreams := fun _ => rfl
  waitingAck := fun _ => rfl
  log := rfl

end World

inductive Call where
  | construct (channel : ChannelPtr) (root : StreamPtr)
  | start (channel : ChannelPtr) (initiate : Bool)
  | stop (channel : ChannelPtr)
  | detachAll (channel : ChannelPtr)
  | setAttaching
      (stream : StreamPtr) (slot : Slot) (channel : ChannelPtr)
      (sid : LocalStreamId)
  | setActive (stream : StreamPtr) (slot : Slot) (rxseq : PacketSeq)
  | setCurrent (stream : StreamPtr) (slot : Slot)
  | rxSetActive
      (stream : StreamPtr) (slot : Slot) (channel : ChannelPtr)
      (sid : LocalStreamId) (rxseq : PacketSeq)
  | rxClear (stream : StreamPtr) (slot : Slot)
  | clear (stream : StreamPtr) (slot : Slot)
  | writeData (stream : StreamPtr) (totalSize : Nat)
  | writeDatagram (stream : StreamPtr) (totalSize : Nat)
  | txEnqueueChannel (stream : StreamPtr) (immediately : Bool)
  | recalculateTransmitWindow (stream : StreamPtr) (windowByte : UInt8)
  | setPriority (stream : StreamPtr) (priority : Priority)
  | gotReadyTransmit (channel : ChannelPtr)
  | acknowledged
      (channel : ChannelPtr) (txseq : PacketSeq) (npackets : Int32)
  | missed (channel : ChannelPtr) (txseq : PacketSeq) (npackets : Int32)
  | expire (channel : ChannelPtr) (txseq : PacketSeq) (npackets : Int32)
  deriving DecidableEq, Repr

/-- What a call does, or none where it fails an assertion or follows a null
pointer. -/
def Call.run (env : Env) (world : World) : Call → Option World
  | .construct channel root => world.construct channel root
  | .start channel initiate => world.start env channel initiate
  | .stop channel => world.stop env channel
  | .detachAll channel => world.detachAll env channel
  | .setAttaching stream slot channel sid =>
      world.setAttaching stream slot channel sid
  | .setActive stream slot rxseq => world.setActive stream slot rxseq
  | .setCurrent stream slot => world.setCurrent stream slot
  | .rxSetActive stream slot channel sid rxseq =>
      world.rxSetActive stream slot channel sid rxseq
  | .rxClear stream slot => world.rxClear stream slot
  | .clear stream slot => world.clear env stream slot
  | .writeData stream totalSize => world.writeData env stream totalSize
  | .writeDatagram stream totalSize =>
      world.writeDatagram env stream totalSize
  | .txEnqueueChannel stream immediately =>
      if immediately then world.txEnqueueChannelNow env stream
      else world.txEnqueueChannel stream
  | .recalculateTransmitWindow stream windowByte =>
      world.recalculateTransmitWindow env stream windowByte
  | .setPriority stream priority => world.setPriority stream priority
  | .gotReadyTransmit channel => world.gotReadyTransmit env channel
  | .acknowledged channel txseq npackets =>
      (World.seqRange txseq npackets.toNatClampNeg).foldlM
        (World.acknowledgedOne channel) world
  | .missed channel txseq npackets =>
      (World.seqRange txseq npackets.toNatClampNeg).foldlM
        (World.missedOne env channel) world
  | .expire channel txseq npackets =>
      some
        ((World.seqRange txseq npackets.toNatClampNeg).foldl
          (World.expireOne channel) world)

/-- One call, with the world it was made in and the world it led to. -/
def CallStep (env : Env) (world : World) (call : Call) (next : World) :
    Prop :=
  call.run env world = some next

abbrev CallRun (env : Env) : World → List Call → World → Prop :=
  Run (CallStep env)

/-- Make the calls one after the other. -/
def Call.runAll
    (env : Env) (world : World) (calls : List Call) : Option World :=
  calls.foldlM (fun world call => call.run env world) world

theorem CallRun.of_runAll
    {env : Env} {world next : World} {calls : List Call}
    (returned : Call.runAll env world calls = some next) :
    CallRun env world calls next :=
  Run.of_foldlM (fun _ _ _ taken => taken) returned

end StructuredStreams.Stream
