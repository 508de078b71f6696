import StructuredStreams.Protocol
import StructuredStreams.Foundation.ByteCodec
import StructuredStreams.Foundation.UpperBound
import Mathlib.Logic.Function.Basic

/-!
# Streams and channels

The state that streams and channels share: the streams with their transmit
queues and attachments, and the channels with their stream tables, their
queue of sending streams and the frames that wait for an acknowledgment.
Pointers are numbers, and the null pointer is `none`.

A hash table is the list of its entries.  The receive side of a stream, the
peer and the connection states are left out: no function modelled here reads
them.  The fields `stamp`, `id`, `clock` and `log` record the history and
are read by no function.
-/

namespace StructuredStreams.Stream

open ByteCodec

abbrev StreamPtr := Nat

abbrev ChannelPtr := Nat

abbrev ByteSeq := UInt64

abbrev PacketSeq := UInt64

abbrev LocalStreamId := UInt16

abbrev Priority := UInt32

/-- The two attachment slots of a stream. -/
abbrev Slot := Fin 2

def Slot.first : Slot :=
  0

def Slot.second : Slot :=
  1

structure UniqueStreamId where
  counter : UInt64
  halfChannelId : Bytes
  deriving DecidableEq, Repr

/-- A frame of a transmit queue. -/
structure TxFrame where
  owner : Option StreamPtr
  txByteSeq : ByteSeq
  payloadSize : Nat
  type : FrameType
  late : Bool
  /-- When `tx_enqueue_packet` last inserted the frame. -/
  stamp : Nat
  deriving DecidableEq, Repr

/-- A new frame.  No function gives a frame a payload. -/
def TxFrame.create (owner : StreamPtr) (type : FrameType) : TxFrame where
  owner := some owner
  txByteSeq := 0
  payloadSize := 0
  type := type
  late := false
  stamp := 0

structure TxAttachment where
  channel : Option ChannelPtr
  streamId : LocalStreamId
  sidSeq : PacketSeq
  active : Bool
  deprecated : Bool
  deriving DecidableEq, Repr

/-- The reference packet sequence of an attachment that was not
acknowledged. -/
def unacknowledgedSeq : PacketSeq :=
  0xffffffffffffffff

def TxAttachment.isInUse (attachment : TxAttachment) : Bool :=
  attachment.channel.isSome

def TxAttachment.isAcknowledged (attachment : TxAttachment) : Bool :=
  attachment.sidSeq != unacknowledgedSeq

structure RxAttachment where
  channel : Option ChannelPtr
  streamId : LocalStreamId
  sidSeq : PacketSeq
  deriving DecidableEq, Repr

def RxAttachment.isActive (attachment : RxAttachment) : Bool :=
  attachment.channel.isSome

structure BaseStream where
  parent : Option StreamPtr
  init : Bool
  topLevel : Bool
  endWrite : Bool
  usid : UniqueStreamId
  priority : Priority
  txAttachments : Slot → TxAttachment
  rxAttachments : Slot → RxAttachment
  txCurrentAttachment : Option Slot
  txByteSeq : ByteSeq
  txWindow : Int
  txInflight : Int
  txEnqueuedChannel : Bool
  txWaitingAck : List ByteSeq
  txQueue : List TxFrame
  txWaitingSize : UInt64

/-- A new stream. -/
def BaseStream.create : BaseStream where
  parent := none
  init := true
  topLevel := false
  endWrite := false
  usid := ⟨0, []⟩
  priority := 0
  txAttachments := fun _ => ⟨none, 0, unacknowledgedSeq, false, false⟩
  rxAttachments := fun _ => ⟨none, 0, unacknowledgedSeq⟩
  txCurrentAttachment := none
  txByteSeq := 0
  txWindow := 0
  txInflight := 0
  txEnqueuedChannel := false
  txWaitingAck := []
  txQueue := []
  txWaitingSize := 0

/-- An entry of a channel's `waiting_ack_` table. -/
structure WaitingFrame where
  frame : TxFrame
  /-- When the entry was inserted. -/
  id : Nat
  deriving DecidableEq, Repr

structure StreamChannel where
  root : Option StreamPtr
  active : Bool
  txChannelId : Bytes
  rxChannelId : Bytes
  transmitSids : List (LocalStreamId × StreamPtr × Slot)
  receiveSids : List (LocalStreamId × StreamPtr × Slot)
  sendingStreams : List StreamPtr
  waitingAck : List (PacketSeq × WaitingFrame)
  /-- Neither the constructor nor any other function sets it. -/
  ackSid : LocalStreamId

/-- The fields of a channel before its constructor runs. -/
def StreamChannel.create
    (txChannelId rxChannelId : Bytes) : StreamChannel where
  root := none
  active := false
  txChannelId := txChannelId
  rxChannelId := rxChannelId
  transmitSids := []
  receiveSids := []
  sendingStreams := []
  waitingAck := []
  ackSid := 0

/-- What happened, for the statements about histories. -/
inductive Event where
  /-- `tx_enqueue_packet` was called with this frame and found this queue. -/
  | enqueued (stream : StreamPtr) (queue : List TxFrame) (frame : TxFrame)
  /-- `tx_data` handed the frame to the channel. -/
  | transmitted (stream : StreamPtr) (channel : ChannelPtr) (frame : TxFrame)
  /-- An attachment to the channel was cleared while its stream was enqueued
  on the other channel. -/
  | cleared
      (stream : StreamPtr) (channel : ChannelPtr)
      (enqueuedOn : Option ChannelPtr)
  /-- `base_stream::missed` was invoked for an entry of `waiting_ack_`. -/
  | missed (id : Nat)
  /-- `base_stream::acknowledged` was invoked for an entry. -/
  | acknowledged (id : Nat)
  /-- `base_stream::expire` was invoked for an entry. -/
  | expired (id : Nat)
  deriving DecidableEq, Repr

structure World where
  streams : StreamPtr → BaseStream
  channels : ChannelPtr → StreamChannel
  clock : Nat
  /-- The latest event comes first. -/
  log : List Event

/-- The world in which no call was made, with the same channel ids for all
channels. -/
def World.create (txChannelId rxChannelId : Bytes) : World where
  streams := fun _ => BaseStream.create
  channels := fun _ => StreamChannel.create txChannelId rxChannelId
  clock := 0
  log := []

/-- What is decided outside: the maximal segment size, whether a channel may
transmit, the packet sequence numbers (`channel::transmit` leaves the one it
is to assign unset) and the iteration order of hash tables.  The answers may
differ from one time to the next. -/
structure Env where
  mtu : Nat
  mtuPositive : 0 < mtu
  mayTransmit : (clock : Nat) → ChannelPtr → Bool
  packetSeq : (clock : Nat) → PacketSeq
  iterate : {α : Type} → (clock : Nat) → List α → List α
  iteratePerm :
    ∀ {α : Type} (clock : Nat) (entries : List α),
      (iterate clock entries).Perm entries

/-- An environment in which segments carry one byte, packets are numbered by
the time they are sent and tables are gone through in order. -/
def Env.constant (mayTransmit : Bool) : Env where
  mtu := 1
  mtuPositive := Nat.one_pos
  mayTransmit := fun _ _ => mayTransmit
  packetSeq := UInt64.ofNat
  iterate := fun _ entries => entries
  iteratePerm := fun _ entries => List.Perm.refl entries

namespace World

def modifyStream
    (world : World) (stream : StreamPtr)
    (change : BaseStream → BaseStream) : World :=
  { world with
    streams :=
      Function.update world.streams stream
        (change (world.streams stream)) }

def modifyChannel
    (world : World) (channel : ChannelPtr)
    (change : StreamChannel → StreamChannel) : World :=
  { world with
    channels :=
      Function.update world.channels channel
        (change (world.channels channel)) }

def tick (world : World) : World :=
  { world with clock := world.clock + 1 }

def record (world : World) (event : Event) : World :=
  { world with log := event :: world.log }

/-- The channel of the current transmit attachment. -/
def currentChannel (world : World) (stream : StreamPtr) :
    Option ChannelPtr := do
  let slot ← (world.streams stream).txCurrentAttachment
  ((world.streams stream).txAttachments slot).channel

section Projections

variable (world : World)

@[simp]
theorem modifyStream_channels
    (stream : StreamPtr) (change : BaseStream → BaseStream) :
    (world.modifyStream stream change).channels = world.channels :=
  rfl

@[simp]
theorem modifyStream_clock
    (stream : StreamPtr) (change : BaseStream → BaseStream) :
    (world.modifyStream stream change).clock = world.clock :=
  rfl

@[simp]
theorem modifyStream_log
    (stream : StreamPtr) (change : BaseStream → BaseStream) :
    (world.modifyStream stream change).log = world.log :=
  rfl

@[simp]
theorem modifyStream_streams_self
    (stream : StreamPtr) (change : BaseStream → BaseStream) :
    (world.modifyStream stream change).streams stream =
      change (world.streams stream) :=
  Function.update_self _ _ _

theorem modifyStream_streams_of_ne
    {stream other : StreamPtr} (different : other ≠ stream)
    (change : BaseStream → BaseStream) :
    (world.modifyStream stream change).streams other =
      world.streams other :=
  Function.update_of_ne different _ _

/-- A field that the change leaves alone is the same for every stream. -/
theorem modifyStream_field
    {β : Type} (field : BaseStream → β)
    (stream : StreamPtr) (change : BaseStream → BaseStream)
    (same :
      field (change (world.streams stream)) =
        field (world.streams stream))
    (other : StreamPtr) :
    field ((world.modifyStream stream change).streams other) =
      field (world.streams other) := by
  by_cases equal : other = stream
  · subst other
    rw [modifyStream_streams_self, same]
  · rw [modifyStream_streams_of_ne world equal]

@[simp]
theorem modifyChannel_streams
    (channel : ChannelPtr) (change : StreamChannel → StreamChannel) :
    (world.modifyChannel channel change).streams = world.streams :=
  rfl

@[simp]
theorem modifyChannel_clock
    (channel : ChannelPtr) (change : StreamChannel → StreamChannel) :
    (world.modifyChannel channel change).clock = world.clock :=
  rfl

@[simp]
theorem modifyChannel_log
    (channel : ChannelPtr) (change : StreamChannel → StreamChannel) :
    (world.modifyChannel channel change).log = world.log :=
  rfl

@[simp]
theorem modifyChannel_channels_self
    (channel : ChannelPtr) (change : StreamChannel → StreamChannel) :
    (world.modifyChannel channel change).channels channel =
      change (world.channels channel) :=
  Function.update_self _ _ _

theorem modifyChannel_channels_of_ne
    {channel other : ChannelPtr} (different : other ≠ channel)
    (change : StreamChannel → StreamChannel) :
    (world.modifyChannel channel change).channels other =
      world.channels other :=
  Function.update_of_ne different _ _

/-- A field that the change leaves alone is the same for every channel. -/
theorem modifyChannel_field
    {β : Type} (field : StreamChannel → β)
    (channel : ChannelPtr) (change : StreamChannel → StreamChannel)
    (same :
      field (change (world.channels channel)) =
        field (world.channels channel))
    (other : ChannelPtr) :
    field ((world.modifyChannel channel change).channels other) =
      field (world.channels other) := by
  by_cases equal : other = channel
  · subst other
    rw [modifyChannel_channels_self, same]
  · rw [modifyChannel_channels_of_ne world equal]

@[simp]
theorem tick_streams : world.tick.streams = world.streams :=
  rfl

@[simp]
theorem tick_channels : world.tick.channels = world.channels :=
  rfl

@[simp]
theorem tick_log : world.tick.log = world.log :=
  rfl

@[simp]
theorem tick_clock : world.tick.clock = world.clock + 1 :=
  rfl

@[simp]
theorem record_streams (event : Event) :
    (world.record event).streams = world.streams :=
  rfl

@[simp]
theorem record_channels (event : Event) :
    (world.record event).channels = world.channels :=
  rfl

@[simp]
theorem record_clock (event : Event) :
    (world.record event).clock = world.clock :=
  rfl

@[simp]
theorem record_log (event : Event) :
    (world.record event).log = event :: world.log :=
  rfl

end Projections

end World

end StructuredStreams.Stream
