import StructuredStreams.Channel.Acknowledge
import StructuredStreams.Foundation.Directory
import StructuredStreams.Service.Negotiation
import StructuredStreams.Stream.Acknowledging
import StructuredStreams.Stream.BufferSizes

/-!
# Peers

A host keeps one `stream_peer` for every identity it talks to, and a peer
knows its streams: all of them, and those with a unique id by that id.  This
module models how streams come and go there: how they are created for a
channel, for a peer or by a packet of the other side, how they get their ids
and how they are cleared.

A peer that nobody asked for yet has empty tables.  Streams are not
destroyed: the set of the peer owns those that its tables name.  A new stream
inherits buffer sizes, and a packet may bring about an acknowledgment; both
have assertions of their own.  The self-reference of a stream and its owner
in the application are left out.
-/

namespace StructuredStreams.Stream

open ByteCodec

/-- The identity of a peer, which is not null. -/
abbrev PeerId := { identity : Bytes // identity ≠ [] }

/-- The assertion of the stream constructor. -/
def PeerId.ofIdentity (identity : Bytes) : Option PeerId :=
  if known : identity ≠ [] then some ⟨identity, known⟩ else none

theorem PeerId.ofIdentity_val (peer : PeerId) :
    PeerId.ofIdentity peer.val = some peer :=
  dif_pos peer.property

def UniqueStreamId.isEmpty (usid : UniqueStreamId) : Bool :=
  usid.halfChannelId.isEmpty

/-- Flag bits. -/
abbrev ListenMode := UInt8

namespace ListenMode

def reject : ListenMode :=
  0

def unlimited : ListenMode :=
  3

def inherit : ListenMode :=
  4

end ListenMode

/-- The part of a base stream that ties it to its peer. -/
structure PeerStream where
  peerId : PeerId
  peer : Option PeerId
  state : Service.StreamState
  listenMode : ListenMode
  endRead : Bool
  receivedSubstreams : List StreamPtr
  buffers : StoredBuffers

namespace PeerStream

def isListening (link : PeerStream) : Bool :=
  link.listenMode != ListenMode.reject

/-- The mode that a substream starts with. -/
def inheritedMode (parent : Option PeerStream) : ListenMode :=
  match parent with
  | none => ListenMode.reject
  | some link =>
      if link.listenMode &&& ListenMode.inherit ≠ 0 then link.listenMode
      else ListenMode.reject

def create
    (peer : PeerId) (parent : Option PeerStream)
    (buffers : StoredBuffers) : PeerStream where
  peerId := peer
  peer := some peer
  state := .created
  listenMode := inheritedMode parent
  endRead := false
  receivedSubstreams := []
  buffers := buffers

/-- Shut down with the mode `reset`. -/
def disconnect (link : PeerStream) : PeerStream :=
  { link with state := .disconnected }

end PeerStream

structure StreamPeer where
  allStreams : List StreamPtr
  usidStreams : List (UniqueStreamId × StreamPtr)
  deriving DecidableEq, Repr

namespace StreamPeer

def create : StreamPeer where
  allStreams := []
  usidStreams := []

def insertStream (stream : StreamPtr) (peer : StreamPeer) : StreamPeer :=
  { peer with allStreams := peer.allStreams.insert stream }

/-- Inserting leaves an entry alone that is there already. -/
def insertUsid
    (usid : UniqueStreamId) (stream : StreamPtr) (peer : StreamPeer) :
    StreamPeer :=
  { peer with
    usidStreams :=
      if (peer.usidStreams.lookup usid).isSome then peer.usidStreams
      else (usid, stream) :: peer.usidStreams }

/-- The part of `clear` that changes the tables. -/
def erase
    (usid : UniqueStreamId) (stream : StreamPtr) (peer : StreamPeer) :
    StreamPeer where
  allStreams := peer.allStreams.filter (· ≠ stream)
  usidStreams :=
    if peer.usidStreams.lookup usid = some stream then
      peer.usidStreams.filter (·.1 ≠ usid)
    else peer.usidStreams

end StreamPeer

/-- The streams and channels, with the peers of the streams and what the
channels received. -/
structure PeerWorld where
  world : World
  links : StreamPtr → Option PeerStream
  peers : PeerId → StreamPeer
  receivedSidCounter : ChannelPtr → UInt64
  acks : ChannelPtr → Channel.AckState

namespace PeerWorld

/-- No stream has been created yet. -/
def create (world : World) : PeerWorld where
  world := world
  links := fun _ => none
  peers := fun _ => StreamPeer.create
  receivedSidCounter := fun _ => 0
  acks := fun _ => Channel.AckState.initial

def modifyLink
    (state : PeerWorld) (stream : StreamPtr)
    (change : PeerStream → PeerStream) : PeerWorld :=
  { state with
    links :=
      Function.update state.links stream
        ((state.links stream).map change) }

def modifyPeer
    (state : PeerWorld) (peer : PeerId)
    (change : StreamPeer → StreamPeer) : PeerWorld :=
  { state with
    peers := Function.update state.peers peer (change (state.peers peer)) }

/-- The field `peer_` of a stream. -/
def peerOf (state : PeerWorld) (stream : StreamPtr) : Option PeerId :=
  (state.links stream).bind PeerStream.peer

/-- `base_stream::create`, on memory that holds no other stream. -/
def createStream
    (env : Env) (state : PeerWorld) (stream : StreamPtr)
    (identity : Bytes) (parent : Option StreamPtr) :
    Option PeerWorld := do
  guard ((state.links stream).isNone)
  let peer ← PeerId.ofIdentity identity
  let parentLink := parent.bind state.links
  let buffers ←
    StoredBuffers.construct env.mtu (parentLink.map PeerStream.buffers)
  let link := PeerStream.create peer parentLink buffers
  let world :=
    state.world.modifyStream stream fun _ =>
      { BaseStream.create with parent := parent }
  let state :=
    { state with
      world := world
      links := Function.update state.links stream (some link) }
  return state.modifyPeer peer (StreamPeer.insertStream stream)

/-- A stream with a peer gets a unique id.  Where another stream has the id
already, only a message is logged. -/
def setUsid
    (state : PeerWorld) (stream : StreamPtr) (newUsid : UniqueStreamId) :
    Option PeerWorld := do
  guard ((state.world.streams stream).usid.isEmpty)
  guard (¬ newUsid.isEmpty)
  let peer ← state.peerOf stream
  let world :=
    state.world.modifyStream stream fun entry =>
      { entry with usid := newUsid }
  let state := { state with world := world }
  return state.modifyPeer peer (StreamPeer.insertUsid newUsid stream)

/-- The constructor of a channel to the peer with the identity. -/
def construct
    (env : Env) (state : PeerWorld) (channel : ChannelPtr)
    (root : StreamPtr) (identity : Bytes) : Option PeerWorld := do
  let state ← state.createStream env root identity none
  let world ← state.world.construct channel root
  let state := { state with world := world }
  return state.modifyLink root fun link =>
    { link with
      state := .connected
      listenMode := ListenMode.unlimited }

/-- `stream_channel::start`, which gives the root a unique id that it does
not register. -/
def start
    (env : Env) (state : PeerWorld) (channel : ChannelPtr)
    (initiate : Bool) : Option PeerWorld := do
  let world ← state.world.start env channel initiate
  return { state with world := world }

def setReceiveBufferSize
    (env : Env) (state : PeerWorld) (stream : StreamPtr)
    (size : UInt64) : Option PeerWorld := do
  guard ((state.links stream).isSome)
  return state.modifyLink stream fun link =>
    { link with
      buffers := link.buffers.setReceiveBufferSize env.mtu size }

def setChildReceiveBufferSize
    (env : Env) (state : PeerWorld) (stream : StreamPtr)
    (size : UInt64) : Option PeerWorld := do
  guard ((state.links stream).isSome)
  return state.modifyLink stream fun link =>
    { link with
      buffers := link.buffers.setChildReceiveBufferSize env.mtu size }

/-- A call on the acknowledgments of a channel.  Where it sends one,
`transmit_ack` has to find a stream for it. -/
def ackCall
    (state : PeerWorld) (channel : ChannelPtr)
    (call : Channel.AckCall) : Option PeerWorld := do
  let acks := call.apply (state.acks channel)
  guard
    (acks.acksSent = (state.acks channel).acksSent ∨
      (state.world.transmitAck channel
        (state.world.channels channel).ackSid).isSome)
  return { state with acks := Function.update state.acks channel acks }

def acknowledge
    (state : PeerWorld) (channel : ChannelPtr) (pktseq : PacketSeq)
    (sendAck : Bool) : Option PeerWorld :=
  state.ackCall channel (.acknowledge pktseq sendAck)

/-- The stream counter of the sender, from the low bits that it sent. -/
def extrapolate (counter : UInt64) (sid : LocalStreamId) : UInt64 :=
  counter + (sid - counter.toUInt16).toInt16.toInt64.toUInt64

def receiveSid
    (state : PeerWorld) (channel : ChannelPtr) (sid : LocalStreamId) :
    PeerWorld :=
  let counter := state.receivedSidCounter channel
  let extrapolated := extrapolate counter sid
  { state with
    receivedSidCounter :=
      Function.update state.receivedSidCounter channel
        (if counter < extrapolated then extrapolated else counter) }

/-- A substream of the root waits for a service request, another one waits
to be accepted from its parent. -/
def openSubstream
    (state : PeerWorld) (parent : StreamPtr) (channel : ChannelPtr)
    (newStream : StreamPtr) : PeerWorld :=
  if (state.world.channels channel).root = some parent then
    state.modifyLink newStream fun link =>
      { link with state := .accepting }
  else
    (state.modifyLink newStream fun link =>
      { link with state := .connected }).modifyLink parent fun link =>
        { link with
          receivedSubstreams := link.receivedSubstreams ++ [newStream] }

/-- `rx_substream` with what it returns, or none where an assertion fails.
The memory of the new stream is given. -/
def rxSubstream
    (env : Env) (state : PeerWorld) (parent : StreamPtr)
    (pktseq : PacketSeq) (channel : ChannelPtr) (sid : LocalStreamId)
    (slot : Slot) (usid : UniqueStreamId) (newStream : StreamPtr) :
    Option (Option StreamPtr × PeerWorld) := do
  let link ← state.links parent
  if ¬ link.isListening then
    let state ← state.acknowledge channel pktseq false
    return (none, state)
  else
    let state ← state.acknowledge channel pktseq true
    let state ←
      state.createStream env newStream link.peerId.val (some parent)
    let state := state.receiveSid channel sid
    let state ← state.setUsid newStream usid
    let world ← state.world.rxSetActive newStream slot channel sid pktseq
    let state := { state with world := world }
    return (some newStream, state.openSubstream parent channel newStream)

/-- The part of `clear` that takes the stream away from its peer. -/
def deregister (state : PeerWorld) (stream : StreamPtr) : PeerWorld :=
  match state.peerOf stream with
  | none => state
  | some peer =>
      let usid := (state.world.streams stream).usid
      (state.modifyPeer peer (StreamPeer.erase usid stream)).modifyLink
        stream fun link => { link with peer := none }

/-- The part of `clear` that clears the attachments of both slots. -/
def clearAttachments
    (env : Env) (world : World) (stream : StreamPtr) : Option World :=
  [Slot.first, Slot.second].foldlM
    (fun world slot => do
      let world ← world.clear env stream slot
      world.rxClear stream slot)
    world

/-- The part of `clear` that resets the substreams nobody accepted. -/
def resetSubstreams (state : PeerWorld) (stream : StreamPtr) : PeerWorld :=
  let substreams :=
    ((state.links stream).map PeerStream.receivedSubstreams).getD []
  let state :=
    substreams.foldl
      (fun state substream =>
        state.modifyLink substream PeerStream.disconnect)
      state
  state.modifyLink stream fun link =>
    { link with receivedSubstreams := [] }

/-- `base_stream::clear`. -/
def clear (env : Env) (state : PeerWorld) (stream : StreamPtr) :
    Option PeerWorld := do
  guard ((state.links stream).isSome)
  let state :=
    state.modifyLink stream fun link =>
      { link with state := .disconnected, endRead := true }
  let world :=
    state.world.modifyStream stream fun entry =>
      { entry with endWrite := true }
  let state := { state with world := world }.deregister stream
  let world ← clearAttachments env state.world stream
  return { state with world := world }.resetSubstreams stream

/-- The destructor of a peer clears the streams of a copy of its set, and
asserts that its tables are empty then. -/
def destroyPeer (env : Env) (state : PeerWorld) (peer : PeerId) :
    Option PeerWorld := do
  let streamsCopy :=
    env.iterate state.world.clock (state.peers peer).allStreams
  let state ← streamsCopy.foldlM (clear env) state
  guard ((state.peers peer).allStreams.isEmpty)
  guard ((state.peers peer).usidStreams.isEmpty)
  return state

end PeerWorld

inductive PeerCall where
  | createStream
      (stream : StreamPtr) (identity : Bytes) (parent : Option StreamPtr)
  | setUsid (stream : StreamPtr) (newUsid : UniqueStreamId)
  | construct
      (channel : ChannelPtr) (root : StreamPtr) (identity : Bytes)
  | start (channel : ChannelPtr) (initiate : Bool)
  | setReceiveBufferSize (stream : StreamPtr) (size : UInt64)
  | setChildReceiveBufferSize (stream : StreamPtr) (size : UInt64)
  /-- A packet of another kind, the delayed acknowledgment, or a packet that
  is sent. -/
  | ackCall (channel : ChannelPtr) (call : Channel.AckCall)
  | rxSubstream
      (parent : StreamPtr) (pktseq : PacketSeq) (channel : ChannelPtr)
      (sid : LocalStreamId) (slot : Slot) (usid : UniqueStreamId)
      (newStream : StreamPtr)
  | clear (stream : StreamPtr)
  deriving DecidableEq, Repr

namespace PeerCall

def run (env : Env) (state : PeerWorld) : PeerCall → Option PeerWorld
  | .createStream stream identity parent =>
      state.createStream env stream identity parent
  | .setUsid stream newUsid => state.setUsid stream newUsid
  | .construct channel root identity =>
      state.construct env channel root identity
  | .start channel initiate => state.start env channel initiate
  | .setReceiveBufferSize stream size =>
      state.setReceiveBufferSize env stream size
  | .setChildReceiveBufferSize stream size =>
      state.setChildReceiveBufferSize env stream size
  | .ackCall channel call => state.ackCall channel call
  | .rxSubstream parent pktseq channel sid slot usid newStream =>
      (state.rxSubstream env parent pktseq channel sid slot usid
        newStream).map Prod.snd
  | .clear stream => state.clear env stream

/-- `set_usid` is not called for a root. -/
def NotOnRoot (state : PeerWorld) : PeerCall → Prop
  | .setUsid stream _ =>
      ∀ channel, (state.world.channels channel).root ≠ some stream
  | _ => True

end PeerCall

def PeerStep
    (env : Env) (state : PeerWorld) (call : PeerCall)
    (next : PeerWorld) : Prop :=
  call.NotOnRoot state ∧ call.run env state = some next

abbrev PeerRun (env : Env) :
    PeerWorld → List PeerCall → PeerWorld → Prop :=
  Run (PeerStep env)

end StructuredStreams.Stream
