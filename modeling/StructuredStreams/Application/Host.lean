import StructuredStreams.Foundation.Inboxes
import StructuredStreams.Service.Listening
import StructuredStreams.Service.ReceiveAccounting
import StructuredStreams.Stream.Peers

/-!
# The streams of an application

An application holds `stream` objects, each in front of a base stream that
outlives it: the object points to its base stream, and the base stream points
back to its owner.  A base stream that the other side opened has no owner
until the application accepts it, from its parent or from a server.

The host is that of the peers and of the servers, so that every call of the
stream layer may come between two calls of the application.  The records of
the service negotiation are left out: `connect_to` hands its request to
`write_record`, which writes nothing yet, and a stream that got a record is
given what it read.  The sizes of receive buffers are set by a call of the
peers on the base stream.  Base streams refer to themselves and are not
destroyed.
-/

namespace StructuredStreams.Application

open ByteCodec
open Service (ServerHost ServerPtr ServerCall text)
open Service.ServiceStream (ShutdownMode)
open StructuredStreams.Stream (StreamPtr ChannelPtr PacketSeq LocalStreamId
  UniqueStreamId Slot ListenMode PeerStream PeerWorld PeerCall World Call
  Env)

abbrev UserPtr := Nat

/-- A `stream` object of the application. -/
structure UserStream where
  stream : Option StreamPtr
  errorString : Bytes
  deriving DecidableEq, Repr

/-- Where a base stream waits to be accepted. -/
inductive Inbox where
  /-- `received_substreams_` of a base stream. -/
  | substreams (parent : StreamPtr)
  /-- `received_connections_` of a server. -/
  | connections (server : ServerPtr)
  deriving DecidableEq, Repr

/-- The fields `arrived` and `accepted` record the history, the latest last,
and are read by no function. -/
structure Host where
  peers : PeerWorld
  servers : ServerHost
  receivedConnections : ServerPtr → List StreamPtr
  /-- The field `owner_` of a base stream. -/
  owner : StreamPtr → Option UserPtr
  users : UserPtr → Option UserStream
  arrived : List (Inbox × StreamPtr)
  accepted : List (Inbox × StreamPtr)

/-- `base_stream::shutdown`.  What it would do for writing is commented
out. -/
def shutdownLink (mode : ShutdownMode) (link : PeerStream) : PeerStream :=
  let fmode := mode.toUnderlying
  if fmode &&& ShutdownMode.reset.toUnderlying ≠ 0 then
    link.disconnect
  else if link.state = .connected ∧ link.endRead = false ∧
      fmode &&& ShutdownMode.read.toUnderlying ≠ 0 then
    { link with endRead := true }
  else
    link

namespace Host

/-- A host in which nothing was opened yet, whatever its channels are. -/
def create (world : World) : Host where
  peers := PeerWorld.create world
  servers := ServerHost.create
  receivedConnections := fun _ => []
  owner := fun _ => none
  users := fun _ => none
  arrived := []
  accepted := []

/-- The base stream of a stream object. -/
def baseOf (host : Host) (user : UserPtr) : Option StreamPtr :=
  (host.users user).bind UserStream.stream

/-- `owner_.lock()`, which finds an owner that still exists. -/
def lockOwner (host : Host) (base : StreamPtr) : Option UserPtr :=
  (host.owner base).filter fun user => (host.users user).isSome

/-- The substreams that wait to be accepted from a base stream. -/
def receivedSubstreams (peers : PeerWorld) (parent : StreamPtr) :
    List StreamPtr :=
  ((peers.links parent).map PeerStream.receivedSubstreams).getD []

def waiting (host : Host) : Inbox → List StreamPtr
  | .substreams parent => receivedSubstreams host.peers parent
  | .connections server => host.receivedConnections server

def setUser (host : Host) (user : UserPtr) (entry : Option UserStream) :
    Host :=
  { host with users := Function.update host.users user entry }

def setOwner
    (host : Host) (base : StreamPtr) (user : Option UserPtr) : Host :=
  { host with owner := Function.update host.owner base user }

def modifyLink
    (host : Host) (base : StreamPtr) (change : PeerStream → PeerStream) :
    Host :=
  { host with peers := host.peers.modifyLink base change }

def setError (host : Host) (user : UserPtr) (error : Bytes) : Host :=
  { host with
    users :=
      Function.update host.users user
        ((host.users user).map fun entry =>
          { entry with errorString := error }) }

def notConnected : Bytes :=
  text "Stream not connected"

/-- The constructor `stream(host)`, on memory that holds no other object. -/
def constructUser (host : Host) (user : UserPtr) : Option Host := do
  guard ((host.users user).isNone)
  return host.setUser user (some ⟨none, []⟩)

/-- `stream::create`, which asserts that the base stream has no owner. -/
def createUser (host : Host) (otherStream : StreamPtr) (user : UserPtr) :
    Option Host := do
  guard ((host.users user).isNone)
  guard ((host.lockOwner otherStream).isNone)
  return (host.setUser user (some ⟨some otherStream, []⟩)).setOwner
    otherStream (some user)

def disconnect (host : Host) (user : UserPtr) : Option Host := do
  let entry ← host.users user
  match entry.stream with
  | none => return host
  | some base =>
      let host := host.setOwner base none
      let host := host.modifyLink base (shutdownLink .close)
      return host.setUser user (some { entry with stream := none })

/-- The destructor. -/
def destroyUser (host : Host) (user : UserPtr) : Option Host := do
  let host ← host.disconnect user
  guard (host.baseOf user = none)
  return host.setUser user none

def shutdown (host : Host) (user : UserPtr) (mode : ShutdownMode) :
    Option Host := do
  let entry ← host.users user
  match entry.stream with
  | none => return host
  | some base => return host.modifyLink base (shutdownLink mode)

/-- `base_stream::connect_to`. -/
def connectBase (host : Host) (base : StreamPtr) (service : Bytes) :
    Option Host := do
  guard (service ≠ [])
  let link ← host.peers.links base
  guard (link.state = .created)
  guard ((host.peers.world.streams base).txCurrentAttachment = none)
  let world :=
    host.peers.world.modifyStream base fun entry =>
      { entry with topLevel := true }
  let host := { host with peers := { host.peers with world := world } }
  return host.modifyLink base fun link =>
    { link with state := .waitService }

/-- `stream::connect_to`.  The memory of the new base stream is given. -/
def connectTo
    (env : Env) (host : Host) (user : UserPtr)
    (destination service : Bytes) (base : StreamPtr) :
    Option Host := do
  guard (destination ≠ [])
  let host ← host.disconnect user
  let entry ← host.users user
  let peers ← host.peers.createStream env base destination none
  let host := { host with peers := peers }.setOwner base (some user)
  let host := host.setUser user (some { entry with stream := some base })
  host.connectBase base service

def listen (host : Host) (user : UserPtr) (mode : ListenMode) :
    Option Host := do
  let entry ← host.users user
  match entry.stream with
  | none => return host.setError user notConnected
  | some base =>
      return host.modifyLink base fun link =>
        { link with listenMode := mode }

/-- `stream::open_substream` with what it returns. -/
def openSubstream
    (env : Env) (host : Host) (user : UserPtr) (newStream : StreamPtr)
    (newUser : UserPtr) : Option (Option UserPtr × Host) := do
  let entry ← host.users user
  match entry.stream with
  | none => return (none, host.setError user notConnected)
  | some base =>
      let link ← host.peers.links base
      let peers ←
        host.peers.createStream env newStream link.peerId.val (some base)
      let host := { host with peers := peers }
      let host := host.modifyLink newStream fun link =>
        { link with state := .connected }
      let host ← host.createUser newStream newUser
      return (some newUser, host)

/-- `stream::accept_substream` with what it returns. -/
def acceptSubstream
    (host : Host) (user newUser : UserPtr) :
    Option (Option UserPtr × Host) := do
  let entry ← host.users user
  match entry.stream with
  | none => return (none, host.setError user notConnected)
  | some base =>
      match receivedSubstreams host.peers base with
      | [] =>
          return (none, host.setError user (text "No waiting substreams"))
      | newStream :: rest =>
          let host := host.modifyLink base fun link =>
            { link with receivedSubstreams := rest }
          let host :=
            { host with
              accepted :=
                host.accepted ++ [(Inbox.substreams base, newStream)] }
          let host ← host.createUser newStream newUser
          return (some newUser, host)

/-- `server::accept` with what it returns. -/
def accept
    (host : Host) (server : ServerPtr) (newUser : UserPtr) :
    Option (Option UserPtr × Host) := do
  guard ((host.servers.servers server).isSome)
  match host.receivedConnections server with
  | [] => return (none, host)
  | newStream :: rest =>
      let host :=
        { host with
          receivedConnections :=
            Function.update host.receivedConnections server rest
          accepted := host.accepted ++ [(Inbox.connections server, newStream)] }
      let host ← host.createUser newStream newUser
      return (some newUser, host)

/-- A substream of another stream than the root has arrived at its parent. -/
def rxSubstream
    (env : Env) (host : Host) (parent : StreamPtr) (pktseq : PacketSeq)
    (channel : ChannelPtr) (sid : LocalStreamId) (slot : Slot)
    (usid : UniqueStreamId) (newStream : StreamPtr) :
    Option Host := do
  let (result, peers) ←
    host.peers.rxSubstream env parent pktseq channel sid slot usid
      newStream
  if result = none ∨ (peers.world.channels channel).root = some parent then
    return { host with peers := peers }
  else
    return { host with
      peers := peers
      arrived := host.arrived ++ [(Inbox.substreams parent, newStream)] }

/-- `got_service_request` of a stream that read the record.  A server that
was destroyed while it listened cannot be handed anything. -/
def gotServiceRequest
    (host : Host) (base : StreamPtr) (code : BitVec 32)
    (service protocol : Bytes) : Option Host := do
  let link ← host.peers.links base
  guard (link.state = .accepting)
  if code ≠ Service.connectRequest then
    return host.modifyLink base PeerStream.disconnect
  else
    match host.servers.listenerFor (service, protocol) with
    | none => return host.modifyLink base PeerStream.disconnect
    | some server =>
        guard ((host.servers.servers server).isSome)
        let host := host.modifyLink base fun link =>
          { link with state := .connected }
        return { host with
          receivedConnections :=
            Function.update host.receivedConnections server
              (host.receivedConnections server ++ [base])
          arrived := host.arrived ++ [(Inbox.connections server, base)] }

/-- `got_service_reply` of a stream that read the record. -/
def gotServiceReply
    (host : Host) (base : StreamPtr) (code status : BitVec 32) :
    Option Host := do
  let link ← host.peers.links base
  guard (link.state = .waitService)
  guard
    ((host.peers.world.streams base).txCurrentAttachment.isSome = true)
  if code ≠ Service.connectReply ∨ status ≠ 0 then
    return host.modifyLink base PeerStream.disconnect
  else
    return host.modifyLink base fun link => { link with state := .connected }

/-- A call of the peers. -/
def peerCall (env : Env) (host : Host) : PeerCall → Option Host
  | .rxSubstream parent pktseq channel sid slot usid newStream =>
      host.rxSubstream env parent pktseq channel sid slot usid newStream
  | call => do
      let peers ← call.run env host.peers
      return { host with peers := peers }

/-- A call of the streams and channels. -/
def transportCall
    (env : Env) (host : Host) (call : Call) :
    Option Host := do
  let world ← call.run env host.peers.world
  return { host with peers := { host.peers with world := world } }

/-- The queue of a server comes and goes with it. -/
def connectionsAfter (host : Host) (server : ServerPtr) :
    ServerCall → List StreamPtr
  | .construct ptr | .destroy ptr =>
      if server = ptr then [] else host.receivedConnections server
  | .listen .. => host.receivedConnections server

/-- A call of a server. -/
def serverCall (host : Host) (call : ServerCall) : Option Host := do
  let servers ← call.apply host.servers
  return { host with
    servers := servers
    receivedConnections := fun server =>
      host.connectionsAfter server call }

end Host

inductive HostCall where
  | constructUser (user : UserPtr)
  | destroyUser (user : UserPtr)
  | connectTo
      (user : UserPtr) (destination service : Bytes) (base : StreamPtr)
  | disconnect (user : UserPtr)
  | shutdown (user : UserPtr) (mode : ShutdownMode)
  | listen (user : UserPtr) (mode : ListenMode)
  | openSubstream
      (user : UserPtr) (newStream : StreamPtr) (newUser : UserPtr)
  | acceptSubstream (user newUser : UserPtr)
  | accept (server : ServerPtr) (newUser : UserPtr)
  | gotServiceRequest
      (base : StreamPtr) (code : BitVec 32) (service protocol : Bytes)
  | gotServiceReply (base : StreamPtr) (code status : BitVec 32)
  | peerCall (call : PeerCall)
  | transportCall (call : Call)
  | serverCall (call : ServerCall)
  deriving DecidableEq, Repr

/-- What a call does, or none where it fails an assertion or follows a
pointer to nothing. -/
def HostCall.run (env : Env) (host : Host) : HostCall → Option Host
  | .constructUser user => host.constructUser user
  | .destroyUser user => host.destroyUser user
  | .connectTo user destination service base =>
      host.connectTo env user destination service base
  | .disconnect user => host.disconnect user
  | .shutdown user mode => host.shutdown user mode
  | .listen user mode => host.listen user mode
  | .openSubstream user newStream newUser =>
      (host.openSubstream env user newStream newUser).map Prod.snd
  | .acceptSubstream user newUser =>
      (host.acceptSubstream user newUser).map Prod.snd
  | .accept server newUser => (host.accept server newUser).map Prod.snd
  | .gotServiceRequest base code service protocol =>
      host.gotServiceRequest base code service protocol
  | .gotServiceReply base code status =>
      host.gotServiceReply base code status
  | .peerCall call => host.peerCall env call
  | .transportCall call => host.transportCall env call
  | .serverCall call => host.serverCall call

def HostStep
    (env : Env) (host : Host) (call : HostCall) (next : Host) :
    Prop :=
  call.run env host = some next

abbrev HostRun (env : Env) : Host → List HostCall → Host → Prop :=
  Run (HostStep env)

/-- Make the calls one after the other. -/
def HostCall.runAll
    (env : Env) (host : Host) (calls : List HostCall) : Option Host :=
  calls.foldlM (fun host call => call.run env host) host

theorem HostRun.of_runAll
    {env : Env} {host final : Host} {calls : List HostCall}
    (returned : HostCall.runAll env host calls = some final) :
    HostRun env host calls final :=
  Run.of_foldlM (fun _ _ _ taken => taken) returned

end StructuredStreams.Application
