import StructuredStreams.Application.Ownership
import StructuredStreams.Logger

/-!
# The shell server

The shell server listens for the shell service, and its handler of
`on_new_connection` accepts all that waits and starts a session on each
connection.  The server is a part of the shell server, so that nobody else
accepts from it or destroys it; the stream of a session is the session's, so
that nobody else connects, disconnects or destroys it.  Sessions are never
deleted.  Runs start from a shell server that found its service free.

The rest of the program and of the stream layer may call the host between
two requests.
-/

namespace StructuredStreams.Application

open ByteCodec
open Service (ServerHost ServerPtr ServerCall Server text)
open StructuredStreams.Stream (StreamPtr PeerStream PeerWorld World Env)

/-- A shell server, with the streams of its sessions, the latest last. -/
structure ShellServer where
  host : Host
  srv : ServerPtr
  sessions : List UserPtr

/-- The server whose `on_new_connection` is emitted for a request. -/
def Host.newConnection
    (host : Host) (code : BitVec 32) (service protocol : Bytes) :
    Option ServerPtr :=
  if code ≠ Service.connectRequest then none
  else host.servers.listenerFor (service, protocol)

namespace ShellServer

def serviceName : Bytes :=
  text "Shell"

def protocolName : Bytes :=
  text "MettaShell"

/-- The constructor, and whether its server listens.  Where the service is
taken, it calls `logger::fatal`.  The memory of the server is given. -/
def construct (host : Host) (srv : ServerPtr) :
    Option (Bool × ShellServer) := do
  let host ← host.serverCall (.construct srv)
  let (listening, servers) ←
    host.servers.listen srv serviceName (text "Secure Remote Shell")
      protocolName (text "MettaNode Remote Shell Protocol")
  let constructed : ShellServer := ⟨{ host with servers := servers }, srv, []⟩
  if listening then
    return (true, constructed)
  else
    Logger.fatal (some (false, constructed))

/-- `got_connection`, with the streams it starts sessions on.  The memory of
these is given; none is needed once `accept` returns null. -/
def gotConnection (host : Host) (srv : ServerPtr) :
    List UserPtr → Option (List UserPtr × Host)
  | [] =>
      if host.receivedConnections srv = [] then some ([], host) else none
  | newUser :: newUsers => do
      let (accepted, host) ← host.accept srv newUser
      match accepted with
      | none => return ([], host)
      | some user =>
          let (users, host) ← gotConnection host srv newUsers
          return (user :: users, host)

/-- `got_service_request` of a base stream, with the handlers of the signal
that it emits last. -/
def gotServiceRequest
    (state : ShellServer) (base : StreamPtr) (code : BitVec 32)
    (service protocol : Bytes) (newUsers : List UserPtr) :
    Option ShellServer := do
  let host ← state.host.gotServiceRequest base code service protocol
  if state.host.newConnection code service protocol = some state.srv then
    let (users, host) ← gotConnection host state.srv newUsers
    return { state with host := host, sessions := state.sessions ++ users }
  else
    return { state with host := host }

/-- What the rest of the program may call. -/
def Foreign (state : ShellServer) : HostCall → Prop
  | .destroyUser user | .disconnect user | .connectTo user _ _ _ =>
      user ∉ state.sessions
  | .accept server _ | .serverCall (.destroy server) => server ≠ state.srv
  | .gotServiceRequest .. => False
  | _ => True

instance (state : ShellServer) (call : HostCall) :
    Decidable (state.Foreign call) := by
  unfold Foreign
  split <;> infer_instance

end ShellServer

inductive ShellServerEvent where
  | other (call : HostCall)
  | gotServiceRequest
      (base : StreamPtr) (code : BitVec 32) (service protocol : Bytes)
      (newUsers : List UserPtr)
  deriving DecidableEq, Repr

def ShellServerEvent.run (env : Env) (state : ShellServer) :
    ShellServerEvent → Option ShellServer
  | .other call => do
      guard (state.Foreign call)
      let host ← call.run env state.host
      return { state with host := host }
  | .gotServiceRequest base code service protocol newUsers =>
      state.gotServiceRequest base code service protocol newUsers

def ShellServerStep
    (env : Env) (state : ShellServer) (event : ShellServerEvent)
    (next : ShellServer) : Prop :=
  event.run env state = some next

abbrev ShellServerRun (env : Env) :
    ShellServer → List ShellServerEvent → ShellServer → Prop :=
  Run (ShellServerStep env)

/-- The server exists and is the one that listens for the shell. -/
structure ServesShell (host : Host) (srv : ServerPtr) : Prop where
  active :
    ∃ server, host.servers.servers srv = some server ∧ server.active = true
  found :
    host.servers.listenerFor
        (ShellServer.serviceName, ShellServer.protocolName) =
      some srv

/-- A call leaves the server and the base streams of some stream objects
alone. -/
structure Spares
    (srv : ServerPtr) (users : List UserPtr) (host next : Host) :
    Prop where
  bases :
    ∀ user ∈ users, ∀ base,
      host.baseOf user = some base → next.baseOf user = some base
  serves : ServesShell host srv → ServesShell next srv
  queue : next.receivedConnections srv = host.receivedConnections srv
  connections :
    itemsAt (Inbox.connections srv) next.arrived =
      itemsAt (Inbox.connections srv) host.arrived

namespace Spares

variable {srv : ServerPtr} {users : List UserPtr}
  {host middle next : Host}

theorem refl (host : Host) : Spares srv users host host :=
  ⟨fun _ _ _ isBase => isBase, id, rfl, rfl⟩

theorem trans
    (first : Spares srv users host middle)
    (second : Spares srv users middle next) :
    Spares srv users host next where
  bases := fun user member base isBase =>
    second.bases user member base (first.bases user member base isBase)
  serves := fun serves => second.serves (first.serves serves)
  queue := second.queue.trans first.queue
  connections := second.connections.trans first.connections

/-- A call that touches neither servers nor histories. -/
theorem of_bases
    (bases :
      ∀ user ∈ users, ∀ base,
        host.baseOf user = some base → next.baseOf user = some base)
    (servers : next.servers = host.servers)
    (queues : next.receivedConnections = host.receivedConnections)
    (arrived : next.arrived = host.arrived) :
    Spares srv users host next where
  bases := bases
  serves := by
    rintro ⟨active, found⟩
    rw [← servers] at active found
    exact ⟨active, found⟩
  queue := congrFun queues srv
  connections := by rw [arrived]

private theorem setPeers (peers : PeerWorld) :
    Spares srv users host { host with peers := peers } :=
  ⟨fun _ _ _ isBase => isBase,
    fun serves => ⟨serves.active, serves.found⟩, rfl, rfl⟩

theorem setOwner (base : StreamPtr) (user : Option UserPtr) :
    Spares srv users host (host.setOwner base user) :=
  ⟨fun _ _ _ isBase => isBase,
    fun serves => ⟨serves.active, serves.found⟩, rfl, rfl⟩

/-- Another stream object is written. -/
theorem setUser
    {user : UserPtr} (other : user ∉ users) (entry : Option UserStream) :
    Spares srv users host (host.setUser user entry) := by
  refine of_bases ?_ rfl rfl rfl
  intro kept member base isBase
  have different : kept ≠ user := fun same => other (same ▸ member)
  rw [Linked.setUser_baseOf, Function.update_of_ne different]
  exact isBase

theorem setError (user : UserPtr) (error : Bytes) :
    Spares srv users host (host.setError user error) := by
  refine of_bases ?_ rfl rfl rfl
  intro kept _ base isBase
  rw [Host.baseOf] at isBase ⊢
  dsimp only [Host.setError]
  by_cases same : kept = user
  · subst same
    rw [Function.update_self]
    cases found : host.users kept with
    | none =>
        rw [found] at isBase
        cases isBase
    | some entry =>
        rw [found] at isBase
        exact isBase
  · rw [Function.update_of_ne same]
    exact isBase

end Spares

/-- An object is new: those that have base streams are others. -/
theorem setUser_of_free
    {host : Host} {newUser : UserPtr} (free : host.users newUser = none)
    (entry : Option UserStream) {user : UserPtr} {base : StreamPtr}
    (isBase : host.baseOf user = some base) :
    (host.setUser newUser entry).baseOf user = some base := by
  have different : user ≠ newUser := by
    rintro rfl
    rw [Host.baseOf, free] at isBase
    cases isBase
  rw [Linked.setUser_baseOf, Function.update_of_ne different]
  exact isBase

namespace Spares

variable {srv : ServerPtr} {users : List UserPtr} {host next : Host}

theorem modifyLink (base : StreamPtr) (change : PeerStream → PeerStream) :
    Spares srv users host (host.modifyLink base change) :=
  setPeers (host.peers.modifyLink base change)

theorem createUser
    {base : StreamPtr} {newUser : UserPtr}
    (returned : host.createUser base newUser = some next) :
    Spares srv users host next := by
  rcases Host.createUser_eq_some returned with ⟨free, _, same⟩
  subst next
  refine of_bases ?_ rfl rfl rfl
  intro user _ base isBase
  exact setUser_of_free free _ isBase

theorem constructUser
    {user : UserPtr} (returned : host.constructUser user = some next) :
    Spares srv users host next := by
  rcases Host.constructUser_eq_some returned with ⟨free, same⟩
  subst next
  refine of_bases ?_ rfl rfl rfl
  intro kept _ base isBase
  exact setUser_of_free free _ isBase

theorem disconnect
    {user : UserPtr} (other : user ∉ users)
    (returned : host.disconnect user = some next) :
    Spares srv users host next := by
  rcases Host.disconnect_eq_some returned with
    ⟨_, same⟩ | ⟨base, entry, _, _, same⟩
  · rw [same]
    exact refl host
  · rw [same]
    exact
      ((setOwner base none).trans (modifyLink base _)).trans
        (setUser other _)

theorem destroyUser
    {user : UserPtr} (other : user ∉ users)
    (returned : host.destroyUser user = some next) :
    Spares srv users host next := by
  rcases Host.destroyUser_eq_some returned with
    ⟨middle, disconnected, _, same⟩
  rw [same]
  exact (disconnect other disconnected).trans (setUser other none)

theorem shutdown
    {user : UserPtr} {mode : Service.ServiceStream.ShutdownMode}
    (returned : host.shutdown user mode = some next) :
    Spares srv users host next := by
  rcases Host.shutdown_eq_some returned with same | ⟨base, same⟩
  · rw [same]
    exact refl host
  · rw [same]
    exact modifyLink base _

theorem connectBase
    {base : StreamPtr} {service : Bytes}
    (returned : host.connectBase base service = some next) :
    Spares srv users host next := by
  rcases Host.connectBase_eq_some returned with ⟨_, world, _, _, same⟩
  rw [same]
  exact (setPeers _).trans (modifyLink base _)

theorem connectTo
    {env : Env} {user : UserPtr} {destination service : Bytes}
    {base : StreamPtr}
    (other : user ∉ users)
    (returned :
      host.connectTo env user destination service base = some next) :
    Spares srv users host next := by
  rcases Host.connectTo_eq_some returned with
    ⟨apart, peers, entry, disconnected, _, _, connects⟩
  have opened :
      Spares srv users apart
        (({ apart with peers := peers }.setOwner base (some user)).setUser
          user (some entry)) :=
    ((setPeers peers).trans (setOwner base (some user))).trans
      (setUser other _)
  exact
    ((disconnect other disconnected).trans opened).trans
      (connectBase connects)

theorem listen
    {user : UserPtr} {mode : StructuredStreams.Stream.ListenMode}
    (returned : host.listen user mode = some next) :
    Spares srv users host next := by
  rcases Host.listen_eq_some returned with same | ⟨base, same⟩
  · rw [same]
    exact setError user _
  · rw [same]
    exact modifyLink base _

theorem openSubstream
    {env : Env} {user newUser : UserPtr} {newStream : StreamPtr}
    {result : Option UserPtr}
    (returned :
      host.openSubstream env user newStream newUser =
        some (result, next)) :
    Spares srv users host next := by
  rcases Host.openSubstream_eq_some returned with
    same | ⟨_, _, peers, _, isUser⟩
  · rw [same]
    exact setError user _
  · exact
      ((setPeers peers).trans (modifyLink newStream _)).trans
        (createUser isUser)

theorem acceptSubstream
    {user newUser : UserPtr} {result : Option UserPtr}
    (returned :
      host.acceptSubstream user newUser = some (result, next)) :
    Spares srv users host next := by
  rcases Host.acceptSubstream_eq_some returned with
    ⟨error, same⟩ | ⟨base, link, newStream, rest, _, _, isUser⟩
  · rw [same]
    exact setError user error
  · have taken :
        Spares srv users
          (host.modifyLink base fun link =>
            { link with receivedSubstreams := rest })
          { host.modifyLink base fun link =>
              { link with receivedSubstreams := rest } with
            accepted :=
              host.accepted ++ [(Inbox.substreams base, newStream)] } :=
      of_bases (fun _ _ _ isBase => isBase) rfl rfl rfl
    exact ((modifyLink base _).trans taken).trans (createUser isUser)

theorem rxSubstream
    {env : Env} {parent newStream : StreamPtr}
    {pktseq : StructuredStreams.Stream.PacketSeq}
    {channel : StructuredStreams.Stream.ChannelPtr}
    {sid : StructuredStreams.Stream.LocalStreamId}
    {slot : StructuredStreams.Stream.Slot}
    {usid : StructuredStreams.Stream.UniqueStreamId}
    (returned :
      host.rxSubstream env parent pktseq channel sid slot usid newStream =
        some next) :
    Spares srv users host next := by
  rcases Host.rxSubstream_eq_some returned with
    ⟨_, peers, _, ⟨_, same⟩ | ⟨_, same⟩⟩
  · rw [same]
    exact setPeers peers
  · rw [same]
    refine
      ⟨fun _ _ _ isBase => isBase,
        fun serves => ⟨serves.active, serves.found⟩, rfl, ?_⟩
    rw [itemsAt_snoc, if_neg nofun]

theorem peerCall
    {env : Env} {call : StructuredStreams.Stream.PeerCall}
    (returned : host.peerCall env call = some next) :
    Spares srv users host next := by
  rcases Host.peerCall_eq_some returned with
    ⟨_, _, _, _, _, _, _, _, received⟩ | ⟨peers, _, _, same⟩
  · exact rxSubstream received
  · rw [same]
    exact setPeers peers

theorem transportCall
    {env : Env} {call : StructuredStreams.Stream.Call}
    (returned : host.transportCall env call = some next) :
    Spares srv users host next := by
  obtain ⟨world, same⟩ := Host.transportCall_eq_some returned
  rw [same]
  exact setPeers _

theorem gotServiceReply
    {base : StreamPtr} {code status : BitVec 32}
    (returned : host.gotServiceReply base code status = some next) :
    Spares srv users host next := by
  rcases Host.gotServiceReply_eq_some returned with
    ⟨_, _, _, same | same⟩
  · rw [same]
    exact modifyLink base _
  · rw [same]
    exact modifyLink base _

end Spares

/-! ## The servers of the host -/

/-- A service that is listened for keeps its server. -/
theorem listenerFor_of_apply
    {servers next : ServerHost} {call : ServerCall}
    (returned : call.apply servers = some next)
    {svcPair : Bytes × Bytes} {srv : ServerPtr}
    (found : servers.listenerFor svcPair = some srv) :
    next.listenerFor svcPair = some srv := by
  cases call with
  | construct ptr =>
      rw [ServerCall.apply, ServerHost.construct, guard_bind_eq_some_iff]
        at returned
      obtain ⟨_, returned⟩ := returned
      cases returned
      exact found
  | destroy ptr =>
      rw [ServerCall.apply, ServerHost.destroy, guard_bind_eq_some_iff]
        at returned
      obtain ⟨_, returned⟩ := returned
      cases returned
      exact found
  | listen ptr serviceName serviceDesc protocolName protocolDesc =>
      rw [ServerCall.apply, Option.map_eq_some_iff] at returned
      obtain ⟨⟨accepted, host⟩, listened, same⟩ := returned
      rw [ServerHost.listen, bind_eq_some_iff] at listened
      obtain ⟨server, _, listened⟩ := listened
      simp only [guard_bind_eq_some_iff] at listened
      obtain ⟨_, _, _, listened⟩ := listened
      subst next
      split at listened
      · cases listened
        exact found
      · next free =>
          cases listened
          rw [ServerHost.registerListener, if_neg free]
          have different : svcPair ≠ (serviceName, protocolName) := by
            rintro rfl
            exact free (Option.isSome_of_eq_some found)
          change List.lookup svcPair (_ :: _) = some srv
          rw [List.lookup_cons, beq_false_of_ne different]
          exact found

/-- A server that listens does so until it is destroyed. -/
theorem active_of_apply
    {servers next : ServerHost} {call : ServerCall}
    (returned : call.apply servers = some next) {srv : ServerPtr}
    (notDestroyed : call ≠ .destroy srv)
    (active :
      ∃ server, servers.servers srv = some server ∧ server.active = true) :
    ∃ server, next.servers srv = some server ∧ server.active = true := by
  obtain ⟨server, isServer, isActive⟩ := active
  have elsewhere :
      ∀ ptr, Service.NotListening servers ptr → srv ≠ ptr := by
    intro ptr idle same
    subst same
    have inactive := idle server isServer
    rw [isActive] at inactive
    cases inactive
  refine ⟨server, ?_, isActive⟩
  cases Service.apply_step returned with
  | idle call ptr other notListening inactive =>
      dsimp only
      rw [Function.update_of_ne (elsewhere ptr notListening)]
      exact isServer
  | listens call ptr other notListening alsoActive =>
      dsimp only
      rw [Function.update_of_ne (elsewhere ptr notListening)]
      exact isServer
  | destroys ptr other isOther =>
      have different : srv ≠ ptr := fun same =>
        notDestroyed (congrArg ServerCall.destroy same.symm)
      dsimp only [ServerHost.setServer]
      rw [Function.update_of_ne different]
      exact isServer

/-- No other server is constructed where one exists. -/
theorem connectionsAfter_eq
    {host : Host} {servers : ServerHost} {call : ServerCall}
    {srv : ServerPtr} (returned : call.apply host.servers = some servers)
    (exists' : (host.servers.servers srv).isSome)
    (notDestroyed : call ≠ .destroy srv) :
    host.connectionsAfter srv call = host.receivedConnections srv := by
  cases call with
  | construct ptr =>
      rw [ServerCall.apply, ServerHost.construct, guard_bind_eq_some_iff]
        at returned
      obtain ⟨unused, _⟩ := returned
      refine if_neg ?_
      rintro rfl
      rw [Option.isNone_iff_eq_none.mp unused] at exists'
      cases exists'
  | destroy ptr =>
      exact
        if_neg fun same =>
          notDestroyed (congrArg ServerCall.destroy same.symm)
  | listen ptr serviceName serviceDesc protocolName protocolDesc =>
      rfl

theorem Spares.serverCall
    {srv : ServerPtr} {users : List UserPtr} {host next : Host}
    {call : ServerCall} (returned : host.serverCall call = some next)
    (serves : ServesShell host srv) (notDestroyed : call ≠ .destroy srv) :
    Spares srv users host next := by
  rcases Host.serverCall_eq_some returned with ⟨servers, applied, same⟩
  subst next
  obtain ⟨server, isServer, _⟩ := serves.active
  refine ⟨fun _ _ _ isBase => isBase, fun _ => ⟨?_, ?_⟩, ?_, rfl⟩
  · exact active_of_apply applied notDestroyed serves.active
  · exact listenerFor_of_apply applied serves.found
  · exact
      connectionsAfter_eq applied (Option.isSome_of_eq_some isServer)
        notDestroyed

/-- The front of the queue of a server got the stream object `newUser`. -/
structure TookConnection
    (srv : ServerPtr) (newUser : UserPtr) (base : StreamPtr)
    (rest : List StreamPtr) (host next : Host) : Prop where
  base : next.baseOf newUser = some base
  bases :
    ∀ user base,
      host.baseOf user = some base → next.baseOf user = some base
  peers : next.peers = host.peers
  servers : next.servers = host.servers
  queues :
    next.receivedConnections =
      Function.update host.receivedConnections srv rest
  arrived : next.arrived = host.arrived

private theorem accept_of_nil
    {host next : Host} {srv : ServerPtr} {newUser : UserPtr}
    {result : Option UserPtr}
    (empty : host.receivedConnections srv = [])
    (returned : host.accept srv newUser = some (result, next)) :
    result = none ∧ next = host := by
  rcases Host.accept_eq_some returned with
    ⟨_, isNone, same⟩ | ⟨_, _, front, _, _⟩
  · exact ⟨isNone, same⟩
  · rw [empty] at front
    cases front

private theorem accept_of_cons
    {host next : Host} {srv : ServerPtr} {newUser : UserPtr}
    {result : Option UserPtr} {base : StreamPtr} {rest : List StreamPtr}
    (front : host.receivedConnections srv = base :: rest)
    (returned : host.accept srv newUser = some (result, next)) :
    result = some newUser ∧
      TookConnection srv newUser base rest host next := by
  rcases Host.accept_eq_some returned with
    ⟨empty, _, _⟩ | ⟨_, _, isFront, isSome, isUser⟩
  · rw [front] at empty
    cases empty
  · rw [front] at isFront
    cases isFront
    rcases Host.createUser_eq_some isUser with ⟨free, _, same⟩
    subst next
    refine ⟨isSome, ?_, ?_, rfl, rfl, rfl, rfl⟩
    · simp [Host.baseOf, Host.setOwner, Host.setUser]
    · intro user base isBase
      exact setUser_of_free free _ isBase

/-- Another server accepts. -/
theorem Spares.accept
    {srv server : ServerPtr} {users : List UserPtr} {host next : Host}
    {newUser : UserPtr} {result : Option UserPtr} (different : server ≠ srv)
    (returned : host.accept server newUser = some (result, next)) :
    Spares srv users host next := by
  cases front : host.receivedConnections server with
  | nil =>
      rw [(accept_of_nil front returned).2]
      exact refl host
  | cons base rest =>
      obtain ⟨_, took⟩ := accept_of_cons front returned
      refine ⟨fun user _ => took.bases user, ?_, ?_, ?_⟩
      · rintro ⟨active, found⟩
        rw [← took.servers] at active found
        exact ⟨active, found⟩
      · rw [took.queues, Function.update_of_ne (Ne.symm different)]
      · rw [took.arrived]

/-- Every connection that waited has a stream object, in order, and none
waits any more. -/
structure Emptied
    (srv : ServerPtr) (users : List UserPtr) (host next : Host) :
    Prop where
  linked : Linked next
  empty : next.receivedConnections srv = []
  each :
    users.map next.baseOf = (host.receivedConnections srv).map some
  bases :
    ∀ user base,
      host.baseOf user = some base → next.baseOf user = some base
  servers : next.servers = host.servers
  arrived : next.arrived = host.arrived

namespace ShellServer

private theorem gotConnection_empties
    {host next : Host} {srv : ServerPtr} {newUsers users : List UserPtr}
    (linked : Linked host)
    (returned : gotConnection host srv newUsers = some (users, next)) :
    Emptied srv users host next := by
  induction newUsers generalizing host users with
  | nil =>
      rw [gotConnection] at returned
      split at returned
      · next empty =>
          cases returned
          refine ⟨linked, empty, ?_, fun _ _ isBase => isBase, rfl, rfl⟩
          rw [empty]
          rfl
      · cases returned
  | cons newUser newUsers inductionHypothesis =>
      rw [gotConnection, bind_eq_some_iff] at returned
      obtain ⟨⟨accepted, middle⟩, isAccepted, returned⟩ := returned
      have stillLinked := linked.accept isAccepted
      cases front : host.receivedConnections srv with
      | nil =>
          obtain ⟨isNone, same⟩ := accept_of_nil front isAccepted
          subst accepted middle
          cases returned
          refine
            ⟨linked, front, ?_, fun _ _ isBase => isBase, rfl, rfl⟩
          rw [front]
          rfl
      | cons base rest =>
          obtain ⟨isSome, took⟩ := accept_of_cons front isAccepted
          subst accepted
          dsimp only at returned
          rw [bind_eq_some_iff] at returned
          obtain ⟨⟨later, final⟩, goesOn, returned⟩ := returned
          cases returned
          have emptied := inductionHypothesis stillLinked goesOn
          refine
            ⟨emptied.linked, emptied.empty, ?_, ?_,
              emptied.servers.trans took.servers,
              emptied.arrived.trans took.arrived⟩
          · rw [List.map_cons, emptied.bases newUser base took.base,
              emptied.each, took.queues, Function.update_self, front,
              List.map_cons]
          · intro user other isBase
            exact
              emptied.bases user other (took.bases user other isBase)

/-- No connection waits, and the sessions are on those that arrived, one on
each and in order, after those of an `earlier` server at the address. -/
structure Attended (earlier : List StreamPtr) (state : ShellServer) :
    Prop where
  linked : Linked state.host
  serves : ServesShell state.host state.srv
  drained : state.host.receivedConnections state.srv = []
  each :
    ∃ bases,
      itemsAt (.connections state.srv) state.host.arrived =
          earlier ++ bases ∧
        state.sessions.map state.host.baseOf = bases.map some

namespace Attended

variable {earlier : List StreamPtr} {state : ShellServer}

private theorem hasBase
    (attended : Attended earlier state) {user : UserPtr}
    (member : user ∈ state.sessions) :
    ∃ base, state.host.baseOf user = some base := by
  obtain ⟨bases, _, each⟩ := attended.each
  have isBase : state.host.baseOf user ∈ bases.map some := by
    rw [← each]
    exact List.mem_map_of_mem member
  obtain ⟨base, _, same⟩ := List.mem_map.mp isBase
  exact ⟨base, same.symm⟩

/-- The base streams of the sessions stay. -/
theorem sameBases
    (attended : Attended earlier state) {next : Host}
    (kept :
      ∀ user ∈ state.sessions, ∀ base,
        state.host.baseOf user = some base →
          next.baseOf user = some base) :
    state.sessions.map next.baseOf =
      state.sessions.map state.host.baseOf := by
  refine List.map_congr_left fun user member => ?_
  obtain ⟨base, isBase⟩ := attended.hasBase member
  rw [kept user member base isBase, isBase]

private theorem spares
    (attended : Attended earlier state) {next : Host}
    (linked : Linked next)
    (spares : Spares state.srv state.sessions state.host next) :
    Attended earlier { state with host := next } where
  linked := linked
  serves := spares.serves attended.serves
  drained := spares.queue.trans attended.drained
  each := by
    obtain ⟨bases, arrived, each⟩ := attended.each
    refine ⟨bases, spares.connections.trans arrived, ?_⟩
    rw [← each]
    exact attended.sameBases spares.bases

end Attended

/-- A request that emits no signal of the server. -/
theorem request_spares
    {host next : Host} {srv : ServerPtr} {users : List UserPtr}
    {base : StreamPtr} {code : BitVec 32} {service protocol : Bytes}
    (returned :
      host.gotServiceRequest base code service protocol = some next)
    (elsewhere : host.newConnection code service protocol ≠ some srv) :
    Spares srv users host next := by
  rcases Host.gotServiceRequest_eq_some returned with
    ⟨_, _, _, ⟨_, same⟩ | ⟨server, isRequest, found, same⟩⟩
  · rw [same]
    exact Spares.modifyLink base _
  · have different : srv ≠ server := by
      rintro rfl
      apply elsewhere
      rw [Host.newConnection, if_neg (not_not.mpr isRequest), found]
    rw [same]
    refine
      ⟨fun _ _ _ isBase => isBase,
        fun serves => ⟨serves.active, serves.found⟩,
        Function.update_of_ne different _ _, ?_⟩
    have elsewhere : Inbox.connections server ≠ .connections srv :=
      fun sameInbox => different (Inbox.connections.inj sameInbox).symm
    rw [itemsAt_snoc, if_neg elsewhere]

/-- A request that emits the signal of the server has entered its queue. -/
structure Entered
    (srv : ServerPtr) (base : StreamPtr) (host next : Host) : Prop where
  queue :
    next.receivedConnections srv = host.receivedConnections srv ++ [base]
  arrived :
    itemsAt (Inbox.connections srv) next.arrived =
      itemsAt (.connections srv) host.arrived ++ [base]
  users : next.users = host.users
  servers : next.servers = host.servers
  connected :
    ∀ link,
      host.peers.links base = some link →
        next.peers.links base = some { link with state := .connected }

private theorem request_enters
    {host next : Host} {srv : ServerPtr} {base : StreamPtr}
    {code : BitVec 32} {service protocol : Bytes}
    (returned :
      host.gotServiceRequest base code service protocol = some next)
    (here : host.newConnection code service protocol = some srv) :
    Entered srv base host next := by
  rcases Host.gotServiceRequest_eq_some returned with
    ⟨_, _, _, ⟨refused, _⟩ | ⟨server, isRequest, found, same⟩⟩
  · rw [Host.newConnection] at here
    rcases refused with other | unheard
    · rw [if_pos other] at here
      cases here
    · rw [unheard, ite_self] at here
      cases here
  · rw [Host.newConnection, if_neg (not_not.mpr isRequest), found] at here
    cases here
    rw [same]
    refine ⟨Function.update_self _ _ _, ?_, rfl, rfl, ?_⟩
    · rw [itemsAt_snoc, if_pos rfl]
    · intro other isOther
      simp [Host.modifyLink, PeerWorld.modifyLink, isOther]

/-- The sessions after the handler has accepted what a request left in the
queue. -/
theorem Attended.accepts
    {earlier : List StreamPtr} {state : ShellServer}
    (attended : Attended earlier state) {base : StreamPtr}
    {requested final : Host} {users : List UserPtr}
    (entered : Entered state.srv base state.host requested)
    (emptied : Emptied state.srv users requested final) :
    Attended earlier
      { state with host := final, sessions := state.sessions ++ users }
    where
  linked := emptied.linked
  serves := by
    obtain ⟨active, found⟩ := attended.serves
    rw [← entered.servers, ← emptied.servers] at active found
    exact ⟨active, found⟩
  drained := emptied.empty
  each := by
    obtain ⟨bases, arrived, each⟩ := attended.each
    have kept :
        ∀ user ∈ state.sessions, ∀ other,
          state.host.baseOf user = some other →
            final.baseOf user = some other := by
      intro user _ other isBase
      refine emptied.bases user other ?_
      rw [Host.baseOf, entered.users]
      exact isBase
    have sameBases := attended.sameBases kept
    refine ⟨bases ++ [base], ?_, ?_⟩
    · rw [emptied.arrived, entered.arrived, arrived, List.append_assoc]
    · rw [List.map_append, List.map_append, sameBases, each, emptied.each,
        entered.queue, attended.drained, List.nil_append]

theorem Attended.gotServiceRequest
    {earlier : List StreamPtr} {state next : ShellServer}
    (attended : Attended earlier state) {base : StreamPtr}
    {code : BitVec 32} {service protocol : Bytes}
    {newUsers : List UserPtr}
    (returned :
      state.gotServiceRequest base code service protocol newUsers =
        some next) :
    Attended earlier next ∧ next.srv = state.srv := by
  unfold ShellServer.gotServiceRequest at returned
  rw [bind_eq_some_iff] at returned
  obtain ⟨requested, gotRequest, returned⟩ := returned
  have linked := attended.linked.gotServiceRequest gotRequest
  split at returned
  · next here =>
      rw [bind_eq_some_iff] at returned
      obtain ⟨⟨users, final⟩, accepted, returned⟩ := returned
      cases returned
      have entered := request_enters gotRequest here
      have emptied := gotConnection_empties linked accepted
      exact ⟨attended.accepts entered emptied, rfl⟩
  · next elsewhere =>
      cases returned
      exact
        ⟨attended.spares linked (request_spares gotRequest elsewhere), rfl⟩

/-! ## Runs -/

theorem foreign_spares
    {env : Env} {state : ShellServer} {earlier : List StreamPtr}
    (attended : Attended earlier state) {call : HostCall}
    (foreign : state.Foreign call) {next : Host}
    (returned : call.run env state.host = some next) :
    Spares state.srv state.sessions state.host next := by
  cases call with
  | constructUser user =>
      exact Spares.constructUser returned
  | destroyUser user =>
      exact Spares.destroyUser foreign returned
  | connectTo user destination service base =>
      exact Spares.connectTo foreign returned
  | disconnect user =>
      exact Spares.disconnect foreign returned
  | shutdown user mode =>
      exact Spares.shutdown returned
  | listen user mode =>
      exact Spares.listen returned
  | openSubstream user newStream newUser =>
      obtain ⟨⟨result, host⟩, opened, same⟩ :=
        Option.map_eq_some_iff.mp returned
      subst next
      exact Spares.openSubstream opened
  | acceptSubstream user newUser =>
      obtain ⟨⟨result, host⟩, accepted, same⟩ :=
        Option.map_eq_some_iff.mp returned
      subst next
      exact Spares.acceptSubstream accepted
  | accept server newUser =>
      obtain ⟨⟨result, host⟩, accepted, same⟩ :=
        Option.map_eq_some_iff.mp returned
      subst next
      exact Spares.accept foreign accepted
  | gotServiceRequest base code service protocol =>
      exact foreign.elim
  | gotServiceReply base code status =>
      exact Spares.gotServiceReply returned
  | peerCall call =>
      exact Spares.peerCall returned
  | transportCall call =>
      exact Spares.transportCall returned
  | serverCall call =>
      refine Spares.serverCall returned attended.serves ?_
      rintro rfl
      exact foreign rfl

theorem Attended.step
    {env : Env} {earlier : List StreamPtr} {state next : ShellServer}
    (attended : Attended earlier state) {event : ShellServerEvent}
    (taken : ShellServerStep env state event next) :
    Attended earlier next ∧ next.srv = state.srv := by
  have returned : event.run env state = some next := taken
  cases event with
  | other call =>
      rw [ShellServerEvent.run, guard_bind_eq_some_iff] at returned
      obtain ⟨foreign, returned⟩ := returned
      rw [bind_eq_some_iff] at returned
      obtain ⟨host, called, returned⟩ := returned
      cases returned
      have linked : Linked host := attended.linked.step called
      have spares := foreign_spares attended foreign called
      exact ⟨attended.spares linked spares, rfl⟩
  | gotServiceRequest base code service protocol newUsers =>
      exact attended.gotServiceRequest returned

theorem Attended.run
    {env : Env} {earlier : List StreamPtr} {start final : ShellServer}
    (attended : Attended earlier start) {events : List ShellServerEvent}
    (run : ShellServerRun env start events final) :
    Attended earlier final ∧ final.srv = start.srv := by
  refine
    run.induct
      (fun _ state => Attended earlier state ∧ state.srv = start.srv)
      ⟨attended, rfl⟩ ?_
  rintro events reached event next _ ⟨stillAttended, sameServer⟩ taken
  obtain ⟨attendedNext, same⟩ := stillAttended.step taken
  exact ⟨attendedNext, same.trans sameServer⟩

/-- A `listen` that succeeds makes the server the one that listens. -/
theorem listen_serves
    {servers next : ServerHost} {srv : ServerPtr}
    {serviceName serviceDesc protocolName protocolDesc : Bytes}
    (returned :
      servers.listen srv serviceName serviceDesc protocolName
        protocolDesc = some (true, next)) :
    (∃ server, next.servers srv = some server ∧ server.active = true) ∧
      next.listenerFor (serviceName, protocolName) = some srv := by
  rw [ServerHost.listen, bind_eq_some_iff] at returned
  obtain ⟨server, _, returned⟩ := returned
  simp only [guard_bind_eq_some_iff] at returned
  obtain ⟨_, _, _, returned⟩ := returned
  split at returned
  · cases returned
  · next free =>
      cases returned
      refine ⟨⟨_, Function.update_self _ _ _, rfl⟩, ?_⟩
      rw [ServerHost.registerListener, if_neg free]
      exact List.lookup_cons_self

/-- A shell server as its constructor leaves it. -/
theorem Attended.construct
    {host : Host} (linked : Linked host) {srv : ServerPtr}
    {start : ShellServer}
    (constructed : ShellServer.construct host srv = some (true, start)) :
    Attended (itemsAt (.connections srv) host.arrived) start ∧
      start.srv = srv := by
  unfold ShellServer.construct at constructed
  rw [bind_eq_some_iff] at constructed
  obtain ⟨built, isBuilt, constructed⟩ := constructed
  rw [bind_eq_some_iff] at constructed
  obtain ⟨⟨listening, servers⟩, listened, constructed⟩ := constructed
  have isListening : listening = true := by
    cases listening with
    | true => rfl
    | false => cases constructed
  subst isListening
  cases constructed
  have stillLinked := linked.serverCall isBuilt
  obtain ⟨active, found⟩ := listen_serves listened
  unfold Host.serverCall at isBuilt
  rw [bind_eq_some_iff] at isBuilt
  obtain ⟨before, _, isBuilt⟩ := isBuilt
  cases isBuilt
  refine ⟨⟨?_, ⟨active, found⟩, if_pos rfl, [], ?_, rfl⟩, rfl⟩
  · exact
      ⟨stillLinked.paired, stillLinked.born, stillLinked.unowned,
        stillLinked.accepting, stillLinked.arrivedBorn,
        stillLinked.served⟩
  · exact (List.append_nil _).symm

theorem Attended.of_run
    {env : Env} {world : World} {calls : List HostCall} {host : Host}
    (before : HostRun env (Host.create world) calls host)
    {srv : ServerPtr} {start : ShellServer}
    (constructed : ShellServer.construct host srv = some (true, start))
    {events : List ShellServerEvent} {final : ShellServer}
    (run : ShellServerRun env start events final) :
    Attended (itemsAt (.connections srv) host.arrived) final ∧
      final.srv = srv := by
  obtain ⟨attended, isServer⟩ :=
    Attended.construct (Linked.of_run before) constructed
  obtain ⟨stillAttended, sameServer⟩ := attended.run run
  exact ⟨stillAttended, sameServer.trans isServer⟩

/-- In every run of a host with a shell server, no connection waits at the
server: each that arrived has one session, in the order of arrival, whose
stream it owns. -/
theorem one_session_on_each_connection
    {env : Env} {world : World} {calls : List HostCall} {host : Host}
    (before : HostRun env (Host.create world) calls host)
    {srv : ServerPtr} {start : ShellServer}
    (constructed : ShellServer.construct host srv = some (true, start))
    {events : List ShellServerEvent} {final : ShellServer}
    (run : ShellServerRun env start events final) :
    final.host.receivedConnections srv = [] ∧
      ∃ bases,
        itemsAt (.connections srv) final.host.arrived =
            itemsAt (.connections srv) host.arrived ++ bases ∧
          bases.Nodup ∧ final.sessions.Nodup ∧
          final.sessions.map final.host.baseOf = bases.map some ∧
          bases.map final.host.owner = final.sessions.map some := by
  obtain ⟨attended, isServer⟩ := Attended.of_run before constructed run
  subst isServer
  obtain ⟨bases, arrived, each⟩ := attended.each
  have allArrived := attended.linked.served.once
  have here :
      (itemsAt (.connections final.srv) final.host.arrived).Nodup :=
    (itemsAt_sublist _ _).nodup allArrived
  rw [arrived] at here
  have distinct : bases.Nodup := (List.nodup_append'.mp here).2.1
  have ownSessions : (final.sessions.map final.host.baseOf).Nodup := by
    rw [each]
    exact distinct.map (Option.some_injective _)
  exact
    ⟨attended.drained, bases, arrived, distinct, ownSessions.of_map _, each,
      attended.linked.paired.map_back each⟩

/-- A connection asks for the shell, the rest of the program looks at the
queue of another server, and a second connection is about to ask. -/
def shellServerEvents : List ShellServerEvent :=
  [.other (.peerCall (.construct 0 0 [1])),
    .other (.peerCall (.rxSubstream 0 1 0 1 Stream.Slot.first ⟨1, [2]⟩ 1)),
    .gotServiceRequest 1 Service.connectRequest serviceName protocolName
      [5],
    .other (.serverCall (.construct 3)), .other (.accept 3 6),
    .other (.peerCall (.rxSubstream 0 2 0 2 Stream.Slot.first ⟨2, [2]⟩ 2))]

def afterShellServerEvents : Option ShellServer := do
  let (listening, start) ←
    ShellServer.construct (Host.create (World.create [1] [2])) 7
  guard (listening = true)
  shellServerEvents.foldlM
    (fun state event => event.run (Env.constant true) state) start

theorem one_session_on_each_connection_of_one :
    ∃ start final,
      ShellServer.construct (Host.create (World.create [1] [2])) 7 =
          some (true, start) ∧
        ShellServerRun (Env.constant true) start shellServerEvents final ∧
          final.host.receivedConnections 7 = [] ∧
            ∃ bases,
              itemsAt (.connections 7) final.host.arrived = bases ∧
                bases.Nodup ∧ final.sessions.Nodup ∧
                final.sessions.map final.host.baseOf = bases.map some ∧
                bases.map final.host.owner = final.sessions.map some := by
  have returns : (afterShellServerEvents).isSome := by
    decide +kernel
  obtain ⟨final, returned⟩ := Option.isSome_iff_exists.mp returns
  rw [afterShellServerEvents, bind_eq_some_iff] at returned
  obtain ⟨⟨listening, start⟩, constructed, ran⟩ := returned
  rw [guard_bind_eq_some_iff] at ran
  obtain ⟨isListening, ran⟩ := ran
  subst isListening
  have run :
      ShellServerRun (Env.constant true) start shellServerEvents final :=
    Run.of_foldlM (fun _ _ _ taken => taken) ran
  exact
    ⟨start, final, constructed, run,
      one_session_on_each_connection Run.refl constructed run⟩

/-- A stream that waits for a request gets one for the shell. -/
theorem shell_request_returns
    {host : Host} {srv : ServerPtr} (serves : ServesShell host srv)
    {base : StreamPtr} {link : PeerStream}
    (isLinked : host.peers.links base = some link)
    (accepting : link.state = .accepting) :
    ∃ next,
      host.gotServiceRequest base Service.connectRequest serviceName
        protocolName = some next := by
  obtain ⟨server, isServer, _⟩ := serves.active
  rw [← Option.isSome_iff_exists, Host.gotServiceRequest, isLinked,
    Option.bind_eq_bind, Option.bind_some, guard_bind_of_holds accepting,
    if_neg (not_not_intro rfl), serves.found]
  dsimp only
  rw [guard_bind_of_holds (Option.isSome_of_eq_some isServer)]
  rfl

/-- One connection that waits is all that the handler accepts. -/
theorem gotConnection_of_single
    {host : Host} (linked : Linked host) {srv : ServerPtr}
    {base : StreamPtr}
    (active : (host.servers.servers srv).isSome)
    (single : host.receivedConnections srv = [base])
    {newUser : UserPtr} (free : host.users newUser = none) :
    ∃ next,
      gotConnection host srv [newUser] = some ([newUser], next) ∧
        TookConnection srv newUser base [] host next := by
  have waits : base ∈ host.waiting (.connections srv) := by
    dsimp only [Host.waiting]
    rw [single]
    exact List.mem_cons_self
  have unowned := linked.unowned _ base waits
  have returns : (host.accept srv newUser).isSome := by
    unfold Host.accept
    rw [guard_bind_of_holds active, single]
    exact newUser_isSome (createUser_isSome free unowned)
  obtain ⟨⟨result, next⟩, isAccepted⟩ :=
    Option.isSome_iff_exists.mp returns
  obtain ⟨isUser, took⟩ := accept_of_cons single isAccepted
  subst result
  have empty : next.receivedConnections srv = [] := by
    rw [took.queues, Function.update_self]
  refine ⟨next, ?_, took⟩
  rw [gotConnection, isAccepted, Option.bind_eq_bind, Option.bind_some]
  dsimp only
  rw [gotConnection, if_pos empty]
  rfl

/-- In every run, a request for the shell that a stream reads while it waits
for one is met: whatever else the program did, a session starts on it. -/
theorem shell_request_starts_session
    {env : Env} {world : World} {calls : List HostCall} {host : Host}
    (before : HostRun env (Host.create world) calls host)
    {srv : ServerPtr} {start : ShellServer}
    (constructed : ShellServer.construct host srv = some (true, start))
    {events : List ShellServerEvent} {final : ShellServer}
    (run : ShellServerRun env start events final)
    {base : StreamPtr} {link : PeerStream}
    (isLinked : final.host.peers.links base = some link)
    (accepting : link.state = .accepting)
    {newUser : UserPtr} (free : final.host.users newUser = none) :
    ∃ next,
      ShellServerStep env final
          (.gotServiceRequest base Service.connectRequest serviceName
            protocolName [newUser])
          next ∧
        next.sessions = final.sessions ++ [newUser] ∧
        next.host.baseOf newUser = some base ∧
        next.host.peers.links base =
          some { link with state := .connected } := by
  obtain ⟨attended, isServer⟩ := Attended.of_run before constructed run
  obtain ⟨requested, gotRequest⟩ :=
    shell_request_returns attended.serves isLinked accepting
  have here :
      final.host.newConnection Service.connectRequest serviceName
        protocolName = some final.srv := by
    rw [Host.newConnection, if_neg (not_not_intro rfl)]
    exact attended.serves.found
  have entered := request_enters gotRequest here
  have linked := attended.linked.gotServiceRequest gotRequest
  have single : requested.receivedConnections final.srv = [base] := by
    rw [entered.queue, attended.drained]
    rfl
  have active : (requested.servers.servers final.srv).isSome := by
    obtain ⟨server, isActive, _⟩ := attended.serves.active
    rw [entered.servers, isActive]
    rfl
  have stillFree : requested.users newUser = none := by
    rw [entered.users]
    exact free
  obtain ⟨next, handled, took⟩ :=
    gotConnection_of_single linked active single stillFree
  refine
    ⟨{ final with host := next, sessions := final.sessions ++ [newUser] },
      ?_, rfl, took.base, ?_⟩
  · rw [ShellServerStep, ShellServerEvent.run,
      ShellServer.gotServiceRequest, gotRequest, Option.bind_eq_bind,
      Option.bind_some, if_pos here, handled]
    rfl
  · dsimp only
    rw [took.peers]
    exact entered.connected link isLinked

def secondIsAccepting (state : ShellServer) : Bool :=
  decide
    ((state.host.peers.links 2).map PeerStream.state = some .accepting ∧
      (state.host.users 6).isNone = true)

theorem shell_request_starts_session_on_second :
    ∃ (start final next : ShellServer) (link : PeerStream),
      ShellServer.construct (Host.create (World.create [1] [2])) 7 =
          some (true, start) ∧
        ShellServerRun (Env.constant true) start shellServerEvents final ∧
          ShellServerStep (Env.constant true) final
              (.gotServiceRequest 2 Service.connectRequest serviceName
                protocolName [6])
              next ∧
            next.sessions = final.sessions ++ [6] ∧
            next.host.baseOf 6 = some 2 ∧
            next.host.peers.links 2 =
              some { link with state := .connected } := by
  have returns :
      (afterShellServerEvents.filter secondIsAccepting).isSome := by
    decide +kernel
  obtain ⟨final, returned⟩ := Option.isSome_iff_exists.mp returns
  rw [Option.filter_eq_some_iff] at returned
  obtain ⟨returned, isAccepting⟩ := returned
  rw [afterShellServerEvents, bind_eq_some_iff] at returned
  obtain ⟨⟨listening, start⟩, constructed, ran⟩ := returned
  rw [guard_bind_eq_some_iff] at ran
  obtain ⟨isListening, ran⟩ := ran
  subst isListening
  obtain ⟨waits, free⟩ := of_decide_eq_true isAccepting
  obtain ⟨link, isLinked, accepting⟩ := Option.map_eq_some_iff.mp waits
  have run :
      ShellServerRun (Env.constant true) start shellServerEvents final :=
    Run.of_foldlM (fun _ _ _ taken => taken) ran
  obtain ⟨next, handled⟩ :=
    shell_request_starts_session Run.refl constructed run isLinked accepting
      (Option.isNone_iff_eq_none.mp free)
  exact ⟨start, final, next, link, constructed, run, handled⟩

end ShellServer

end StructuredStreams.Application
