import StructuredStreams.Application.Host

/-!
# What a call of the application that returned has done

One lemma for each call of a host: the assertions it has passed, and the host
it led to.
-/

namespace StructuredStreams.Application

open ByteCodec
open Service (ServerPtr ServerCall)
open Service.ServiceStream (ShutdownMode)
open StructuredStreams.Stream (StreamPtr ChannelPtr PacketSeq LocalStreamId
  UniqueStreamId Slot ListenMode PeerStream PeerWorld PeerCall World Call
  Env)

namespace Host

variable {host next : Host}

theorem constructUser_eq_some
    {user : UserPtr} (returned : host.constructUser user = some next) :
    host.users user = none ∧
      next = host.setUser user (some ⟨none, []⟩) := by
  simp only [constructUser, guard_bind_eq_some_iff] at returned
  rcases returned with ⟨free, returned⟩
  cases returned
  exact ⟨Option.isNone_iff_eq_none.mp free, rfl⟩

theorem createUser_eq_some
    {base : StreamPtr} {newUser : UserPtr}
    (returned : host.createUser base newUser = some next) :
    host.users newUser = none ∧ host.lockOwner base = none ∧
      next =
        (host.setUser newUser (some ⟨some base, []⟩)).setOwner base
          (some newUser) := by
  simp only [createUser, guard_bind_eq_some_iff] at returned
  rcases returned with ⟨free, unowned, returned⟩
  cases returned
  exact
    ⟨Option.isNone_iff_eq_none.mp free,
      Option.isNone_iff_eq_none.mp unowned, rfl⟩

theorem disconnect_eq_some
    {user : UserPtr} (returned : host.disconnect user = some next) :
    host.baseOf user = none ∧ next = host ∨
      ∃ base entry,
        host.baseOf user = some base ∧ entry.stream = none ∧
          next =
            ((host.setOwner base none).modifyLink base
              (shutdownLink .close)).setUser user (some entry) := by
  simp only [disconnect, bind_eq_some_iff] at returned
  rcases returned with ⟨entry, alive, returned⟩
  have isBase : host.baseOf user = entry.stream := by
    rw [baseOf, alive, Option.bind_some]
  cases points : entry.stream with
  | none =>
      rw [points] at returned
      cases returned
      exact Or.inl ⟨isBase.trans points, rfl⟩
  | some base =>
      rw [points] at returned
      cases returned
      refine
        Or.inr
          ⟨base, { entry with stream := none }, isBase.trans points, rfl,
            rfl⟩

theorem destroyUser_eq_some
    {user : UserPtr} (returned : host.destroyUser user = some next) :
    ∃ apart,
      host.disconnect user = some apart ∧ apart.baseOf user = none ∧
        next = apart.setUser user none := by
  simp only [destroyUser, bind_eq_some_iff, Option.guard_eq_some',
    exists_const] at returned
  rcases returned with ⟨apart, disconnected, noBase, returned⟩
  cases returned
  exact ⟨apart, disconnected, noBase, rfl⟩

theorem shutdown_eq_some
    {user : UserPtr} {mode : ShutdownMode}
    (returned : host.shutdown user mode = some next) :
    next = host ∨
      ∃ base, next = host.modifyLink base (shutdownLink mode) := by
  simp only [shutdown, bind_eq_some_iff] at returned
  rcases returned with ⟨entry, _, returned⟩
  cases points : entry.stream with
  | none =>
      rw [points] at returned
      cases returned
      exact Or.inl rfl
  | some base =>
      rw [points] at returned
      cases returned
      exact Or.inr ⟨base, rfl⟩

/-- Only a stream that was just created requests a service. -/
theorem connectBase_eq_some
    {base : StreamPtr} {service : Bytes}
    (returned : host.connectBase base service = some next) :
    ∃ link world,
      host.peers.links base = some link ∧ link.state = .created ∧
        next =
          { host with
            peers := { host.peers with world := world } }.modifyLink base
              fun link => { link with state := .waitService } := by
  simp only [connectBase, bind_eq_some_iff, Option.guard_eq_some',
    exists_const] at returned
  rcases returned with ⟨_, link, isLinked, isCreated, _, returned⟩
  cases returned
  exact ⟨link, _, isLinked, isCreated, rfl⟩

theorem connectTo_eq_some
    {env : Env} {user : UserPtr} {destination service : Bytes}
    {base : StreamPtr}
    (returned :
      host.connectTo env user destination service base = some next) :
    ∃ apart peers entry,
      host.disconnect user = some apart ∧
        apart.peers.createStream env base destination none = some peers ∧
        entry.stream = some base ∧
        (({ apart with peers := peers }.setOwner base (some user)).setUser
          user (some entry)).connectBase base service = some next := by
  simp only [connectTo, bind_eq_some_iff, Option.guard_eq_some',
    exists_const] at returned
  rcases returned with
    ⟨_, apart, disconnected, entry, _, peers, isCreated, returned⟩
  exact
    ⟨apart, peers, { entry with stream := some base }, disconnected,
      isCreated, rfl, returned⟩

theorem listen_eq_some
    {user : UserPtr} {mode : ListenMode}
    (returned : host.listen user mode = some next) :
    next = host.setError user notConnected ∨
      ∃ base,
        next =
          host.modifyLink base fun link =>
            { link with listenMode := mode } := by
  simp only [listen, bind_eq_some_iff] at returned
  rcases returned with ⟨entry, _, returned⟩
  cases points : entry.stream with
  | none =>
      rw [points] at returned
      cases returned
      exact Or.inl rfl
  | some base =>
      rw [points] at returned
      cases returned
      exact Or.inr ⟨base, rfl⟩

theorem openSubstream_eq_some
    {env : Env} {user newUser : UserPtr} {newStream : StreamPtr}
    {result : Option UserPtr}
    (returned :
      host.openSubstream env user newStream newUser =
        some (result, next)) :
    next = host.setError user notConnected ∨
      ∃ identity parent peers,
        host.peers.createStream env newStream identity (some parent) =
            some peers ∧
          ({ host with peers := peers }.modifyLink newStream fun link =>
            { link with state := .connected }).createUser newStream
              newUser = some next := by
  simp only [openSubstream, bind_eq_some_iff] at returned
  rcases returned with ⟨entry, _, returned⟩
  cases points : entry.stream with
  | none =>
      rw [points] at returned
      cases returned
      exact Or.inl rfl
  | some base =>
      simp only [points, bind_eq_some_iff] at returned
      rcases returned with
        ⟨link, _, peers, isCreated, final, isUser, returned⟩
      cases returned
      exact Or.inr ⟨_, base, peers, isCreated, isUser⟩

private theorem links_of_receivedSubstreams
    {peers : PeerWorld} {parent newStream : StreamPtr}
    {rest : List StreamPtr}
    (front : receivedSubstreams peers parent = newStream :: rest) :
    ∃ link,
      peers.links parent = some link ∧
        link.receivedSubstreams = newStream :: rest := by
  unfold receivedSubstreams at front
  cases isLinked : peers.links parent with
  | none =>
      rw [isLinked] at front
      cases front
  | some link =>
      rw [isLinked] at front
      exact ⟨link, rfl, front⟩

theorem acceptSubstream_eq_some
    {user newUser : UserPtr} {result : Option UserPtr}
    (returned :
      host.acceptSubstream user newUser = some (result, next)) :
    (∃ error, next = host.setError user error) ∨
      ∃ base link newStream rest,
        host.peers.links base = some link ∧
          link.receivedSubstreams = newStream :: rest ∧
          { host.modifyLink base fun link =>
              { link with receivedSubstreams := rest } with
            accepted :=
              host.accepted ++
                [(Inbox.substreams base, newStream)] }.createUser newStream
              newUser = some next := by
  simp only [acceptSubstream, bind_eq_some_iff] at returned
  rcases returned with ⟨entry, _, returned⟩
  cases points : entry.stream with
  | none =>
      rw [points] at returned
      cases returned
      exact Or.inl ⟨_, rfl⟩
  | some base =>
      rw [points] at returned
      dsimp only at returned
      cases front : receivedSubstreams host.peers base with
      | nil =>
          rw [front] at returned
          cases returned
          exact Or.inl ⟨_, rfl⟩
      | cons newStream rest =>
          simp only [front, bind_eq_some_iff] at returned
          rcases returned with ⟨final, isUser, returned⟩
          cases returned
          rcases links_of_receivedSubstreams front with
            ⟨link, isLinked, isFront⟩
          exact
            Or.inr
              ⟨base, link, newStream, rest, isLinked, isFront, isUser⟩

/-- Null is returned where nothing waits, the front of the queue in a new
stream object otherwise. -/
theorem accept_eq_some
    {server : ServerPtr} {newUser : UserPtr} {result : Option UserPtr}
    (returned : host.accept server newUser = some (result, next)) :
    host.receivedConnections server = [] ∧ result = none ∧ next = host ∨
      ∃ newStream rest,
        host.receivedConnections server = newStream :: rest ∧
          result = some newUser ∧
          { host with
            receivedConnections :=
              Function.update host.receivedConnections server rest
            accepted :=
              host.accepted ++
                [(Inbox.connections server, newStream)] }.createUser newStream
              newUser = some next := by
  simp only [accept, guard_bind_eq_some_iff] at returned
  rcases returned with ⟨_, returned⟩
  cases front : host.receivedConnections server with
  | nil =>
      rw [front] at returned
      cases returned
      exact Or.inl ⟨rfl, rfl, rfl⟩
  | cons newStream rest =>
      simp only [front, bind_eq_some_iff] at returned
      rcases returned with ⟨final, isUser, returned⟩
      cases returned
      exact Or.inr ⟨newStream, rest, rfl, rfl, isUser⟩

/-- The packet was refused, or the stream waits for a request, or it waits
to be accepted. -/
theorem rxSubstream_eq_some
    {env : Env} {parent newStream : StreamPtr} {pktseq : PacketSeq}
    {channel : ChannelPtr} {sid : LocalStreamId} {slot : Slot}
    {usid : UniqueStreamId}
    (returned :
      host.rxSubstream env parent pktseq channel sid slot usid newStream =
        some next) :
    ∃ result peers,
      host.peers.rxSubstream env parent pktseq channel sid slot usid
          newStream = some (result, peers) ∧
        ((result = none ∨
              (peers.world.channels channel).root = some parent) ∧
            next = { host with peers := peers } ∨
          ¬ (result = none ∨
              (peers.world.channels channel).root = some parent) ∧
            next =
              { host with
                peers := peers
                arrived :=
                  host.arrived ++ [(.substreams parent, newStream)] }) := by
  simp only [rxSubstream, bind_eq_some_iff] at returned
  rcases returned with ⟨⟨result, peers⟩, received, returned⟩
  refine ⟨result, peers, received, ?_⟩
  dsimp only at returned
  split at returned
  · next stays =>
      cases returned
      exact Or.inl ⟨stays, rfl⟩
  · next waits =>
      cases returned
      exact Or.inr ⟨waits, rfl⟩

/-- A stream that waited for a request was disconnected, or is connected and
waits at the server that listens for the service. -/
theorem gotServiceRequest_eq_some
    {base : StreamPtr} {code : BitVec 32} {service protocol : Bytes}
    (returned :
      host.gotServiceRequest base code service protocol = some next) :
    ∃ link,
      host.peers.links base = some link ∧ link.state = .accepting ∧
        ((code ≠ Service.connectRequest ∨
              host.servers.listenerFor (service, protocol) = none) ∧
            next = host.modifyLink base PeerStream.disconnect ∨
          ∃ server,
            code = Service.connectRequest ∧
              host.servers.listenerFor (service, protocol) =
                some server ∧
              next =
                { host.modifyLink base fun link =>
                    { link with state := .connected } with
                  receivedConnections :=
                    Function.update host.receivedConnections server
                      (host.receivedConnections server ++ [base])
                  arrived :=
                    host.arrived ++ [(.connections server, base)] }) := by
  simp only [gotServiceRequest, bind_eq_some_iff, Option.guard_eq_some',
    exists_const] at returned
  rcases returned with ⟨link, isLinked, accepting, returned⟩
  refine ⟨link, isLinked, accepting, ?_⟩
  split at returned
  · next other =>
      cases returned
      exact Or.inl ⟨Or.inl other, rfl⟩
  · next isRequest =>
      cases found : host.servers.listenerFor (service, protocol) with
      | none =>
          rw [found] at returned
          cases returned
          exact Or.inl ⟨Or.inr rfl, rfl⟩
      | some server =>
          simp only [found, guard_bind_eq_some_iff] at returned
          rcases returned with ⟨_, returned⟩
          cases returned
          exact Or.inr ⟨server, not_not.mp isRequest, rfl, rfl⟩

theorem gotServiceReply_eq_some
    {base : StreamPtr} {code status : BitVec 32}
    (returned : host.gotServiceReply base code status = some next) :
    ∃ link,
      host.peers.links base = some link ∧ link.state = .waitService ∧
        (next = host.modifyLink base PeerStream.disconnect ∨
          next =
            host.modifyLink base fun link =>
              { link with state := .connected }) := by
  simp only [gotServiceReply, bind_eq_some_iff, Option.guard_eq_some',
    exists_const] at returned
  rcases returned with ⟨link, isLinked, waits, _, returned⟩
  refine ⟨link, isLinked, waits, ?_⟩
  split at returned
  · cases returned
    exact Or.inl rfl
  · cases returned
    exact Or.inr rfl

theorem peerCall_eq_some
    {env : Env} {call : PeerCall}
    (returned : host.peerCall env call = some next) :
    (∃ parent pktseq channel sid slot usid newStream,
        call =
            .rxSubstream parent pktseq channel sid slot usid newStream ∧
          host.rxSubstream env parent pktseq channel sid slot usid
              newStream = some next) ∨
      ∃ peers,
        (∀ parent pktseq channel sid slot usid newStream,
          call ≠
            .rxSubstream parent pktseq channel sid slot usid newStream) ∧
          call.run env host.peers = some peers ∧
          next = { host with peers := peers } := by
  unfold peerCall at returned
  split at returned
  · exact Or.inl ⟨_, _, _, _, _, _, _, rfl, returned⟩
  · next other =>
      rw [bind_eq_some_iff] at returned
      rcases returned with ⟨peers, called, returned⟩
      cases returned
      exact Or.inr ⟨peers, other, called, rfl⟩

theorem transportCall_eq_some
    {env : Env} {call : Call}
    (returned : host.transportCall env call = some next) :
    ∃ world,
      next = { host with peers := { host.peers with world := world } } := by
  simp only [transportCall, bind_eq_some_iff] at returned
  rcases returned with ⟨world, _, returned⟩
  cases returned
  exact ⟨world, rfl⟩

theorem serverCall_eq_some
    {call : ServerCall} (returned : host.serverCall call = some next) :
    ∃ servers,
      call.apply host.servers = some servers ∧
        next =
          { host with
            servers := servers
            receivedConnections := fun server =>
              host.connectionsAfter server call } := by
  simp only [serverCall, bind_eq_some_iff] at returned
  rcases returned with ⟨servers, applied, returned⟩
  cases returned
  exact ⟨servers, applied, rfl⟩

end Host

end StructuredStreams.Application
