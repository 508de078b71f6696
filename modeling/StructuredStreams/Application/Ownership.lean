import StructuredStreams.Application.Aging
import StructuredStreams.Foundation.BackLinks

/-!
# Who owns a base stream

The link between a stream object and its base stream is mutual throughout a
run: both `connect_to` and `stream::create` set it on both sides, and
`disconnect` takes it back on both.  A base stream that waits to be accepted
has no owner, so that the assertion of `stream::create` holds, and it waits
in one queue, which it entered once.
-/

namespace StructuredStreams.Application

open StructuredStreams.Stream (StreamPtr ChannelPtr PacketSeq LocalStreamId
  UniqueStreamId Slot PeerStream PeerWorld PeerCall World Call Env)
open Host (receivedSubstreams)

/-- Links are mutual, only streams that exist are owned, streams that wait
have no owner, and a stream that waits for a service request neither has an
owner nor has entered a queue.  The queues are served in order. -/
structure Linked (host : Host) : Prop where
  paired : Paired host.baseOf host.owner
  born :
    ∀ base user,
      host.owner base = some user → (host.peers.links base).isSome
  unowned :
    ∀ inbox base, base ∈ host.waiting inbox → host.owner base = none
  accepting :
    ∀ base link,
      host.peers.links base = some link → link.state = .accepting →
        host.owner base = none ∧ base ∉ host.arrived.map Prod.snd
  arrivedBorn :
    ∀ base ∈ host.arrived.map Prod.snd, (host.peers.links base).isSome
  served : ServedInOrder host.arrived host.accepted host.waiting

namespace Linked

theorem create (world : World) : Linked (Host.create world) where
  paired := Paired.of_empty (fun _ => rfl) fun _ => rfl
  born := by
    intro base user owned
    cases owned
  unowned := fun _ _ _ => rfl
  accepting := by
    intro base link linked
    cases linked
  arrivedBorn := by
    intro base member
    cases member
  served := by
    refine ServedInOrder.of_empty fun inbox => ?_
    cases inbox <;> rfl

/-- A stream that does not exist yet has no owner and has entered no
queue. -/
theorem unborn
    {host : Host} (linked : Linked host) {base : StreamPtr}
    (unborn : host.peers.links base = none) :
    host.owner base = none ∧ base ∉ host.arrived.map Prod.snd := by
  constructor
  · rw [Option.eq_none_iff_forall_ne_some]
    intro user owned
    have isBorn := linked.born base user owned
    rw [unborn] at isBorn
    cases isBorn
  · intro member
    have isBorn := linked.arrivedBorn base member
    rw [unborn] at isBorn
    cases isBorn

/-- What has entered no queue waits in none. -/
theorem not_waiting
    {host : Host} (linked : Linked host) {base : StreamPtr}
    (new : base ∉ host.arrived.map Prod.snd) (inbox : Inbox) :
    base ∉ host.waiting inbox := by
  intro waits
  have arrived := linked.served.arrived_of_waiting waits
  exact new (List.mem_map.mpr ⟨_, arrived, rfl⟩)

/-- The owners that exist are the owners. -/
theorem lockOwner
    {host : Host} (linked : Linked host) (base : StreamPtr) :
    host.lockOwner base = host.owner base := by
  rw [Host.lockOwner]
  cases owned : host.owner base with
  | none =>
      rfl
  | some user =>
      have backLink := (linked.paired user base).mpr owned
      rw [Host.baseOf, Option.bind_eq_some_iff] at backLink
      obtain ⟨entry, alive, _⟩ := backLink
      rw [Option.filter_some, alive]
      rfl

/-! ## What keeps the links -/

theorem ages
    {host : Host} (linked : Linked host) {peers : PeerWorld}
    (ages : Ages host.peers peers) :
    Linked { host with peers := peers } where
  paired := linked.paired
  born := fun base user owned =>
    ages.born base (linked.born base user owned)
  unowned := by
    intro inbox base waits
    cases inbox with
    | substreams parent =>
        exact
          linked.unowned (.substreams parent) base
            ((ages.waiting parent).subset waits)
    | connections server =>
        exact linked.unowned (.connections server) base waits
  accepting := by
    intro base link isLinked accepting
    obtain ⟨before, isLinked, accepting⟩ :=
      ages.accepting base link isLinked accepting
    exact linked.accepting base before isLinked accepting
  arrivedBorn := fun base member =>
    ages.born base (linked.arrivedBorn base member)
  served := by
    refine linked.served.drop fun inbox => ?_
    cases inbox with
    | substreams parent =>
        exact ages.waiting parent
    | connections server =>
        exact List.Sublist.refl _

theorem setUser_baseOf
    (host : Host) (user : UserPtr) (entry : Option UserStream) :
    (host.setUser user entry).baseOf =
      Function.update host.baseOf user (entry.bind UserStream.stream) := by
  funext other
  dsimp only [Host.baseOf, Host.setUser]
  rw [Function.apply_update (fun _ entry =>
    Option.bind entry UserStream.stream)]
  rfl

/-- A stream object changes, but not its base stream. -/
theorem sameBase
    {host : Host} (linked : Linked host) {user : UserPtr}
    {entry : Option UserStream}
    (same : entry.bind UserStream.stream = host.baseOf user) :
    Linked (host.setUser user entry) where
  paired := by
    rw [setUser_baseOf, same, Function.update_eq_self]
    exact linked.paired
  born := linked.born
  unowned := linked.unowned
  accepting := linked.accepting
  arrivedBorn := linked.arrivedBorn
  served := linked.served

/-- A stream object gets a base stream that nobody owns or waits to
accept. -/
theorem link
    {host : Host} (linked : Linked host) {user : UserPtr}
    {base : StreamPtr} {entry : UserStream}
    (free : host.baseOf user = none) (points : entry.stream = some base)
    (unowned : host.owner base = none)
    (born : (host.peers.links base).isSome)
    (settled :
      ∀ link, host.peers.links base = some link → link.state ≠ .accepting)
    (nowhere : ∀ inbox, base ∉ host.waiting inbox) :
    Linked ((host.setOwner base (some user)).setUser user (some entry))
    where
  paired := by
    have baseOf := setUser_baseOf (host.setOwner base (some user)) user
      (some entry)
    rw [baseOf, Option.bind_some, points]
    exact linked.paired.link free unowned
  born := by
    intro other owner owned
    by_cases same : other = base
    · rw [same]
      exact born
    · dsimp only [Host.setUser, Host.setOwner] at owned
      rw [Function.update_of_ne same] at owned
      exact linked.born other owner owned
  unowned := by
    intro inbox other waits
    have different : other ≠ base := by
      intro same
      rw [same] at waits
      exact nowhere inbox waits
    dsimp only [Host.setUser, Host.setOwner]
    rw [Function.update_of_ne different]
    exact linked.unowned inbox other waits
  accepting := by
    intro other otherLink isLinked accepting
    have different : other ≠ base := by
      intro same
      rw [same] at isLinked
      exact settled otherLink isLinked accepting
    dsimp only [Host.setUser, Host.setOwner]
    rw [Function.update_of_ne different]
    exact linked.accepting other otherLink isLinked accepting
  arrivedBorn := linked.arrivedBorn
  served := linked.served

/-- A stream object and its base stream are taken apart. -/
theorem unlink
    {host : Host} (linked : Linked host) {user : UserPtr}
    {base : StreamPtr} {entry : Option UserStream}
    (points : host.baseOf user = some base)
    (empty : entry.bind UserStream.stream = none) :
    Linked ((host.setOwner base none).setUser user entry) := by
  have fewer :
      ∀ other owner,
        Function.update host.owner base none other = some owner →
          host.owner other = some owner := by
    intro other owner owned
    by_cases same : other = base
    · rw [same, Function.update_self] at owned
      cases owned
    · rw [Function.update_of_ne same] at owned
      exact owned
  have stays :
      ∀ other,
        host.owner other = none →
          Function.update host.owner base none other = none := by
    intro other free
    rw [Option.eq_none_iff_forall_ne_some] at free ⊢
    intro owner owned
    exact free owner (fewer other owner owned)
  refine ⟨?_, ?_, ?_, ?_, linked.arrivedBorn, linked.served⟩
  · have baseOf := setUser_baseOf (host.setOwner base none) user entry
    rw [baseOf, empty]
    exact linked.paired.unlink points
  · exact fun other owner owned =>
      linked.born other owner (fewer other owner owned)
  · exact fun inbox other waits =>
      stays other (linked.unowned inbox other waits)
  · intro other otherLink isLinked accepting
    obtain ⟨free, new⟩ :=
      linked.accepting other otherLink isLinked accepting
    exact ⟨stays other free, new⟩

/-- A stream that never waited before joins a queue. -/
theorem arrive
    {host next : Host} (linked : Linked host) {inbox : Inbox}
    {base : StreamPtr} (unowned : host.owner base = none)
    (new : base ∉ host.arrived.map Prod.snd)
    (born : (next.peers.links base).isSome)
    (settled :
      ∀ link, next.peers.links base = some link → link.state ≠ .accepting)
    (keeps : Keeps host.peers next.peers)
    (owner : next.owner = host.owner) (users : next.users = host.users)
    (arrived : next.arrived = host.arrived ++ [(inbox, base)])
    (accepted : next.accepted = host.accepted)
    (waits :
      next.waiting =
        Function.update host.waiting inbox
          (host.waiting inbox ++ [base])) :
    Linked next where
  paired := by
    have baseOf : next.baseOf = host.baseOf := by
      funext user
      rw [Host.baseOf, users]
      rfl
    rw [baseOf, owner]
    exact linked.paired
  born := by
    intro other user owned
    rw [owner] at owned
    exact keeps.born other (linked.born other user owned)
  unowned := by
    intro other otherBase waiting
    rw [waits] at waiting
    rw [owner]
    by_cases same : other = inbox
    · rw [same, Function.update_self] at waiting
      rcases List.mem_append.mp waiting with earlier | now
      · exact linked.unowned inbox otherBase earlier
      · rw [List.mem_singleton.mp now]
        exact unowned
    · rw [Function.update_of_ne same] at waiting
      exact linked.unowned other otherBase waiting
  accepting := by
    intro other link isLinked accepting
    obtain ⟨before, wasLinked, wasAccepting⟩ :=
      keeps.accepting other link isLinked accepting
    obtain ⟨free, notArrived⟩ :=
      linked.accepting other before wasLinked wasAccepting
    rw [owner, arrived, List.map_append, List.mem_append]
    refine ⟨free, not_or.mpr ⟨notArrived, ?_⟩⟩
    intro now
    rw [List.mem_singleton.mp now] at isLinked
    exact settled link isLinked accepting
  arrivedBorn := by
    intro other member
    rw [arrived, List.map_append, List.mem_append] at member
    rcases member with earlier | now
    · exact keeps.born other (linked.arrivedBorn other earlier)
    · rw [List.mem_singleton.mp now]
      exact born
  served := by
    rw [arrived, accepted, waits]
    exact linked.served.arrive new

/-- The front of a queue is taken out, and waits nowhere then. -/
theorem take
    {host next : Host} (linked : Linked host) {inbox : Inbox}
    {base : StreamPtr} {rest : List StreamPtr}
    (front : host.waiting inbox = base :: rest)
    (ages : Ages host.peers next.peers)
    (owner : next.owner = host.owner) (users : next.users = host.users)
    (arrived : next.arrived = host.arrived)
    (accepted : next.accepted = host.accepted ++ [(inbox, base)])
    (waits : next.waiting = Function.update host.waiting inbox rest) :
    Linked next ∧ ∀ other, base ∉ next.waiting other := by
  have served :
      ServedInOrder next.arrived next.accepted next.waiting := by
    rw [arrived, accepted, waits]
    exact linked.served.take front
  have shorter :
      ∀ other otherBase,
        otherBase ∈ next.waiting other →
          otherBase ∈ host.waiting other := by
    intro other otherBase waiting
    rw [waits] at waiting
    by_cases same : other = inbox
    · rw [same, Function.update_self] at waiting
      rw [same, front]
      exact List.mem_cons_of_mem base waiting
    · rw [Function.update_of_ne same] at waiting
      exact waiting
  have taken : (inbox, base) ∈ next.accepted := by
    rw [accepted]
    exact List.mem_append_right _ List.mem_cons_self
  refine ⟨⟨?_, ?_, ?_, ?_, ?_, served⟩, served.not_waiting_of_taken taken⟩
  · have baseOf : next.baseOf = host.baseOf := by
      funext user
      rw [Host.baseOf, users]
      rfl
    rw [baseOf, owner]
    exact linked.paired
  · intro other user owned
    rw [owner] at owned
    exact ages.born other (linked.born other user owned)
  · intro other otherBase waiting
    rw [owner]
    exact linked.unowned other otherBase (shorter other otherBase waiting)
  · intro other link isLinked accepting
    obtain ⟨before, wasLinked, wasAccepting⟩ :=
      ages.accepting other link isLinked accepting
    rw [owner, arrived]
    exact linked.accepting other before wasLinked wasAccepting
  · intro other member
    rw [arrived] at member
    exact ages.born other (linked.arrivedBorn other member)

end Linked

/-! ## What the calls do -/

theorem waiting_modifyLink
    (host : Host) {base : StreamPtr} {link : PeerStream}
    (isLinked : host.peers.links base = some link)
    (change : PeerStream → PeerStream) :
    (host.modifyLink base change).waiting =
      Function.update host.waiting (.substreams base)
        (change link).receivedSubstreams := by
  funext inbox
  cases inbox with
  | substreams parent =>
      dsimp only [Host.waiting, receivedSubstreams, Host.modifyLink,
        PeerWorld.modifyLink]
      by_cases same : parent = base
      · subst parent
        rw [Function.update_self, Function.update_self, isLinked]
        rfl
      · have different : Inbox.substreams parent ≠ .substreams base :=
          fun equal => same (Inbox.substreams.inj equal)
        rw [Function.update_of_ne same, Function.update_of_ne different]
        rfl
  | connections server =>
      have different :
          Inbox.connections server ≠ .substreams base :=
        nofun
      rw [Function.update_of_ne different]
      rfl

/-- A change that leaves the queue of a stream alone leaves all queues
alone. -/
theorem waiting_setState
    (host : Host) (base : StreamPtr) {change : PeerStream → PeerStream}
    (same :
      ∀ link,
        (change link).receivedSubstreams = link.receivedSubstreams) :
    (host.modifyLink base change).waiting = host.waiting := by
  cases isLinked : host.peers.links base with
  | none =>
      have unchanged : host.modifyLink base change = host := by
        rw [Host.modifyLink, PeerWorld.modifyLink, isLinked, Option.map_none,
          ← isLinked, Function.update_eq_self]
      rw [unchanged]
  | some link =>
      have before :
          host.waiting (.substreams base) = link.receivedSubstreams := by
        dsimp only [Host.waiting, receivedSubstreams]
        rw [isLinked]
        rfl
      rw [waiting_modifyLink host isLinked, same, ← before,
        Function.update_eq_self]

private theorem waiting_connections
    (host : Host) (server : Service.ServerPtr) (bases : List StreamPtr) :
    Host.waiting
        { host with
          receivedConnections :=
            Function.update host.receivedConnections server bases } =
      Function.update host.waiting (.connections server) bases := by
  funext inbox
  cases inbox with
  | substreams parent =>
      have different :
          Inbox.substreams parent ≠ .connections server :=
        nofun
      rw [Function.update_of_ne different]
      rfl
  | connections other =>
      dsimp only [Host.waiting]
      by_cases same : other = server
      · rw [same, Function.update_self, Function.update_self]
      · have different :
            Inbox.connections other ≠ .connections server :=
          fun equal => same (Inbox.connections.inj equal)
        rw [Function.update_of_ne same, Function.update_of_ne different]
        rfl

namespace Linked

theorem setError
    {host : Host} (linked : Linked host) (user : UserPtr)
    (error : ByteCodec.Bytes) :
    Linked (host.setError user error) := by
  refine linked.sameBase ?_
  rw [Host.baseOf]
  cases host.users user <;> rfl

theorem constructUser
    {host next : Host} (linked : Linked host) {user : UserPtr}
    (returned : host.constructUser user = some next) :
    Linked next := by
  rcases Host.constructUser_eq_some returned with ⟨free, same⟩
  subst next
  apply linked.sameBase
  rw [Host.baseOf, free]
  rfl

/-- `stream::create` for a stream that waits nowhere. -/
theorem createUser
    {host next : Host} (linked : Linked host) {base : StreamPtr}
    {user : UserPtr} (born : (host.peers.links base).isSome)
    (settled :
      ∀ link, host.peers.links base = some link → link.state ≠ .accepting)
    (nowhere : ∀ inbox, base ∉ host.waiting inbox)
    (returned : host.createUser base user = some next) :
    Linked next := by
  rcases Host.createUser_eq_some returned with ⟨free, unowned, same⟩
  subst next
  rw [linked.lockOwner] at unowned
  have noBase : host.baseOf user = none := by
    rw [Host.baseOf, free]
    rfl
  exact linked.link noBase rfl unowned born settled nowhere

/-- After `disconnect` the stream object has no base stream. -/
theorem disconnect
    {host next : Host} (linked : Linked host) {user : UserPtr}
    (returned : host.disconnect user = some next) :
    Linked next ∧ next.baseOf user = none := by
  rcases Host.disconnect_eq_some returned with
    ⟨noBase, same⟩ | ⟨base, entry, isBase, empty, same⟩
  · rw [same]
    exact ⟨linked, noBase⟩
  · have apart :
        Linked ((host.setOwner base none).setUser user (some entry)) :=
      linked.unlink isBase empty
    rw [same]
    refine ⟨apart.ages (Ages.shutdown host.peers base .close), ?_⟩
    simp [Host.baseOf, Host.setUser, empty]

theorem destroyUser
    {host next : Host} (linked : Linked host) {user : UserPtr}
    (returned : host.destroyUser user = some next) :
    Linked next := by
  rcases Host.destroyUser_eq_some returned with
    ⟨middle, disconnected, noBase, same⟩
  rw [same]
  exact (linked.disconnect disconnected).1.sameBase noBase.symm

theorem shutdown
    {host next : Host} (linked : Linked host) {user : UserPtr}
    {mode : Service.ServiceStream.ShutdownMode}
    (returned : host.shutdown user mode = some next) :
    Linked next := by
  rcases Host.shutdown_eq_some returned with same | ⟨base, same⟩
  · rw [same]
    exact linked
  · rw [same]
    exact linked.ages (Ages.shutdown host.peers base mode)

theorem listen
    {host next : Host} (linked : Linked host) {user : UserPtr}
    {mode : Stream.ListenMode}
    (returned : host.listen user mode = some next) :
    Linked next := by
  rcases Host.listen_eq_some returned with same | ⟨base, same⟩
  · rw [same]
    exact linked.setError user _
  · rw [same]
    exact
      linked.ages
        (Ages.modifyLink host.peers base (fun _ accepting => accepting)
          fun _ => List.Sublist.refl _)

theorem connectTo
    {env : Env} {host next : Host} (linked : Linked host) {user : UserPtr}
    {destination service : ByteCodec.Bytes} {base : StreamPtr}
    (returned :
      host.connectTo env user destination service base = some next) :
    Linked next := by
  rcases Host.connectTo_eq_some returned with
    ⟨apart, peers, entry, disconnected, isCreated, points, connects⟩
  obtain ⟨linkedApart, noBase⟩ := linked.disconnect disconnected
  have unborn := linkedApart.unborn (createStream_links isCreated).1
  have ages := Ages.of_writes (LinkWrites.createStream isCreated)
  have created := linkedApart.ages ages
  obtain ⟨link, isLinked, justCreated⟩ := created_settled isCreated
  have settled :
      ∀ other, peers.links base = some other → other.state ≠ .accepting := by
    intro other alsoLinked accepting
    rw [isLinked] at alsoLinked
    cases alsoLinked
    rw [justCreated] at accepting
    cases accepting
  have connected :=
    created.link noBase points unborn.1
      (Option.isSome_of_eq_some isLinked) settled
      (created.not_waiting unborn.2)
  rcases Host.connectBase_eq_some connects with ⟨_, world, _, _, same⟩
  rw [same]
  apply connected.ages
  exact
    ((Ages.refl peers).withWorld _).trans
      (Ages.setState _ base (fun _ => nofun) fun _ => rfl)

theorem openSubstream
    {env : Env} {host next : Host} (linked : Linked host)
    {user newUser : UserPtr} {newStream : StreamPtr}
    {result : Option UserPtr}
    (returned :
      host.openSubstream env user newStream newUser =
        some (result, next)) :
    Linked next := by
  rcases Host.openSubstream_eq_some returned with
    same | ⟨_, _, peers, isCreated, isUser⟩
  · rw [same]
    exact linked.setError user _
  · have unborn := linked.unborn (createStream_links isCreated).1
    obtain ⟨child, isLinked, _⟩ := created_settled isCreated
    have connected :
        Ages host.peers
          (peers.modifyLink newStream fun link =>
            { link with state := .connected }) :=
      (Ages.of_writes (LinkWrites.createStream isCreated)).trans
        (Ages.setState peers newStream (fun _ => nofun) fun _ => rfl)
    have made := linked.ages connected
    refine made.createUser ?_ ?_ (made.not_waiting unborn.2) isUser
    · dsimp only [Host.modifyLink]
      rw [PeerWorld.modifyLink_isSome, isLinked]
      rfl
    · intro other alsoLinked accepting
      dsimp only [Host.modifyLink, PeerWorld.modifyLink] at alsoLinked
      rw [Function.update_self, isLinked] at alsoLinked
      cases alsoLinked
      cases accepting

/-- The front of a queue gets its stream object. -/
theorem acceptFront
    {host next final : Host} (linked : Linked host) {inbox : Inbox}
    {base : StreamPtr} {rest : List StreamPtr} {newUser : UserPtr}
    (front : host.waiting inbox = base :: rest)
    (returned : next.createUser base newUser = some final)
    (ages : Ages host.peers next.peers)
    (owner : next.owner = host.owner) (users : next.users = host.users)
    (arrived : next.arrived = host.arrived)
    (accepted : next.accepted = host.accepted ++ [(inbox, base)])
    (waits : next.waiting = Function.update host.waiting inbox rest) :
    Linked final := by
  obtain ⟨taken, nowhere⟩ :=
    linked.take front ages owner users arrived accepted waits
  have waited : base ∈ host.waiting inbox := by
    rw [front]
    exact List.mem_cons_self
  have hasArrived : base ∈ host.arrived.map Prod.snd :=
    List.mem_map.mpr
      ⟨_, linked.served.arrived_of_waiting waited, rfl⟩
  refine taken.createUser ?_ ?_ nowhere returned
  · exact ages.born base (linked.arrivedBorn base hasArrived)
  · intro link isLinked accepting
    obtain ⟨before, wasLinked, wasAccepting⟩ :=
      ages.accepting base link isLinked accepting
    exact
      (linked.accepting base before wasLinked wasAccepting).2 hasArrived

theorem acceptSubstream
    {host next : Host} (linked : Linked host) {user newUser : UserPtr}
    {result : Option UserPtr}
    (returned :
      host.acceptSubstream user newUser = some (result, next)) :
    Linked next := by
  rcases Host.acceptSubstream_eq_some returned with
    ⟨error, same⟩ | ⟨base, link, newStream, rest, isLinked, front, isUser⟩
  · rw [same]
    exact linked.setError user error
  · have waits :=
      waiting_modifyLink host isLinked fun link =>
        { link with receivedSubstreams := rest }
    have isFront :
        host.waiting (.substreams base) = newStream :: rest := by
      simp [Host.waiting, receivedSubstreams, isLinked, front]
    have shorter : rest.Sublist link.receivedSubstreams := by
      rw [front]
      exact List.sublist_cons_self newStream rest
    have ages := Ages.fewer isLinked shorter
    exact linked.acceptFront isFront isUser ages rfl rfl rfl rfl waits

theorem accept
    {host next : Host} (linked : Linked host) {server : Service.ServerPtr}
    {newUser : UserPtr} {result : Option UserPtr}
    (returned : host.accept server newUser = some (result, next)) :
    Linked next := by
  rcases Host.accept_eq_some returned with
    ⟨_, _, same⟩ | ⟨newStream, rest, front, _, isUser⟩
  · rw [same]
    exact linked
  · have isFront :
        host.waiting (.connections server) = newStream :: rest :=
      front
    exact
      linked.acceptFront isFront isUser (Ages.refl host.peers) rfl rfl rfl
        rfl (waiting_connections host server rest)

/-- A stream that is new begins to wait for a service request. -/
theorem startAccepting
    {host : Host} (linked : Linked host) {base : StreamPtr}
    (unowned : host.owner base = none)
    (new : base ∉ host.arrived.map Prod.snd) :
    Linked
      (host.modifyLink base fun link =>
        { link with state := .accepting }) := by
  have waiting :
      (host.modifyLink base fun link =>
        { link with state := .accepting }).waiting = host.waiting :=
    waiting_setState host base fun _ => rfl
  refine ⟨linked.paired, ?_, ?_, ?_, ?_, ?_⟩
  · intro other user owned
    dsimp only [Host.modifyLink]
    rw [PeerWorld.modifyLink_isSome]
    exact linked.born other user owned
  · intro inbox other waits
    rw [waiting] at waits
    exact linked.unowned inbox other waits
  · intro other link isLinked accepting
    by_cases same : other = base
    · rw [same]
      exact ⟨unowned, new⟩
    · dsimp only [Host.modifyLink, PeerWorld.modifyLink] at isLinked
      rw [Function.update_of_ne same] at isLinked
      exact linked.accepting other link isLinked accepting
  · intro other member
    dsimp only [Host.modifyLink]
    rw [PeerWorld.modifyLink_isSome]
    exact linked.arrivedBorn other member
  · rw [waiting]
    exact linked.served

/-- A stream that is new joins the queue of another stream. -/
theorem queueSubstream
    {host : Host} (linked : Linked host) {parent base : StreamPtr}
    (parentBorn : (host.peers.links parent).isSome)
    (different : parent ≠ base) (unowned : host.owner base = none)
    (new : base ∉ host.arrived.map Prod.snd)
    (born : (host.peers.links base).isSome)
    (settled :
      ∀ link, host.peers.links base = some link → link.state ≠ .accepting) :
    Linked
      { host with
        peers :=
          host.peers.modifyLink parent fun link =>
            { link with
              receivedSubstreams := link.receivedSubstreams ++ [base] }
        arrived := host.arrived ++ [(.substreams parent, base)] } := by
  obtain ⟨link, isLinked⟩ := Option.isSome_iff_exists.mp parentBorn
  have queue :
      host.waiting (.substreams parent) = link.receivedSubstreams := by
    dsimp only [Host.waiting, receivedSubstreams]
    rw [isLinked]
    rfl
  have waits :=
    waiting_modifyLink host isLinked fun link =>
      { link with receivedSubstreams := link.receivedSubstreams ++ [base] }
  have keeps :
      Keeps host.peers
        (host.peers.modifyLink parent fun link =>
          { link with
            receivedSubstreams := link.receivedSubstreams ++ [base] }) :=
    Keeps.modifyLink host.peers parent fun _ accepting => accepting
  refine linked.arrive unowned new ?_ ?_ keeps rfl rfl rfl rfl ?_
  · exact keeps.born base born
  · dsimp only [PeerWorld.modifyLink]
    rw [Function.update_of_ne (Ne.symm different)]
    exact settled
  · rw [queue]
    exact waits

theorem rxSubstream
    {env : Env} {host next : Host} (linked : Linked host)
    {parent newStream : StreamPtr} {pktseq : PacketSeq}
    {channel : ChannelPtr} {sid : LocalStreamId} {slot : Slot}
    {usid : UniqueStreamId}
    (returned :
      host.rxSubstream env parent pktseq channel sid slot usid newStream =
        some next) :
    Linked next := by
  rcases Host.rxSubstream_eq_some returned with
    ⟨result, peers, received, outcome⟩
  rcases LinkWrites.rxSubstream_opens received with
    ⟨refused, same⟩ |
      ⟨accepted, opened, writes, parentBorn, unborn, born, isOpened⟩
  · rcases outcome with ⟨_, isNext⟩ | ⟨notRefused, _⟩
    · rw [isNext]
      exact linked.ages (Ages.of_links same)
    · exact absurd (Or.inl refused) notRefused
  · have ages := Ages.of_writes writes
    have aged := linked.ages ages
    have new := linked.unborn unborn
    have sameWorld : peers.world = opened.world := by
      rw [isOpened]
      unfold PeerWorld.openSubstream
      split <;> rfl
    have notRefused : result ≠ none := by
      rw [accepted]
      nofun
    have different : parent ≠ newStream := by
      intro same
      rw [same, unborn] at parentBorn
      cases parentBorn
    rw [sameWorld] at outcome
    rcases outcome with ⟨reason, isNext⟩ | ⟨waits, isNext⟩
    · have root := reason.resolve_left notRefused
      rw [PeerWorld.openSubstream, if_pos root] at isOpened
      rw [isNext, isOpened]
      exact aged.startAccepting new.1 new.2
    · rw [PeerWorld.openSubstream,
        if_neg fun root => waits (Or.inr root)] at isOpened
      rw [isNext, isOpened]
      have connected :
          Ages opened
            (opened.modifyLink newStream fun link =>
              { link with state := .connected }) :=
        Ages.setState opened newStream (fun _ => nofun) fun _ => rfl
      have both := ages.trans connected
      refine
        (linked.ages both).queueSubstream (both.born parent parentBorn)
          different new.1 new.2 (connected.born newStream born) ?_
      intro link isLinked accepting
      dsimp only [PeerWorld.modifyLink] at isLinked
      rw [Function.update_self, Option.map_eq_some_iff] at isLinked
      obtain ⟨_, _, changed⟩ := isLinked
      subst link
      cases accepting

/-- A stream goes to another state than `accepting`. -/
theorem settle
    {host : Host} (linked : Linked host) (base : StreamPtr)
    {change : PeerStream → PeerStream}
    (notAccepting : ∀ link, (change link).state ≠ .accepting)
    (same :
      ∀ link,
        (change link).receivedSubstreams = link.receivedSubstreams) :
    Linked (host.modifyLink base change) :=
  linked.ages (Ages.setState host.peers base notAccepting same)

theorem gotServiceRequest
    {host next : Host} (linked : Linked host) {base : StreamPtr}
    {code : BitVec 32} {service protocol : ByteCodec.Bytes}
    (returned :
      host.gotServiceRequest base code service protocol = some next) :
    Linked next := by
  rcases Host.gotServiceRequest_eq_some returned with
    ⟨link, isLinked, accepting, ⟨_, same⟩ | ⟨server, _, _, same⟩⟩
  · rw [same]
    exact linked.settle base (fun _ => nofun) fun _ => rfl
  · rw [same]
    obtain ⟨unowned, new⟩ :=
      linked.accepting base link isLinked accepting
    have connected :
        Ages host.peers
          (host.peers.modifyLink base fun link =>
            { link with state := .connected }) :=
      Ages.setState host.peers base (fun _ => nofun) fun _ => rfl
    refine
      (linked.ages connected).arrive unowned new
        (connected.born base (Option.isSome_of_eq_some isLinked)) ?_
        (Ages.refl _).toKeeps rfl rfl rfl rfl
        (waiting_connections _ server _)
    intro other alsoLinked stillAccepting
    dsimp only [Host.modifyLink, PeerWorld.modifyLink] at alsoLinked
    rw [Function.update_self, isLinked] at alsoLinked
    cases alsoLinked
    cases stillAccepting

theorem gotServiceReply
    {host next : Host} (linked : Linked host) {base : StreamPtr}
    {code status : BitVec 32}
    (returned : host.gotServiceReply base code status = some next) :
    Linked next := by
  rcases Host.gotServiceReply_eq_some returned with
    ⟨_, _, _, same | same⟩
  · rw [same]
    exact linked.settle base (fun _ => nofun) fun _ => rfl
  · rw [same]
    exact linked.settle base (fun _ => nofun) fun _ => rfl

theorem peerCall
    {env : Env} {host next : Host} (linked : Linked host)
    {call : PeerCall} (returned : host.peerCall env call = some next) :
    Linked next := by
  rcases Host.peerCall_eq_some returned with
    ⟨_, _, _, _, _, _, _, _, received⟩ | ⟨peers, other, called, same⟩
  · exact linked.rxSubstream received
  · rw [same]
    exact linked.ages (Ages.of_writes (LinkWrites.peerCall called other))

theorem transportCall
    {env : Env} {host next : Host} (linked : Linked host) {call : Call}
    (returned : host.transportCall env call = some next) :
    Linked next := by
  obtain ⟨world, same⟩ := Host.transportCall_eq_some returned
  rw [same]
  exact linked.ages ((Ages.refl host.peers).withWorld world)

/-- The queues of servers that come and go are emptied. -/
theorem serverCall
    {host next : Host} (linked : Linked host) {call : Service.ServerCall}
    (returned : host.serverCall call = some next) :
    Linked next := by
  rcases Host.serverCall_eq_some returned with ⟨servers, _, same⟩
  subst next
  have left :
      ∀ server,
        (host.connectionsAfter server call).Sublist
          (host.receivedConnections server) := by
    intro server
    cases call with
    | construct ptr | destroy ptr =>
        dsimp only [Host.connectionsAfter]
        split
        · exact List.nil_sublist _
        · exact List.Sublist.refl _
    | listen ptr serviceName serviceDesc protocolName protocolDesc =>
        exact List.Sublist.refl _
  refine
    ⟨linked.paired, linked.born, ?_, linked.accepting, linked.arrivedBorn,
      ?_⟩
  · intro inbox base waits
    cases inbox with
    | substreams parent =>
        exact linked.unowned (.substreams parent) base waits
    | connections server =>
        exact
          linked.unowned (.connections server) base
            ((left server).subset waits)
  · refine linked.served.drop fun inbox => ?_
    cases inbox with
    | substreams parent =>
        exact List.Sublist.refl _
    | connections server =>
        exact left server

theorem step
    {env : Env} {host next : Host} {call : HostCall}
    (linked : Linked host) (taken : HostStep env host call next) :
    Linked next := by
  have returned : call.run env host = some next := taken
  cases call with
  | constructUser user =>
      exact linked.constructUser returned
  | destroyUser user =>
      exact linked.destroyUser returned
  | connectTo user destination service base =>
      exact linked.connectTo returned
  | disconnect user =>
      exact (linked.disconnect returned).1
  | shutdown user mode =>
      exact linked.shutdown returned
  | listen user mode =>
      exact linked.listen returned
  | openSubstream user newStream newUser =>
      obtain ⟨⟨result, host⟩, opened, same⟩ :=
        Option.map_eq_some_iff.mp returned
      subst next
      exact linked.openSubstream opened
  | acceptSubstream user newUser =>
      obtain ⟨⟨result, host⟩, accepted, same⟩ :=
        Option.map_eq_some_iff.mp returned
      subst next
      exact linked.acceptSubstream accepted
  | accept server newUser =>
      obtain ⟨⟨result, host⟩, accepted, same⟩ :=
        Option.map_eq_some_iff.mp returned
      subst next
      exact linked.accept accepted
  | gotServiceRequest base code service protocol =>
      exact linked.gotServiceRequest returned
  | gotServiceReply base code status =>
      exact linked.gotServiceReply returned
  | peerCall call =>
      exact linked.peerCall returned
  | transportCall call =>
      exact linked.transportCall returned
  | serverCall call =>
      exact linked.serverCall returned

theorem of_run
    {env : Env} {world : World} {calls : List HostCall} {final : Host}
    (run : HostRun env (Host.create world) calls final) :
    Linked final :=
  run.induct (fun _ => Linked) (create world)
    fun _ _ _ _ _ linked taken => linked.step taken

end Linked

/-- In every run, a stream object points to a base stream exactly when the
base stream has it for an owner, and such an owner exists. -/
theorem links_mutual
    {env : Env} {world : World} {calls : List HostCall} {final : Host}
    (run : HostRun env (Host.create world) calls final)
    (user : UserPtr) (base : StreamPtr) :
    (final.baseOf user = some base ↔ final.owner base = some user) ∧
      final.lockOwner base = final.owner base := by
  have linked := Linked.of_run run
  exact ⟨linked.paired user base, linked.lockOwner base⟩

/-- A service is requested, the connection and a substream of it are
accepted. -/
def acceptingCalls : List HostCall :=
  [.serverCall (.construct 0), .serverCall (.listen 0 [1] [2] [3] [4]),
    .peerCall (.construct 0 0 [1]),
    .peerCall (.rxSubstream 0 1 0 1 Slot.first ⟨1, [2]⟩ 1),
    .gotServiceRequest 1 Service.connectRequest [1] [3],
    .accept 0 0, .listen 0 Stream.ListenMode.unlimited,
    .peerCall (.rxSubstream 1 2 0 2 Slot.first ⟨2, [2]⟩ 2)]

theorem links_mutual_after_accepting :
    ∃ final,
      HostRun (Env.constant true) (Host.create (World.create [1] [2]))
          (acceptingCalls ++ [.acceptSubstream 0 1]) final ∧
        (final.baseOf 1 = some 2 ↔ final.owner 2 = some 1) ∧
          final.lockOwner 2 = final.owner 2 := by
  have run :
      HostRun (Env.constant true) (Host.create (World.create [1] [2]))
        (acceptingCalls ++ [.acceptSubstream 0 1]) _ :=
    HostRun.of_runAll rfl
  exact ⟨_, run, links_mutual run 1 2⟩

/-- `stream::create` for a base stream without an owner. -/
theorem createUser_isSome
    {host : Host} {base : StreamPtr} {user : UserPtr}
    (free : host.users user = none) (unowned : host.owner base = none) :
    (host.createUser base user).isSome := by
  unfold Host.createUser
  rw [guard_bind_isSome_iff, guard_bind_isSome_iff, Host.lockOwner, unowned,
    free]
  exact ⟨rfl, rfl, rfl⟩

/-- The result of the functions that open or accept a stream. -/
theorem newUser_isSome
    {host : Host} {base : StreamPtr} {user : UserPtr}
    (created : (host.createUser base user).isSome) :
    (host.createUser base user >>= fun next =>
        some (some user, next)).isSome := by
  obtain ⟨next, isCreated⟩ := Option.isSome_iff_exists.mp created
  rw [isCreated]
  rfl

/-- The size of receive buffers that the base stream of a stream object hands
down to its substreams is not negative. -/
def Host.HandsDownSize (host : Host) (user : UserPtr) : Prop :=
  ∀ base link,
    host.baseOf user = some base → host.peers.links base = some link →
      0 ≤ link.buffers.childReceiveBufSize

/-- A stream object that exists can accept, since nobody owns what waits. -/
theorem Linked.acceptSubstream_isSome
    {host : Host} (linked : Linked host) {user newUser : UserPtr}
    (alive : (host.users user).isSome)
    (free : host.users newUser = none) :
    (host.acceptSubstream user newUser).isSome := by
  obtain ⟨entry, isUser⟩ := Option.isSome_iff_exists.mp alive
  unfold Host.acceptSubstream
  rw [isUser, Option.bind_eq_bind, Option.bind_some]
  cases points : entry.stream with
  | none =>
      rfl
  | some base =>
      dsimp only
      cases front : receivedSubstreams host.peers base with
      | nil =>
          rfl
      | cons newStream rest =>
          have waits : newStream ∈ host.waiting (.substreams base) := by
            dsimp only [Host.waiting]
            rw [front]
            exact List.mem_cons_self
          have unowned := linked.unowned _ newStream waits
          exact newUser_isSome (createUser_isSome free unowned)

private theorem Linked.accept_isSome
    {host : Host} (linked : Linked host) {server : Service.ServerPtr}
    (exists' : (host.servers.servers server).isSome)
    {newUser : UserPtr} (free : host.users newUser = none) :
    (host.accept server newUser).isSome := by
  unfold Host.accept
  rw [guard_bind_of_holds exists']
  cases front : host.receivedConnections server with
  | nil =>
      rfl
  | cons newStream rest =>
      have waits : newStream ∈ host.waiting (.connections server) := by
        dsimp only [Host.waiting]
        rw [front]
        exact List.mem_cons_self
      have unowned := linked.unowned _ newStream waits
      exact newUser_isSome (createUser_isSome free unowned)

/-- A substream opens exactly when its constructor takes the inherited
size. -/
theorem Linked.openSubstream_isSome_iff
    {env : Env} {host : Host} (linked : Linked host)
    (small :
      (Stream.minReceiveBufferSize env.mtu : Int) ≤
        Stream.defaultRxBufferSize)
    {user newUser : UserPtr} (alive : (host.users user).isSome)
    (free : host.users newUser = none) {newStream : StreamPtr}
    (unborn : host.peers.links newStream = none) :
    (host.openSubstream env user newStream newUser).isSome ↔
      host.HandsDownSize user := by
  obtain ⟨entry, isUser⟩ := Option.isSome_iff_exists.mp alive
  have isBase : host.baseOf user = entry.stream := by
    rw [Host.baseOf, isUser, Option.bind_some]
  unfold Host.openSubstream Host.HandsDownSize
  rw [isUser, Option.bind_eq_bind, Option.bind_some, isBase]
  cases points : entry.stream with
  | none =>
      refine iff_of_true rfl ?_
      intro _ _ nothing
      cases nothing
  | some base =>
      rw [points] at isBase
      have owned := (linked.paired user base).mp isBase
      obtain ⟨link, isLinked⟩ :=
        Option.isSome_iff_exists.mp (linked.born base user owned)
      have constructs :=
        link.buffers.construct_isSome_iff env.mtuPositive small
      have creates :=
        PeerWorld.createStream_isSome_iff env unborn link.peerId
          (some base)
      rw [Option.bind_some, isLinked, Option.map_some, constructs]
        at creates
      have unowned := (linked.unborn unborn).1
      dsimp only
      rw [isLinked, Option.bind_eq_bind, Option.bind_some]
      constructor
      · rintro returns _ _ ⟨⟩ same
        rw [isLinked] at same
        cases same
        apply creates.mp
        cases isCreated :
            host.peers.createStream env newStream link.peerId.val
              (some base) with
        | none =>
            rw [isCreated] at returns
            cases returns
        | some peers =>
            rfl
      · intro size
        obtain ⟨peers, isCreated⟩ :=
          Option.isSome_iff_exists.mp
            (creates.mpr (size base link rfl isLinked))
        rw [isCreated, Option.bind_eq_bind, Option.bind_some]
        exact newUser_isSome (createUser_isSome free unowned)

/-- In every run, the assertion of `stream::create` holds: a stream that
exists and a server can accept, and a stream can open substreams exactly when
the size that they inherit passes the assertion of their constructor. -/
theorem opening_and_accepting_return
    {env : Env} {world : World} {calls : List HostCall} {final : Host}
    (small :
      (Stream.minReceiveBufferSize env.mtu : Int) ≤
        Stream.defaultRxBufferSize)
    (run : HostRun env (Host.create world) calls final)
    {user newUser : UserPtr} (alive : (final.users user).isSome)
    (free : final.users newUser = none) :
    (final.acceptSubstream user newUser).isSome ∧
      (∀ newStream,
        final.peers.links newStream = none →
          ((final.openSubstream env user newStream newUser).isSome ↔
            final.HandsDownSize user)) ∧
      ∀ server,
        (final.servers.servers server).isSome →
          (final.accept server newUser).isSome := by
  have linked := Linked.of_run run
  refine ⟨linked.acceptSubstream_isSome alive free, ?_, ?_⟩
  · intro newStream unborn
    exact linked.openSubstream_isSome_iff small alive free unborn
  · intro server exists'
    exact linked.accept_isSome exists' free

/-- A connection was accepted, and a substream of it waits; then the size for
its substreams is set to `2 ^ 31`. -/
theorem opening_and_accepting_return_in_run :
    (∃ final,
      HostRun (Env.constant true) (Host.create (World.create [1] [2]))
          acceptingCalls final ∧
        (final.acceptSubstream 0 1).isSome ∧
        (final.openSubstream (Env.constant true) 0 7 1).isSome) ∧
      ∃ final,
        HostRun (Env.constant true) (Host.create (World.create [1] [2]))
            (acceptingCalls ++
              [.peerCall (.setChildReceiveBufferSize 1 0x80000000)])
            final ∧
          (final.acceptSubstream 0 1).isSome ∧
          ¬ (final.openSubstream (Env.constant true) 0 7 1).isSome := by
  have run :
      HostRun (Env.constant true) (Host.create (World.create [1] [2]))
        acceptingCalls _ :=
    HostRun.of_runAll rfl
  have resizedRun :
      HostRun (Env.constant true) (Host.create (World.create [1] [2]))
        (acceptingCalls ++
          [.peerCall (.setChildReceiveBufferSize 1 0x80000000)]) _ :=
    HostRun.of_runAll rfl
  obtain ⟨accepts, opens, _⟩ :=
    @opening_and_accepting_return (Env.constant true) _ _ _ (by decide) run
      0 1 rfl rfl
  obtain ⟨stillAccepts, noLongerOpens, _⟩ :=
    @opening_and_accepting_return (Env.constant true) _ _ _ (by decide)
      resizedRun 0 1 rfl rfl
  refine ⟨⟨_, run, accepts, (opens 7 rfl).mpr ?_⟩, _, resizedRun,
    stillAccepts, fun returns => ?_⟩
  · rintro _ _ ⟨⟩ ⟨⟩
    decide
  · have size := (noLongerOpens 7 rfl).mp returns 1 _ rfl rfl
    revert size
    decide

/-- In every run, every base stream arrives in one queue and once, none is
accepted twice, and each queue is accepted in the order of arrival, what
still waits in it last. -/
theorem accepted_in_order_of_arrival
    {env : Env} {world : World} {calls : List HostCall} {final : Host}
    (run : HostRun env (Host.create world) calls final) :
    (final.arrived.map Prod.snd).Nodup ∧
      (final.accepted.map Prod.snd).Nodup ∧
      ∀ inbox,
        (itemsAt inbox final.accepted ++ final.waiting inbox).Sublist
          (itemsAt inbox final.arrived) := by
  have served := (Linked.of_run run).served
  exact ⟨served.once, served.taken_nodup, served.order⟩

theorem accepted_in_order_of_arrival_in_two_queues :
    ∃ final,
      HostRun (Env.constant true) (Host.create (World.create [1] [2]))
          (acceptingCalls ++ [.acceptSubstream 0 1]) final ∧
        (final.arrived.map Prod.snd).Nodup ∧
          (final.accepted.map Prod.snd).Nodup ∧
          ∀ inbox,
            (itemsAt inbox final.accepted ++ final.waiting inbox).Sublist
              (itemsAt inbox final.arrived) := by
  have run :
      HostRun (Env.constant true) (Host.create (World.create [1] [2]))
        (acceptingCalls ++ [.acceptSubstream 0 1]) _ :=
    HostRun.of_runAll rfl
  exact ⟨_, run, accepted_in_order_of_arrival run⟩

end StructuredStreams.Application
