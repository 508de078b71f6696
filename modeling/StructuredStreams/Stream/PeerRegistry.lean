import StructuredStreams.Stream.Peers
import StructuredStreams.Stream.SidAllocation

/-!
# The registry of a peer

A peer with its streams is a directory: a stream joins when it is created,
is enlisted when it gets its unique id, and leaves when it is cleared.  The
id of a root stream is set without enlisting it, and an id that is taken
stays with the first stream.  The directory is sound all the same, so that
nothing is left in it when all members have been cleared.
-/

namespace StructuredStreams.Stream

open World

/-- No attachment of the stream is on a channel. -/
def World.Detached (world : World) (stream : StreamPtr) : Prop :=
  ∀ slot,
    world.transmitting.place (stream, slot) = none ∧
      world.receiving.place (stream, slot) = none

/-- The attachments agree with the tables, and nothing is in line or waits
for an acknowledgment. -/
structure Idle (world : World) : Prop where
  consistent : ConsistentAttachments world
  nothingWaits : NothingWaits world
  noLine : ∀ channel, (world.channels channel).sendingStreams = []

theorem Idle.of_initial
    {world : World} (initial : world.Initial) : Idle world where
  consistent := ConsistentAttachments.of_initial initial
  nothingWaits := initial.waitingAck
  noLine := initial.sendingStreams

/-- The unique ids and the roots are what they were, and where nothing was
in line or waited, nothing is or does. -/
structure SameNames (world next : World) : Prop where
  usid :
    ∀ stream, (next.streams stream).usid = (world.streams stream).usid
  roots : SameRoots world next
  noLine :
    ∀ channel, (world.channels channel).sendingStreams = [] →
      (next.channels channel).sendingStreams = []

namespace SameNames

theorem refl (world : World) : SameNames world world where
  usid := fun _ => rfl
  roots := SameRoots.refl world
  noLine := fun _ empty => empty

theorem trans
    {world middle next : World} (first : SameNames world middle)
    (second : SameNames middle next) :
    SameNames world next where
  usid := fun stream => (second.usid stream).trans (first.usid stream)
  roots := first.roots.trans second.roots
  noLine := fun channel empty =>
    second.noLine channel (first.noLine channel empty)

theorem tick
    {world next : World} (same : SameNames world next) :
    SameNames world next.tick :=
  ⟨same.usid, same.roots.tick, same.noLine⟩

theorem modifyStream
    (world : World) (stream : StreamPtr)
    (change : BaseStream → BaseStream)
    (usid :
      (change (world.streams stream)).usid =
        (world.streams stream).usid) :
    SameNames world (world.modifyStream stream change) where
  usid := modifyStream_field world BaseStream.usid stream change usid
  roots := SameRoots.modifyStream world stream change
  noLine := fun _ empty => empty

theorem modifyChannel
    (world : World) (channel : ChannelPtr)
    (change : StreamChannel → StreamChannel)
    (root :
      (change (world.channels channel)).root =
        (world.channels channel).root)
    (waitingAck :
      (change (world.channels channel)).waitingAck =
        (world.channels channel).waitingAck)
    (line :
      (change (world.channels channel)).sendingStreams =
        (world.channels channel).sendingStreams) :
    SameNames world (world.modifyChannel channel change) where
  usid := fun _ => rfl
  roots := SameRoots.modifyChannel world channel change root waitingAck
  noLine := by
    intro other empty
    rw [modifyChannel_field world StreamChannel.sendingStreams channel
      change line]
    exact empty

theorem unregister
    (world : World) (stream : StreamPtr) (slot : Slot)
    (channel : ChannelPtr) (sid : LocalStreamId) :
    SameNames world (world.unregister stream slot channel sid) where
  usid := by
    intro other
    by_cases same : other = stream
    · subst other
      rw [unregister_streams_self]
    · rw [unregister_streams_of_ne world same]
  roots := SameRoots.unregister world stream slot channel sid
  noLine := by
    intro other empty
    by_cases same : other = channel
    · subst other
      rw [unregister_channels_self, empty]
      rfl
    · rw [unregister_channels_of_ne world stream slot same]
      exact empty

theorem setAttaching
    {world next : World} {stream : StreamPtr} {slot : Slot}
    {channel : ChannelPtr} {sid : LocalStreamId}
    (returned :
      World.setAttaching world stream slot channel sid = some next) :
    SameNames world next := by
  obtain ⟨_, _, attaching⟩ := setAttaching_eq_some returned
  rw [attaching]
  exact
    (modifyStream world stream _ rfl).trans
      (modifyChannel _ channel _ rfl rfl rfl)

theorem rxSetActive
    {world next : World} {stream : StreamPtr} {slot : Slot}
    {channel : ChannelPtr} {sid : LocalStreamId} {rxseq : PacketSeq}
    (returned :
      World.rxSetActive world stream slot channel sid rxseq =
        some next) :
    SameNames world next := by
  obtain ⟨_, _, attaching⟩ := rxSetActive_eq_some returned
  rw [attaching]
  exact
    (modifyStream world stream _ rfl).trans
      (modifyChannel _ channel _ rfl rfl rfl)

/-- The constructor changes the root of its channel and no other name. -/
theorem construct
    {world next : World} {channel : ChannelPtr} {root : StreamPtr}
    (returned : World.construct world channel root = some next) :
    SameNames
      (world.modifyChannel channel fun entry =>
        { entry with root := some root })
      next := by
  obtain ⟨_, attaching, activated, current, attached, active, isCurrent,
    rxAttached⟩ := construct_eq_some returned
  have made := setAttaching attached
  have madeActive : SameNames attaching activated := by
    obtain ⟨_, changed⟩ := setActive_eq_some active
    rw [changed]
    exact modifyStream attaching root _ rfl
  have madeCurrent : SameNames activated current := by
    obtain ⟨_, _, changed⟩ := setCurrent_eq_some isCurrent
    rw [changed]
    exact modifyStream activated root _ rfl
  exact
    made.trans
      (madeActive.trans (madeCurrent.trans (rxSetActive rxAttached)))

theorem rxClear
    {world next : World} {stream : StreamPtr} {slot : Slot}
    (returned : World.rxClear world stream slot = some next) :
    SameNames world next := by
  rcases rxClear_eq_some returned with
    ⟨_, unchanged⟩ | ⟨channel, _, cleared⟩
  · rw [unchanged]
    exact refl world
  · rw [cleared]
    exact
      (modifyChannel world channel _ rfl rfl rfl).trans
        (modifyStream _ stream _ rfl)

end SameNames

/-- A step that changes no name and attaches nothing. -/
structure Settles (world next : World) : Prop where
  idle : Idle next
  names : SameNames world next
  detached : ∀ stream, world.Detached stream → next.Detached stream

theorem Settles.trans
    {world middle next : World} (first : Settles world middle)
    (second : Settles middle next) :
    Settles world next where
  idle := second.idle
  names := first.names.trans second.names
  detached := fun stream detached =>
    second.detached stream (first.detached stream detached)

theorem Idle.same
    {world next : World} (idle : Idle world)
    (consistent : ConsistentAttachments next)
    (names : SameNames world next) : Idle next where
  consistent := consistent
  nothingWaits := names.roots.nothingWaits idle.nothingWaits
  noLine := fun channel => names.noLine channel (idle.noLine channel)

private theorem Idle.withRoot
    {world : World} (idle : Idle world) (channel : ChannelPtr)
    (root : StreamPtr) :
    Idle
      (world.modifyChannel channel fun entry =>
        { entry with root := some root }) where
  consistent :=
    idle.consistent.same
      (SameAttachments.modifyChannel world channel _ rfl rfl)
  nothingWaits := by
    intro other
    rw [modifyChannel_field world StreamChannel.waitingAck channel _ rfl]
    exact idle.nothingWaits other
  noLine := by
    intro other
    rw [modifyChannel_field world StreamChannel.sendingStreams channel _
      rfl]
    exact idle.noLine other

theorem World.Detached.same
    {world next : World} {stream : StreamPtr}
    (detached : world.Detached stream)
    (same : SameAttachments world next) : next.Detached stream := by
  intro slot
  rw [same.transmitting, same.receiving]
  exact detached slot

private theorem Settles.of_sameAttachments
    {world next : World} (idle : Idle world)
    (same : SameAttachments world next) (names : SameNames world next) :
    Settles world next where
  idle := idle.same (idle.consistent.same same) names
  names := names
  detached := fun _ detached => detached.same same

/-- A stream may change as long as its attachments do not. -/
theorem Idle.modifyStream
    {world : World} (idle : Idle world) {stream : StreamPtr}
    {change : BaseStream → BaseStream}
    (same :
      SameAttachments world (world.modifyStream stream change)) :
    Idle (world.modifyStream stream change) where
  consistent := idle.consistent.same same
  nothingWaits := idle.nothingWaits
  noLine := idle.noLine

private theorem sameAttachments_rename
    (world : World) (stream : StreamPtr) (usid : UniqueStreamId) :
    SameAttachments world
      (world.modifyStream stream fun entry =>
        { entry with usid := usid }) :=
  SameAttachments.modifyStream world stream _ (fun _ => ⟨rfl, rfl⟩) rfl

private theorem Idle.endWrite_settles
    {world : World} (idle : Idle world) (stream : StreamPtr) :
    Settles world
      (world.modifyStream stream fun entry =>
        { entry with endWrite := true }) := by
  refine Settles.of_sameAttachments idle ?_ ?_
  · exact
      SameAttachments.modifyStream world stream _ (fun _ => ⟨rfl, rfl⟩) rfl
  · exact SameNames.modifyStream world stream _ rfl

/-- What was in no place is in none after another item has left. -/
theorem leave_place_eq_none
    {registry : Registry ChannelPtr LocalStreamId StreamSlot}
    {item : StreamSlot} (absent : registry.place item = none)
    (other : StreamSlot) :
    (registry.leave other).place item = none := by
  rw [Registry.leave_place]
  by_cases same : item = other
  · rw [same, Function.update_self]
  · rw [Function.update_of_ne same]
    exact absent

private theorem Idle.clear_settles
    {world : World} (env : Env) (idle : Idle world)
    (stream : StreamPtr) (slot : Slot) :
    ∃ next,
      clear env world stream slot = some next ∧ Settles world next := by
  obtain ⟨next, returned, _⟩ :=
    clear_returns env idle.nothingWaits idle.consistent stream slot
  have names : SameNames world next := by
    cases attached :
        ((world.streams stream).txAttachments slot).channel with
    | none =>
        simp only [clear, attached] at returned
        cases returned
        exact SameNames.refl world
    | some channel =>
        rw [clear_eq_of_attached env idle.nothingWaits idle.consistent
          attached] at returned
        cases returned
        exact (SameNames.unregister _ _ _ _ _).tick
  obtain ⟨left, kept⟩ := clear_leaves returned
  refine ⟨next, returned,
    idle.same (idle.consistent.clear returned) names, names, ?_⟩
  intro other detached otherSlot
  obtain ⟨absent, rxAbsent⟩ := detached otherSlot
  rw [left, kept]
  exact ⟨leave_place_eq_none absent _, rxAbsent⟩

private theorem Idle.rxClear_settles
    {world : World} (idle : Idle world)
    (stream : StreamPtr) (slot : Slot) :
    ∃ next, rxClear world stream slot = some next ∧ Settles world next := by
  obtain ⟨next, returned⟩ :=
    rxClear_returns idle.consistent stream slot
  have names := SameNames.rxClear returned
  obtain ⟨left, kept⟩ := rxClear_leaves returned
  refine ⟨next, returned,
    idle.same (idle.consistent.rxClear returned) names, names, ?_⟩
  intro other detached otherSlot
  obtain ⟨absent, rxAbsent⟩ := detached otherSlot
  rw [left, kept]
  exact ⟨absent, leave_place_eq_none rxAbsent _⟩

/-- The attachments of a stream are cleared in the end. -/
theorem Idle.clearAttachments_settles
    {world : World} (env : Env) (idle : Idle world)
    (stream : StreamPtr) :
    ∃ next,
      PeerWorld.clearAttachments env world stream = some next ∧
        Settles world next := by
  have pass :
      ∀ (before : World) (slot : Slot), Idle before →
        ∃ after,
          (do
            let world ← before.clear env stream slot
            world.rxClear stream slot) = some after ∧
            Settles before after := by
    intro before slot idleBefore
    obtain ⟨middle, cleared, first⟩ :=
      idleBefore.clear_settles env stream slot
    obtain ⟨after, rxCleared, second⟩ :=
      first.idle.rxClear_settles stream slot
    refine ⟨after, ?_, first.trans second⟩
    rw [cleared]
    exact rxCleared
  obtain ⟨middle, passed, first⟩ := pass world Slot.first idle
  obtain ⟨next, alsoPassed, second⟩ := pass middle Slot.second first.idle
  refine ⟨next, ?_, first.trans second⟩
  rw [PeerWorld.clearAttachments, List.foldlM_cons, bind_eq_some_iff]
  refine ⟨middle, passed, ?_⟩
  rw [List.foldlM_cons, bind_eq_some_iff]
  exact ⟨next, alsoPassed, rfl⟩

/-- Making a stream anew that is not attached. -/
theorem sameAttachments_recreate
    {world : World} {stream : StreamPtr} (detached : world.Detached stream)
    (parent : Option StreamPtr) :
    SameAttachments world
      (world.modifyStream stream fun _ =>
        { BaseStream.create with parent := parent }) where
  transmitting := by
    rw [World.transmitting, World.transmitting, Registry.mk.injEq]
    refine ⟨rfl, ?_⟩
    funext item
    by_cases same : item.1 = stream
    · have absent := (detached item.2).1
      rw [← same] at absent ⊢
      rw [modifyStream_streams_self]
      exact absent.symm
    · rw [modifyStream_streams_of_ne world same]
  receiving := by
    rw [World.receiving, World.receiving, Registry.mk.injEq]
    refine ⟨rfl, ?_⟩
    funext item
    by_cases same : item.1 = stream
    · have absent := (detached item.2).2
      rw [← same] at absent ⊢
      rw [modifyStream_streams_self]
      exact absent.symm
    · rw [modifyStream_streams_of_ne world same]

/-! ## The directory of the peers -/

namespace PeerWorld

def directory (state : PeerWorld) :
    Directory PeerId UniqueStreamId StreamPtr where
  members := fun peer => (state.peers peer).allStreams
  index := fun peer => (state.peers peer).usidStreams
  owner := state.peerOf
  name := fun stream => (state.world.streams stream).usid

/-- The directory reads the tables, the peers and the unique ids. -/
theorem directory_congr
    {state next : PeerWorld} (peers : next.peers = state.peers)
    (peerOf : ∀ stream, next.peerOf stream = state.peerOf stream)
    (usid :
      ∀ stream,
        (next.world.streams stream).usid =
          (state.world.streams stream).usid) :
    next.directory = state.directory := by
  simp only [directory, peers, usid, funext peerOf]

private theorem modifyLink_peerOf
    (state : PeerWorld) (stream : StreamPtr)
    {change : PeerStream → PeerStream}
    (keeps : ∀ link, (change link).peer = link.peer)
    (other : StreamPtr) :
    (state.modifyLink stream change).peerOf other =
      state.peerOf other := by
  dsimp only [peerOf, modifyLink]
  by_cases same : other = stream
  · subst other
    rw [Function.update_self]
    cases state.links stream with
    | none =>
        rfl
    | some link =>
        exact keeps link
  · rw [Function.update_of_ne same]

theorem modifyLink_isSome
    (state : PeerWorld) (stream : StreamPtr)
    (change : PeerStream → PeerStream) (other : StreamPtr) :
    ((state.modifyLink stream change).links other).isSome =
      (state.links other).isSome := by
  dsimp only [modifyLink]
  by_cases same : other = stream
  · subst other
    rw [Function.update_self, Option.isSome_map]
  · rw [Function.update_of_ne same]

/-- The links may have changed, but none lost or got another peer. -/
structure SameLinks (state next : PeerWorld) : Prop where
  world : next.world = state.world
  peers : next.peers = state.peers
  peerOf : ∀ stream, next.peerOf stream = state.peerOf stream
  born :
    ∀ stream, (next.links stream).isSome = (state.links stream).isSome

namespace SameLinks

theorem refl (state : PeerWorld) : SameLinks state state :=
  ⟨rfl, rfl, fun _ => rfl, fun _ => rfl⟩

theorem trans
    {state middle next : PeerWorld} (first : SameLinks state middle)
    (second : SameLinks middle next) :
    SameLinks state next where
  world := second.world.trans first.world
  peers := second.peers.trans first.peers
  peerOf := fun stream =>
    (second.peerOf stream).trans (first.peerOf stream)
  born := fun stream => (second.born stream).trans (first.born stream)

theorem modifyLink
    (state : PeerWorld) (stream : StreamPtr)
    (change : PeerStream → PeerStream)
    (keeps : ∀ link, (change link).peer = link.peer) :
    SameLinks state (state.modifyLink stream change) where
  world := rfl
  peers := rfl
  peerOf := modifyLink_peerOf state stream keeps
  born := modifyLink_isSome state stream change

theorem directory
    {state next : PeerWorld} (same : SameLinks state next) :
    next.directory = state.directory :=
  directory_congr same.peers same.peerOf fun _ => by rw [same.world]

theorem openSubstream
    (state : PeerWorld) (parent : StreamPtr) (channel : ChannelPtr)
    (newStream : StreamPtr) :
    SameLinks state (state.openSubstream parent channel newStream) := by
  unfold PeerWorld.openSubstream
  split
  · exact modifyLink state newStream _ fun _ => rfl
  · refine SameLinks.trans ?_ (modifyLink _ parent _ fun _ => rfl)
    exact modifyLink state newStream _ fun _ => rfl

theorem resetSubstreams (state : PeerWorld) (stream : StreamPtr) :
    SameLinks state (state.resetSubstreams stream) := by
  unfold PeerWorld.resetSubstreams
  refine SameLinks.trans ?_ (modifyLink _ stream _ fun _ => rfl)
  exact
    List.foldlRecOn _ _ (refl state)
      fun reached same substream _ =>
        same.trans
          (modifyLink reached substream PeerStream.disconnect
            fun _ => rfl)

end SameLinks

/-- A field that the change of one peer leaves alone. -/
theorem update_peers_field
    {β : Type} (field : StreamPeer → β) (peers : PeerId → StreamPeer)
    (peer : PeerId) {value : StreamPeer}
    (same : field value = field (peers peer)) (other : PeerId) :
    field (Function.update peers peer value other) =
      field (peers other) := by
  by_cases equal : other = peer
  · subst other
    rw [Function.update_self, same]
  · rw [Function.update_of_ne equal]

/-- A new stream starts without anything but the sizes that it inherits. -/
theorem createStream_made
    {env : Env} {state next : PeerWorld} {stream : StreamPtr}
    {identity : ByteCodec.Bytes} {parent : Option StreamPtr}
    (returned :
      state.createStream env stream identity parent = some next) :
    state.links stream = none ∧
      ∃ peer buffers,
        PeerId.ofIdentity identity = some peer ∧
          next =
            { state with
              world :=
                state.world.modifyStream stream fun _ =>
                  { BaseStream.create with parent := parent }
              links :=
                Function.update state.links stream
                  (some
                    (PeerStream.create peer (parent.bind state.links)
                      buffers))
              peers :=
                Function.update state.peers peer
                  ((state.peers peer).insertStream stream) } := by
  unfold createStream at returned
  rw [guard_bind_eq_some_iff, bind_eq_some_iff] at returned
  obtain ⟨unborn, peer, known, returned⟩ := returned
  rw [bind_eq_some_iff] at returned
  obtain ⟨buffers, _, returned⟩ := returned
  cases returned
  exact ⟨Option.isNone_iff_eq_none.mp unborn, peer, buffers, known, rfl⟩

/-- A new stream is made for a peer exactly when its buffers can be. -/
theorem createStream_isSome_iff
    (env : Env) {state : PeerWorld} {stream : StreamPtr}
    (unborn : state.links stream = none) (peer : PeerId)
    (parent : Option StreamPtr) :
    (state.createStream env stream peer.val parent).isSome ↔
      (StoredBuffers.construct env.mtu
        ((parent.bind state.links).map PeerStream.buffers)).isSome := by
  unfold createStream
  rw [guard_bind_of_holds (Option.isNone_iff_eq_none.mpr unborn),
    PeerId.ofIdentity_val, Option.bind_eq_bind, Option.bind_some]
  dsimp only
  cases StoredBuffers.construct env.mtu
      ((parent.bind state.links).map PeerStream.buffers) with
  | none =>
      exact Iff.rfl
  | some buffers =>
      exact iff_of_true rfl rfl

theorem createStream_eq_some
    {env : Env} {state next : PeerWorld} {stream : StreamPtr}
    {identity : ByteCodec.Bytes} {parent : Option StreamPtr}
    (returned :
      state.createStream env stream identity parent = some next) :
    state.links stream = none ∧
      ∃ peer link,
        PeerId.ofIdentity identity = some peer ∧
          link.peer = some peer ∧
          next =
            { state with
              world :=
                state.world.modifyStream stream fun _ =>
                  { BaseStream.create with parent := parent }
              links := Function.update state.links stream (some link)
              peers :=
                Function.update state.peers peer
                  ((state.peers peer).insertStream stream) } := by
  obtain ⟨unborn, peer, buffers, known, made⟩ := createStream_made returned
  exact
    ⟨unborn, peer, PeerStream.create peer (parent.bind state.links) buffers,
      known, rfl, made⟩

private theorem createStream_directory
    {env : Env} {state next : PeerWorld} {stream : StreamPtr}
    {identity : ByteCodec.Bytes} {parent : Option StreamPtr}
    (returned :
      state.createStream env stream identity parent = some next) :
    ∃ peer,
      PeerId.ofIdentity identity = some peer ∧
        next.directory =
          (state.directory.rename stream ⟨0, []⟩).join peer stream := by
  obtain ⟨_, peer, link, known, linked, created⟩ :=
    createStream_eq_some returned
  refine ⟨peer, known, ?_⟩
  subst next
  rw [directory, Directory.join, Directory.rename, Directory.mk.injEq]
  refine ⟨?_, ?_, ?_, ?_⟩
  · funext other
    exact
      Function.apply_update (fun _ => StreamPeer.allStreams) state.peers
        peer _ other
  · funext other
    refine
      update_peers_field StreamPeer.usidStreams state.peers peer ?_ other
    rfl
  · funext other
    dsimp only [peerOf]
    rw [Function.apply_update (fun _ entry => Option.bind entry
      PeerStream.peer)]
    dsimp only [Option.bind]
    rw [linked]
    rfl
  · funext other
    dsimp only [World.modifyStream]
    rw [Function.apply_update (fun _ => BaseStream.usid)]
    rfl

theorem setUsid_eq_some
    {state next : PeerWorld} {stream : StreamPtr}
    {newUsid : UniqueStreamId}
    (returned : state.setUsid stream newUsid = some next) :
    (state.world.streams stream).usid.isEmpty = true ∧
      newUsid.isEmpty = false ∧
      ∃ peer,
        state.peerOf stream = some peer ∧
          next =
            { state with
              world :=
                state.world.modifyStream stream fun entry =>
                  { entry with usid := newUsid }
              peers :=
                Function.update state.peers peer
                  ((state.peers peer).insertUsid newUsid stream) } := by
  unfold setUsid at returned
  rw [guard_bind_eq_some_iff, guard_bind_eq_some_iff,
    bind_eq_some_iff] at returned
  obtain ⟨unnamed, given, peer, owned, returned⟩ := returned
  cases returned
  exact ⟨unnamed, eq_false_of_ne_true given, peer, owned, rfl⟩

private theorem setUsid_directory
    {state next : PeerWorld} {stream : StreamPtr}
    {newUsid : UniqueStreamId}
    (returned : state.setUsid stream newUsid = some next) :
    ∃ peer,
      state.directory.owner stream = some peer ∧
        next.directory =
          state.directory.enlist peer stream newUsid := by
  obtain ⟨_, _, peer, owned, named⟩ := setUsid_eq_some returned
  refine ⟨peer, owned, ?_⟩
  subst next
  rw [directory, Directory.enlist, Directory.mk.injEq]
  refine ⟨?_, ?_, rfl, ?_⟩
  · funext other
    refine
      update_peers_field StreamPeer.allStreams state.peers peer ?_ other
    rfl
  · funext other
    exact
      Function.apply_update (fun _ => StreamPeer.usidStreams) state.peers
        peer _ other
  · funext other
    exact
      Function.apply_update (fun _ => BaseStream.usid)
        state.world.streams stream _ other

private theorem deregister_directory
    (state : PeerWorld) (stream : StreamPtr) :
    (state.deregister stream).directory =
      state.directory.leave stream := by
  unfold deregister Directory.leave
  have owner : state.directory.owner stream = state.peerOf stream := rfl
  rw [owner]
  cases owned : state.peerOf stream with
  | none =>
      rfl
  | some peer =>
      dsimp only
      rw [directory, Directory.mk.injEq]
      refine ⟨?_, ?_, ?_, rfl⟩
      · funext other
        exact
          Function.apply_update (fun _ => StreamPeer.allStreams)
            state.peers peer _ other
      · funext other
        exact
          Function.apply_update (fun _ => StreamPeer.usidStreams)
            state.peers peer _ other
      · funext other
        dsimp only [peerOf, modifyLink, modifyPeer]
        rw [Function.apply_update (fun _ entry => Option.bind entry
          PeerStream.peer)]
        have forgotten :
            ((state.links stream).map fun link =>
              { link with peer := none }).bind PeerStream.peer = none := by
          cases state.links stream with
          | none =>
              rfl
          | some link =>
              rfl
        rw [forgotten]
        rfl

/-! ## What holds in every state reached -/

structure Sound (state : PeerWorld) : Prop where
  directory : state.directory.Sound
  named :
    ∀ peer, ∀ entry ∈ (state.peers peer).usidStreams,
      entry.1.isEmpty = false
  roots :
    ∀ channel root, (state.world.channels channel).root = some root →
      (state.links root).isSome ∧ state.directory.Unlisted root
  idle : Idle state.world
  unborn :
    ∀ stream, state.links stream = none → state.world.Detached stream

theorem Sound.create
    {world : World} (initial : world.Initial)
    (noRoots : ∀ channel, (world.channels channel).root = none) :
    (PeerWorld.create world).Sound where
  directory :=
    Directory.Sound.of_empty (fun _ => rfl) (fun _ => rfl) fun _ => rfl
  named := fun _ _ member => absurd member List.not_mem_nil
  roots := by
    intro channel root rooted
    dsimp only [PeerWorld.create] at rooted
    rw [noRoots] at rooted
    cases rooted
  idle := Idle.of_initial initial
  unborn := by
    intro stream _ slot
    obtain ⟨detached, rxDetached, _⟩ := initial.streams stream
    simp [PeerWorld.create, World.transmitting, World.receiving, detached,
      rxDetached]

/-- A stream without unique id is not enlisted. -/
theorem Sound.unlisted_of_empty
    {state : PeerWorld} (sound : state.Sound) {stream : StreamPtr}
    (unnamed : (state.world.streams stream).usid.isEmpty = true) :
    state.directory.Unlisted stream := by
  intro peer entry member same
  have isNamed := (sound.directory.indexed peer entry member).2
  rw [same] at isNamed
  have notEmpty := sound.named peer entry member
  rw [← isNamed] at notEmpty
  exact absurd unnamed (Bool.eq_false_iff.mp notEmpty)

/-- A change of the streams and channels that leaves the names alone and
attaches no stream that does not exist. -/
theorem Sound.withWorld
    {state : PeerWorld} (sound : state.Sound) {next : World}
    (idle : Idle next) (names : SameNames state.world next)
    (detached :
      ∀ stream, state.links stream = none →
        state.world.Detached stream → next.Detached stream) :
    { state with world := next }.Sound := by
  have same :
      ({ state with world := next } : PeerWorld).directory =
        state.directory :=
    directory_congr rfl (fun _ => rfl) names.usid
  refine ⟨?_, sound.named, ?_, idle, ?_⟩
  · rw [same]
    exact sound.directory
  · intro channel root rooted
    rw [names.roots.root] at rooted
    rw [same]
    exact sound.roots channel root rooted
  · intro stream absent
    exact detached stream absent (sound.unborn stream absent)

private theorem links_eq_none_of_born
    {state next : PeerWorld} {stream : StreamPtr}
    (born :
      (next.links stream).isSome = (state.links stream).isSome)
    (absent : next.links stream = none) :
    state.links stream = none := by
  rw [absent] at born
  exact
    Option.isNone_iff_eq_none.mp (Option.isSome_eq_false_iff.mp born.symm)

theorem Sound.sameLinks
    {state next : PeerWorld} (sound : state.Sound)
    (same : SameLinks state next) : next.Sound := by
  refine ⟨?_, ?_, ?_, ?_, ?_⟩
  · rw [same.directory]
    exact sound.directory
  · rw [same.peers]
    exact sound.named
  · intro channel root rooted
    rw [same.world] at rooted
    rw [same.directory, same.born]
    exact sound.roots channel root rooted
  · rw [same.world]
    exact sound.idle
  · intro stream absent
    rw [same.world]
    exact
      sound.unborn stream (links_eq_none_of_born (same.born stream) absent)

/-- A stream that does not exist is no root. -/
theorem Sound.not_root_of_unborn
    {state : PeerWorld} (sound : state.Sound) {stream : StreamPtr}
    (absent : state.links stream = none) (channel : ChannelPtr) :
    (state.world.channels channel).root ≠ some stream := by
  intro rooted
  have born := (sound.roots channel stream rooted).1
  rw [absent] at born
  cases born

theorem createStream_unnamed
    {env : Env} {state next : PeerWorld} {stream : StreamPtr}
    {identity : ByteCodec.Bytes} {parent : Option StreamPtr}
    (returned :
      state.createStream env stream identity parent = some next) :
    (next.world.streams stream).usid.isEmpty = true := by
  obtain ⟨_, _, _, _, _, created⟩ := createStream_eq_some returned
  rw [created]
  dsimp only
  rw [modifyStream_streams_self]
  rfl

private theorem Sound.createStream_not_root
    {env : Env} {state next : PeerWorld} (sound : state.Sound)
    {stream : StreamPtr}
    {identity : ByteCodec.Bytes} {parent : Option StreamPtr}
    (returned :
      state.createStream env stream identity parent = some next)
    (channel : ChannelPtr) :
    (next.world.channels channel).root ≠ some stream := by
  obtain ⟨absent, _, _, _, _, created⟩ := createStream_eq_some returned
  rw [created]
  exact sound.not_root_of_unborn absent channel

theorem Sound.createStream
    {env : Env} {state next : PeerWorld} (sound : state.Sound)
    {stream : StreamPtr}
    {identity : ByteCodec.Bytes} {parent : Option StreamPtr}
    (returned :
      state.createStream env stream identity parent = some next) :
    next.Sound := by
  obtain ⟨peer, _, joined⟩ := createStream_directory returned
  obtain ⟨absent, _, link, _, _, created⟩ := createStream_eq_some returned
  have ownerless : state.directory.owner stream = none := by
    simp [PeerWorld.directory, peerOf, absent]
  have unlisted := sound.directory.unlisted_of_ownerless ownerless
  have same :=
    sameAttachments_recreate (sound.unborn stream absent) parent
  refine ⟨?_, ?_, ?_, ?_, ?_⟩
  · rw [joined]
    exact (sound.directory.rename unlisted _).join ownerless peer
  · intro other entry member
    have listed : entry ∈ next.directory.index other := member
    rw [joined] at listed
    exact sound.named other entry listed
  · intro channel root rooted
    rw [joined]
    rw [created] at rooted ⊢
    obtain ⟨born, rootUnlisted⟩ := sound.roots channel root rooted
    refine ⟨?_, rootUnlisted⟩
    have different : root ≠ stream := by
      intro sameStream
      rw [sameStream] at rooted
      exact sound.not_root_of_unborn absent channel rooted
    dsimp only
    rw [Function.update_of_ne different]
    exact born
  · rw [created]
    exact sound.idle.modifyStream same
  · intro other unborn
    rw [created] at unborn ⊢
    dsimp only at unborn ⊢
    have different : other ≠ stream := by
      intro sameStream
      rw [sameStream, Function.update_self] at unborn
      cases unborn
    rw [Function.update_of_ne different] at unborn
    exact (sound.unborn other unborn).same same

theorem Sound.setUsid
    {state next : PeerWorld} (sound : state.Sound) {stream : StreamPtr}
    {newUsid : UniqueStreamId}
    (notRoot :
      ∀ channel, (state.world.channels channel).root ≠ some stream)
    (returned : state.setUsid stream newUsid = some next) :
    next.Sound := by
  obtain ⟨peer, owned, enlisted⟩ := setUsid_directory returned
  obtain ⟨unnamed, given, _, _, named⟩ := setUsid_eq_some returned
  have unlisted := sound.unlisted_of_empty unnamed
  have same := sameAttachments_rename state.world stream newUsid
  refine ⟨?_, ?_, ?_, ?_, ?_⟩
  · rw [enlisted]
    exact sound.directory.enlist owned unlisted newUsid
  · intro other entry member
    have listed : entry ∈ next.directory.index other := member
    rw [enlisted] at listed
    rcases Directory.mem_enlist_index listed with ⟨_, isNew⟩ | old
    · rw [isNew]
      exact given
    · exact sound.named other entry old
  · intro channel root rooted
    rw [named] at rooted ⊢
    obtain ⟨born, rootUnlisted⟩ := sound.roots channel root rooted
    refine ⟨born, ?_⟩
    rw [← named, enlisted]
    intro other entry member
    rcases Directory.mem_enlist_index member with ⟨_, isNew⟩ | old
    · rw [isNew]
      intro sameStream
      rw [← sameStream] at rooted
      exact notRoot channel rooted
    · exact rootUnlisted other entry old
  · rw [named]
    exact sound.idle.modifyStream same
  · intro other unborn
    rw [named] at unborn ⊢
    exact (sound.unborn other unborn).same same

/-- The first stream of a channel, which has no unique id yet, becomes its
root. -/
theorem Sound.construct
    {env : Env} {state next : PeerWorld} (sound : state.Sound)
    {channel : ChannelPtr} {root : StreamPtr}
    {identity : ByteCodec.Bytes}
    (returned : state.construct env channel root identity = some next) :
    next.Sound := by
  unfold PeerWorld.construct at returned
  rw [bind_eq_some_iff] at returned
  obtain ⟨created, isCreated, returned⟩ := returned
  rw [bind_eq_some_iff] at returned
  obtain ⟨world, constructed, returned⟩ := returned
  cases returned
  have createdSound := sound.createStream isCreated
  have unlisted :=
    createdSound.unlisted_of_empty (createStream_unnamed isCreated)
  obtain ⟨_, _, link, _, _, made⟩ := createStream_eq_some isCreated
  have born : (created.links root).isSome := by
    rw [made]
    dsimp only
    rw [Function.update_self]
    rfl
  refine Sound.sameLinks ?_ (SameLinks.modifyLink _ root _ fun _ => rfl)
  obtain ⟨entered, rxEntered, _⟩ := construct_enters constructed
  have names := SameNames.construct constructed
  have same :
      ({ created with world := world } : PeerWorld).directory =
        created.directory :=
    directory_congr rfl (fun _ => rfl) names.usid
  refine ⟨?_, createdSound.named, ?_, ?_, ?_⟩
  · rw [same]
    exact createdSound.directory
  · intro other otherRoot rooted
    rw [same]
    rw [names.roots.root] at rooted
    by_cases sameChannel : other = channel
    · subst other
      rw [modifyChannel_channels_self] at rooted
      cases rooted
      exact ⟨born, unlisted⟩
    · rw [modifyChannel_channels_of_ne _ sameChannel] at rooted
      exact createdSound.roots other otherRoot rooted
  · refine Idle.same ?_ (createdSound.idle.consistent.construct constructed)
      names
    exact createdSound.idle.withRoot channel root
  · intro other unborn slot
    have different : (other, slot) ≠ (root, Slot.first) := by
      intro sameSlot
      rw [(Prod.mk.inj sameSlot).1] at unborn
      rw [unborn] at born
      cases born
    rw [entered, rxEntered]
    dsimp only [Registry.enter]
    rw [Function.update_of_ne different, Function.update_of_ne different]
    exact createdSound.unborn other unborn slot

/-- The unique id of a stream may change as long as it is not enlisted. -/
theorem Sound.rename
    {state : PeerWorld} (sound : state.Sound) {stream : StreamPtr}
    (unlisted : state.directory.Unlisted stream) (usid : UniqueStreamId) :
    { state with
      world :=
        state.world.modifyStream stream fun entry =>
          { entry with usid := usid } }.Sound := by
  have renamed :
      ({ state with
        world :=
          state.world.modifyStream stream fun entry =>
            { entry with usid := usid } } : PeerWorld).directory =
        state.directory.rename stream usid := by
    rw [PeerWorld.directory, Directory.rename, Directory.mk.injEq]
    refine ⟨rfl, rfl, rfl, ?_⟩
    funext other
    exact
      Function.apply_update (fun _ => BaseStream.usid)
        state.world.streams stream _ other
  have same := sameAttachments_rename state.world stream usid
  refine ⟨?_, sound.named, ?_, ?_, ?_⟩
  · rw [renamed]
    exact sound.directory.rename unlisted usid
  · intro channel root rooted
    rw [renamed]
    exact sound.roots channel root rooted
  · exact sound.idle.modifyStream same
  · intro other unborn
    exact (sound.unborn other unborn).same same

/-- Nothing is in line when a channel starts, so that only the unique id of
its root changes. -/
theorem Sound.start
    {env : Env} {state next : PeerWorld} (sound : state.Sound)
    {channel : ChannelPtr} {initiate : Bool}
    (returned : state.start env channel initiate = some next) :
    next.Sound := by
  unfold PeerWorld.start at returned
  rw [bind_eq_some_iff] at returned
  obtain ⟨world, started, returned⟩ := returned
  cases returned
  obtain ⟨middle, root, usid, transmitted, rooted, named⟩ :=
    start_eq_some started
  have names :=
    SameNames.modifyChannel state.world channel
      (fun entry => { entry with active := true }) rfl rfl rfl
  have silent :
      ((state.world.modifyChannel channel fun entry =>
        { entry with active := true }).channels channel).sendingStreams =
          [] :=
    names.noLine channel (sound.idle.noLine channel)
  rw [gotReadyTransmit, silent] at transmitted
  cases transmitted
  have settles :=
    Settles.of_sameAttachments sound.idle
      (SameAttachments.modifyChannel state.world channel
        (fun entry => { entry with active := true }) rfl rfl)
      names
  have active :=
    sound.withWorld settles.idle settles.names fun stream _ detached =>
      settles.detached stream detached
  rw [named]
  exact active.rename (active.roots channel root rooted).2 usid

theorem ackCall_eq_some
    {state next : PeerWorld} {channel : ChannelPtr}
    {call : Channel.AckCall}
    (returned : state.ackCall channel call = some next) :
    next =
      { state with
        acks :=
          Function.update state.acks channel
            (call.apply (state.acks channel)) } := by
  unfold ackCall at returned
  rw [guard_bind_eq_some_iff] at returned
  obtain ⟨_, returned⟩ := returned
  cases returned
  rfl

theorem rxSubstream_eq_some
    {env : Env} {state next : PeerWorld} {parent newStream : StreamPtr}
    {pktseq : PacketSeq} {channel : ChannelPtr} {sid : LocalStreamId}
    {slot : Slot} {usid : UniqueStreamId} {result : Option StreamPtr}
    (returned :
      state.rxSubstream env parent pktseq channel sid slot usid
          newStream =
        some (result, next)) :
    ∃ link,
      state.links parent = some link ∧
        (link.isListening = false ∧ result = none ∧
            state.acknowledge channel pktseq false = some next ∨
          link.isListening = true ∧ result = some newStream ∧
            ∃ acknowledged created named world,
              state.acknowledge channel pktseq true =
                some acknowledged ∧
              acknowledged.createStream env newStream link.peerId.val
                  (some parent) =
                some created ∧
              (created.receiveSid channel sid).setUsid newStream usid =
                some named ∧
              named.world.rxSetActive newStream slot channel sid pktseq =
                some world ∧
              next =
                { named with world := world }.openSubstream parent channel
                  newStream) := by
  unfold rxSubstream at returned
  rw [bind_eq_some_iff] at returned
  obtain ⟨link, linked, returned⟩ := returned
  refine ⟨link, linked, ?_⟩
  split at returned
  · next refused =>
      rw [bind_eq_some_iff] at returned
      obtain ⟨acknowledged, isAcknowledged, returned⟩ := returned
      cases returned
      exact Or.inl ⟨eq_false_of_ne_true refused, rfl, isAcknowledged⟩
  · next listening =>
      rw [bind_eq_some_iff] at returned
      obtain ⟨acknowledged, isAcknowledged, returned⟩ := returned
      rw [bind_eq_some_iff] at returned
      obtain ⟨created, isCreated, returned⟩ := returned
      dsimp only at returned
      rw [bind_eq_some_iff] at returned
      obtain ⟨named, isNamed, returned⟩ := returned
      rw [bind_eq_some_iff] at returned
      obtain ⟨world, attached, returned⟩ := returned
      cases returned
      exact Or.inr ⟨not_not.mp listening, rfl, acknowledged, created,
        named, world, isAcknowledged, isCreated, isNamed, attached, rfl⟩

theorem SameLinks.ackCall
    {state next : PeerWorld} {channel : ChannelPtr}
    {call : Channel.AckCall}
    (returned : state.ackCall channel call = some next) :
    SameLinks state next := by
  rw [ackCall_eq_some returned]
  exact ⟨rfl, rfl, fun _ => rfl, fun _ => rfl⟩

theorem Sound.acknowledge
    {state next : PeerWorld} (sound : state.Sound)
    {channel : ChannelPtr} {pktseq : PacketSeq} {sendAck : Bool}
    (returned : state.acknowledge channel pktseq sendAck = some next) :
    next.Sound :=
  sound.sameLinks (SameLinks.ackCall returned)

theorem Sound.setReceiveBufferSize
    {env : Env} {state next : PeerWorld} (sound : state.Sound)
    {stream : StreamPtr} {size : UInt64}
    (returned :
      state.setReceiveBufferSize env stream size = some next) :
    next.Sound := by
  unfold PeerWorld.setReceiveBufferSize at returned
  rw [guard_bind_eq_some_iff] at returned
  obtain ⟨_, returned⟩ := returned
  cases returned
  exact sound.sameLinks (SameLinks.modifyLink state stream _ fun _ => rfl)

theorem Sound.setChildReceiveBufferSize
    {env : Env} {state next : PeerWorld} (sound : state.Sound)
    {stream : StreamPtr} {size : UInt64}
    (returned :
      state.setChildReceiveBufferSize env stream size = some next) :
    next.Sound := by
  unfold PeerWorld.setChildReceiveBufferSize at returned
  rw [guard_bind_eq_some_iff] at returned
  obtain ⟨_, returned⟩ := returned
  cases returned
  exact sound.sameLinks (SameLinks.modifyLink state stream _ fun _ => rfl)

theorem Sound.receiveSid
    {state : PeerWorld} (sound : state.Sound) (channel : ChannelPtr)
    (sid : LocalStreamId) :
    (state.receiveSid channel sid).Sound :=
  ⟨sound.directory, sound.named, sound.roots, sound.idle, sound.unborn⟩

/-- A stream that exists is attached. -/
theorem Sound.rxSetActive
    {state : PeerWorld} (sound : state.Sound) {stream : StreamPtr}
    (born : (state.links stream).isSome) {slot : Slot}
    {channel : ChannelPtr} {sid : LocalStreamId} {rxseq : PacketSeq}
    {next : World}
    (attached :
      state.world.rxSetActive stream slot channel sid rxseq = some next) :
    { state with world := next }.Sound := by
  have names := SameNames.rxSetActive attached
  obtain ⟨_, _, entered, kept⟩ := rxSetActive_enters attached
  refine
    sound.withWorld
      (sound.idle.same (sound.idle.consistent.rxSetActive attached) names)
      names ?_
  intro other unborn detached otherSlot
  have different : (other, otherSlot) ≠ (stream, slot) := by
    intro same
    rw [← (Prod.mk.inj same).1, unborn] at born
    cases born
  rw [entered, kept]
  dsimp only [Registry.enter]
  rw [Function.update_of_ne different]
  exact detached otherSlot

theorem Sound.rxSubstream
    {env : Env} {state next : PeerWorld} (sound : state.Sound)
    {parent newStream : StreamPtr} {pktseq : PacketSeq}
    {channel : ChannelPtr} {sid : LocalStreamId} {slot : Slot}
    {usid : UniqueStreamId} {result : Option StreamPtr}
    (returned :
      state.rxSubstream env parent pktseq channel sid slot usid
          newStream =
        some (result, next)) :
    next.Sound := by
  obtain ⟨link, _, cases⟩ := rxSubstream_eq_some returned
  rcases cases with
    ⟨_, _, refused⟩ |
      ⟨_, _, _, created, named, world, isAcknowledged, isCreated, isNamed,
        attached, opened⟩
  · exact sound.acknowledge refused
  · have acknowledged := sound.acknowledge isAcknowledged
    have createdSound := acknowledged.createStream isCreated
    have notRoot := acknowledged.createStream_not_root isCreated
    have namedSound :=
      (createdSound.receiveSid channel sid).setUsid notRoot isNamed
    have born : (named.links newStream).isSome := by
      obtain ⟨_, _, _, _, withUsid⟩ := setUsid_eq_some isNamed
      obtain ⟨_, _, _, _, _, made⟩ := createStream_eq_some isCreated
      rw [withUsid, made]
      simp [PeerWorld.receiveSid]
    rw [opened]
    exact
      (namedSound.rxSetActive born attached).sameLinks
        (SameLinks.openSubstream _ parent channel newStream)

/-! ## Clearing -/

theorem deregister_links
    (state : PeerWorld) (stream other : StreamPtr) :
    ((state.deregister stream).links other).isSome =
      (state.links other).isSome := by
  unfold deregister
  split
  · rfl
  · exact modifyLink_isSome _ stream _ other

private theorem deregister_world (state : PeerWorld) (stream : StreamPtr) :
    (state.deregister stream).world = state.world := by
  unfold deregister
  split
  · rfl
  · rfl

theorem Sound.deregister
    {state : PeerWorld} (sound : state.Sound) (stream : StreamPtr) :
    (state.deregister stream).Sound := by
  have left := deregister_directory state stream
  have born := deregister_links state stream
  have world := deregister_world state stream
  have kept :
      ∀ peer, ∀ entry ∈ (state.deregister stream).directory.index peer,
        entry ∈ state.directory.index peer := by
    intro peer entry member
    rw [left] at member
    exact (Directory.mem_leave_index sound.directory member).1
  refine ⟨?_, ?_, ?_, ?_, ?_⟩
  · rw [left]
    exact sound.directory.leave stream
  · intro peer entry member
    exact sound.named peer entry (kept peer entry member)
  · intro channel root rooted
    rw [world] at rooted
    obtain ⟨rootBorn, unlisted⟩ := sound.roots channel root rooted
    rw [born]
    refine ⟨rootBorn, ?_⟩
    intro peer entry member
    exact unlisted peer entry (kept peer entry member)
  · rw [world]
    exact sound.idle
  · intro other absent
    rw [world]
    exact sound.unborn other (links_eq_none_of_born (born other) absent)

/-- A stream that exists is cleared and has left the directory then. -/
theorem Sound.clear_returns
    {state : PeerWorld} (env : Env) (sound : state.Sound)
    {stream : StreamPtr} (born : (state.links stream).isSome) :
    ∃ next,
      PeerWorld.clear env state stream = some next ∧
        next.Sound ∧
        next.directory = state.directory.leave stream ∧
        ∀ other,
          (next.links other).isSome = (state.links other).isSome := by
  let ended :=
    state.modifyLink stream fun link =>
      { link with state := .disconnected, endRead := true }
  have endedSame : SameLinks state ended :=
    SameLinks.modifyLink state stream _ fun _ => rfl
  let closed : PeerWorld :=
    { ended with
      world :=
        ended.world.modifyStream stream fun entry =>
          { entry with endWrite := true } }
  have endedSound : ended.Sound := sound.sameLinks endedSame
  have closes : Settles ended.world closed.world :=
    endedSound.idle.endWrite_settles stream
  have closedSound : closed.Sound :=
    endedSound.withWorld closes.idle closes.names fun other _ =>
      closes.detached other
  have leftSound := closedSound.deregister stream
  obtain ⟨world, cleared, settles⟩ :=
    leftSound.idle.clearAttachments_settles env stream
  have clearedSound :=
    leftSound.withWorld settles.idle settles.names fun other _ =>
      settles.detached other
  have reset :=
    SameLinks.resetSubstreams
      { closed.deregister stream with world := world } stream
  refine ⟨_, ?_, clearedSound.sameLinks reset, ?_, ?_⟩
  · unfold PeerWorld.clear
    rw [guard_bind_eq_some_iff]
    refine ⟨born, ?_⟩
    dsimp only
    rw [bind_eq_some_iff]
    exact ⟨world, cleared, rfl⟩
  · rw [reset.directory]
    have sameCleared :
        ({ closed.deregister stream with world := world } :
            PeerWorld).directory =
          (closed.deregister stream).directory :=
      directory_congr rfl (fun _ => rfl) settles.names.usid
    have sameClosed : closed.directory = ended.directory :=
      directory_congr rfl (fun _ => rfl) closes.names.usid
    rw [sameCleared, deregister_directory, sameClosed,
      endedSame.directory]
  · intro other
    rw [reset.born]
    exact
      (deregister_links closed stream other).trans (endedSame.born other)

theorem Sound.clear
    {env : Env} {state next : PeerWorld} (sound : state.Sound)
    {stream : StreamPtr}
    (returned : state.clear env stream = some next) :
    next.Sound := by
  have born : (state.links stream).isSome := by
    unfold PeerWorld.clear at returned
    exact (guard_bind_eq_some_iff.mp returned).1
  obtain ⟨cleared, isCleared, clearedSound, _⟩ :=
    sound.clear_returns env born
  rw [returned] at isCleared
  cases isCleared
  exact clearedSound

theorem Sound.step
    {env : Env} {state next : PeerWorld} {call : PeerCall}
    (sound : state.Sound) (taken : PeerStep env state call next) :
    next.Sound := by
  obtain ⟨notOnRoot, returned⟩ := taken
  cases call with
  | createStream stream identity parent =>
      exact sound.createStream returned
  | setUsid stream newUsid =>
      exact sound.setUsid notOnRoot returned
  | construct channel root identity =>
      exact sound.construct returned
  | start channel initiate =>
      exact sound.start returned
  | setReceiveBufferSize stream size =>
      exact sound.setReceiveBufferSize returned
  | setChildReceiveBufferSize stream size =>
      exact sound.setChildReceiveBufferSize returned
  | ackCall channel call =>
      exact sound.sameLinks (SameLinks.ackCall returned)
  | rxSubstream parent pktseq channel sid slot usid newStream =>
      obtain ⟨⟨result, after⟩, received, same⟩ :=
        Option.map_eq_some_iff.mp returned
      subst same
      exact sound.rxSubstream received
  | clear stream =>
      exact sound.clear returned

/-- Clear the streams of a list that exist, one after the other. -/
theorem Sound.clears_return
    {state : PeerWorld} (env : Env) (sound : state.Sound)
    {streams : List StreamPtr}
    (born : ∀ stream ∈ streams, (state.links stream).isSome) :
    ∃ next,
      streams.foldlM (PeerWorld.clear env) state = some next ∧
        next.directory = streams.foldl Directory.leave state.directory := by
  induction streams generalizing state with
  | nil =>
      exact ⟨state, rfl, rfl⟩
  | cons stream streams inductionHypothesis =>
      obtain ⟨middle, cleared, middleSound, left, kept⟩ :=
        sound.clear_returns env (born stream List.mem_cons_self)
      have stillBorn :
          ∀ other ∈ streams, (middle.links other).isSome := by
        intro other member
        rw [kept]
        exact born other (List.mem_cons_of_mem stream member)
      obtain ⟨next, folded, allLeft⟩ :=
        inductionHypothesis middleSound stillBorn
      refine ⟨next, ?_, ?_⟩
      · rw [List.foldlM_cons, bind_eq_some_iff]
        exact ⟨middle, cleared, folded⟩
      · rw [allLeft, left, List.foldl_cons]

/-- The destructor of a peer gets through its assertions. -/
theorem Sound.destroyPeer_returns
    {state : PeerWorld} (env : Env) (sound : state.Sound)
    (peer : PeerId) :
    ∃ next,
      state.destroyPeer env peer = some next ∧
        (next.peers peer).allStreams = [] ∧
        (next.peers peer).usidStreams = [] := by
  have copied :=
    env.iteratePerm state.world.clock (state.peers peer).allStreams
  have born :
      ∀ stream ∈ env.iterate state.world.clock
          (state.peers peer).allStreams,
        (state.links stream).isSome := by
    intro stream member
    have owned : state.peerOf stream = some peer :=
      (sound.directory.member_iff peer stream).mp
        (copied.mem_iff.mp member)
    obtain ⟨link, linked, _⟩ := Option.bind_eq_some_iff.mp owned
    rw [linked]
    rfl
  obtain ⟨next, folded, left⟩ := sound.clears_return env born
  have empty :=
    sound.directory.leaveAll_empty fun stream member =>
      copied.mem_iff.mpr member
  rw [← left] at empty
  obtain ⟨noStreams, noUsids⟩ := empty
  refine ⟨next, ?_, noStreams, noUsids⟩
  unfold destroyPeer
  dsimp only
  rw [bind_eq_some_iff]
  refine ⟨next, folded, ?_⟩
  rw [guard_bind_eq_some_iff, guard_bind_eq_some_iff]
  exact ⟨List.isEmpty_iff.mpr noStreams, List.isEmpty_iff.mpr noUsids, rfl⟩

end PeerWorld

/-- In every state reached, the streams that a peer has registered by id
have that id and are members of the peer, every stream with a peer is one of
its members, and the destructor of the peer clears all of them and finds
its tables empty. -/
theorem peer_registry_consistent
    {env : Env} {start : World} {state : PeerWorld}
    {calls : List PeerCall} (initial : start.Initial)
    (noRoots : ∀ channel, (start.channels channel).root = none)
    (run : PeerRun env (PeerWorld.create start) calls state)
    (peer : PeerId) :
    (∀ entry ∈ (state.peers peer).usidStreams,
      (state.world.streams entry.2).usid = entry.1 ∧
        entry.2 ∈ (state.peers peer).allStreams ∧
        state.peerOf entry.2 = some peer) ∧
      (∀ stream, state.peerOf stream = some peer →
        stream ∈ (state.peers peer).allStreams) ∧
      ∃ next,
        state.destroyPeer env peer = some next ∧
          (next.peers peer).allStreams = [] ∧
          (next.peers peer).usidStreams = [] := by
  have sound : state.Sound :=
    run.induct (fun _ reached => reached.Sound)
      (PeerWorld.Sound.create initial noRoots)
      fun _ _ _ _ _ before taken => before.step taken
  refine ⟨?_, ?_, sound.destroyPeer_returns env peer⟩
  · intro entry member
    obtain ⟨owned, named⟩ := sound.directory.indexed peer entry member
    exact ⟨named, (sound.directory.member_iff peer entry.2).mpr owned,
      owned⟩
  · intro stream owned
    exact (sound.directory.member_iff peer stream).mpr owned

/-- A stream has a unique id, a substream comes in with the same one, and
the first stream is cleared. -/
def sharedUsidCalls : List PeerCall :=
  [.createStream 5 [7] none, .setUsid 5 ⟨5, [9]⟩, .construct 0 0 [7],
    .start 0 true, .rxSubstream 0 2 0 1 .first ⟨5, [9]⟩ 1, .clear 5]

theorem peer_registry_consistent_with_shared_usid :
    ∃ state next,
      PeerRun (Env.constant true)
          (PeerWorld.create (World.create [1] [2])) sharedUsidCalls
          state ∧
        (state.peers ⟨[7], nofun⟩).allStreams = [1, 0] ∧
        (state.peers ⟨[7], nofun⟩).usidStreams = [] ∧
        (state.world.streams 1).usid = ⟨5, [9]⟩ ∧
        state.destroyPeer (Env.constant true) ⟨[7], nofun⟩ = some next ∧
        (next.peers ⟨[7], nofun⟩).allStreams = [] := by
  have run :
      PeerRun (Env.constant true)
        (PeerWorld.create (World.create [1] [2])) sharedUsidCalls _ :=
    Run.snoc _
      (Run.snoc _
        (Run.snoc _
          (Run.snoc _
            (Run.snoc _ (Run.snoc _ Run.refl ⟨trivial, rfl⟩)
              ⟨fun _ => nofun, rfl⟩)
            ⟨trivial, rfl⟩)
          ⟨trivial, rfl⟩)
        ⟨trivial, rfl⟩)
      ⟨trivial, rfl⟩
  obtain ⟨_, _, next, destroyed, noStreams, _⟩ :=
    peer_registry_consistent (create_initial [1] [2]) (fun _ => rfl) run
      ⟨[7], nofun⟩
  exact ⟨_, next, run, rfl, rfl, rfl, destroyed, noStreams⟩

end StructuredStreams.Stream
