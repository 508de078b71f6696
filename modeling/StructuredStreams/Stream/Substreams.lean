import StructuredStreams.Stream.PeerRegistry

/-!
# Substreams that the other side opens

The number and the unique id of a substream come from the other side, and
`rx_substream` looks neither of them up.  A number that the channel has in
its table already fails the assertion of the attachment, when the stream has
been created and entered with its peer.  An id that is registered stays with
the stream that has it, and the new stream is not found under it.  Before
that, the acknowledgment of the packet needs a stream on the channel if it
goes out at once, and the constructor of the new stream a positive buffer
size.  The tables are kept exactly when nothing of this fails.
-/

namespace StructuredStreams.Stream

open World

private theorem StreamPeer.subset_insertUsid
    (peer : StreamPeer) (usid : UniqueStreamId) (stream : StreamPtr) :
    peer.usidStreams ⊆ (peer.insertUsid usid stream).usidStreams := by
  intro entry member
  unfold StreamPeer.insertUsid
  dsimp only
  split
  · exact member
  · exact List.mem_cons_of_mem _ member

namespace PeerWorld

/-- The entries of `receive_sids_` are attachments to the channel under
their number. -/
def ReceiveSidsMatch (state : PeerWorld) (channel : ChannelPtr) : Prop :=
  ∀ entry ∈ (state.world.channels channel).receiveSids,
    ((state.world.streams entry.2.1).rxAttachments entry.2.2).channel =
        some channel ∧
      ((state.world.streams entry.2.1).rxAttachments entry.2.2).streamId =
        entry.1

/-- Memory that holds no stream and that no table names. -/
structure Fresh (state : PeerWorld) (stream : StreamPtr) : Prop where
  unborn : state.links stream = none
  notReceiving :
    ∀ channel, ∀ entry ∈ (state.world.channels channel).receiveSids,
      entry.2.1 ≠ stream
  unlisted : state.directory.Unlisted stream

/-- Every entry of a table is still there. -/
structure Retains (state next : PeerWorld) : Prop where
  receiveSids :
    ∀ channel,
      (state.world.channels channel).receiveSids ⊆
        (next.world.channels channel).receiveSids
  usidStreams :
    ∀ peer, (state.peers peer).usidStreams ⊆ (next.peers peer).usidStreams
  allStreams :
    ∀ peer, (state.peers peer).allStreams ⊆ (next.peers peer).allStreams

/-- The stream is new and is the one that the tables have under the number
and under the id. -/
structure Registers
    (state : PeerWorld) (channel : ChannelPtr) (sid : LocalStreamId)
    (slot : Slot) (usid : UniqueStreamId) (stream : StreamPtr)
    (next : PeerWorld) : Prop where
  isNew : state.links stream = none
  received :
    (next.world.channels channel).receiveSids.lookup sid =
      some (stream, slot)
  named :
    ∃ peer,
      next.peerOf stream = some peer ∧
        (next.peers peer).usidStreams.lookup usid = some stream
  retains : state.Retains next
  receiveSidsMatch : next.ReceiveSidsMatch channel

/-- What `rx_substream` has to do: refuse the stream and leave the tables
alone, or register it. -/
def KeepsTables
    (state : PeerWorld) (channel : ChannelPtr) (sid : LocalStreamId)
    (slot : Slot) (usid : UniqueStreamId) :
    (outcome : Option (Option StreamPtr × PeerWorld)) → Prop
  | none => False
  | some (none, next) =>
      next.peers = state.peers ∧
        ∀ other,
          (next.world.channels other).receiveSids =
            (state.world.channels other).receiveSids
  | some (some stream, next) =>
      state.Registers channel sid slot usid stream next

/-- Nothing that `rx_substream` relies on without looking is missing: both
ids are free, an acknowledgment that goes out at once finds a stream, and the
size that the new stream inherits is not negative. -/
structure Unhindered
    (state : PeerWorld) (link : PeerStream) (channel : ChannelPtr)
    (pktseq : PacketSeq) (sid : LocalStreamId) (usid : UniqueStreamId) :
    Prop where
  sid : (state.world.channels channel).receiveSids.lookup sid = none
  usid : (state.peers link.peerId).usidStreams.lookup usid = none
  acknowledges :
    (state.acks channel).SendsAck pktseq →
      (state.world.ackAttachment channel
        (state.world.channels channel).ackSid).isSome
  size : 0 ≤ link.buffers.childReceiveBufSize

section Incoming

variable {env : Env} {state : PeerWorld} {parent newStream : StreamPtr}
  {link : PeerStream} {pktseq : PacketSeq} {channel : ChannelPtr}
  {sid : LocalStreamId} {slot : Slot} {usid : UniqueStreamId}

/-- The peer of the new stream, with the stream in its tables. -/
def peerWith
    (state : PeerWorld) (peer : PeerId) (usid : UniqueStreamId)
    (newStream : StreamPtr) : StreamPeer :=
  ((state.peers peer).insertStream newStream).insertUsid usid newStream

/-- The acknowledgment of the packet gets through exactly when it finds a
stream or does not go out at once. -/
theorem acknowledge_isSome_iff :
    (state.acknowledge channel pktseq true).isSome ↔
      ((state.acks channel).SendsAck pktseq →
        (state.world.ackAttachment channel
          (state.world.channels channel).ackSid).isSome) := by
  have quiet :=
    (state.acks channel).acknowledge_acksSent_eq_iff pktseq
  have finds :
      (state.world.transmitAck channel
          (state.world.channels channel).ackSid).isSome ↔
        (state.world.ackAttachment channel
          (state.world.channels channel).ackSid).isSome := by
    unfold World.transmitAck
    cases state.world.ackAttachment channel
        (state.world.channels channel).ackSid with
    | none =>
        exact Iff.rfl
    | some attach =>
        exact iff_of_true rfl rfl
  unfold PeerWorld.acknowledge ackCall
  rw [guard_bind_isSome_iff, finds, imp_iff_not_or, ← quiet]
  exact and_iff_left rfl

private theorem setUsid_returns
    {stream : StreamPtr} {peer : PeerId}
    (unnamed : (state.world.streams stream).usid.isEmpty = true)
    (given : usid.isEmpty = false)
    (owned : state.peerOf stream = some peer) :
    ∃ next, state.setUsid stream usid = some next := by
  unfold setUsid
  rw [guard_bind_of_holds unnamed,
    guard_bind_of_holds (Bool.eq_false_iff.mp given), owned]
  exact ⟨_, rfl⟩

/-- The state in which the attachment of the new stream is made. -/
theorem registered_eq
    {acknowledged created named : PeerWorld}
    (isAcknowledged :
      state.acknowledge channel pktseq true = some acknowledged)
    (isCreated :
      acknowledged.createStream env newStream link.peerId.val
        (some parent) = some created)
    (isNamed :
      (created.receiveSid channel sid).setUsid newStream usid =
        some named) :
    named.world.channels = state.world.channels ∧
      (∀ other, other ≠ newStream →
        named.world.streams other = state.world.streams other) ∧
      (named.world.streams newStream).rxAttachments =
        BaseStream.create.rxAttachments ∧
      named.peerOf newStream = some link.peerId ∧
      named.peers =
        Function.update state.peers link.peerId
          (state.peerWith link.peerId usid newStream) := by
  have sameState := ackCall_eq_some isAcknowledged
  subst sameState
  obtain ⟨_, peer, newLink, known, linked, made⟩ :=
    createStream_eq_some isCreated
  rw [PeerId.ofIdentity_val, Option.some.injEq] at known
  subst peer
  obtain ⟨_, _, peer, owned, withUsid⟩ := setUsid_eq_some isNamed
  have ownedBy : peer = link.peerId := by
    rw [made] at owned
    simp only [peerOf, receiveSid, Function.update_self,
      Option.bind_some, linked, Option.some.injEq] at owned
    exact owned.symm
  subst ownedBy
  rw [withUsid, made]
  refine ⟨rfl, ?_, ?_, ?_, ?_⟩
  · intro other different
    simp only [receiveSid, modifyStream_streams_of_ne _ different]
  · simp only [receiveSid, modifyStream_streams_self]
  · simp only [peerOf, receiveSid, Function.update_self,
      Option.bind_some, linked]
  · simp only [receiveSid, Function.update_self, Function.update_idem]
    rfl

/-- The packet is acknowledged and the new stream created. -/
theorem createStream_of_unhindered
    (small : (minReceiveBufferSize env.mtu : Int) ≤ defaultRxBufferSize)
    (linked : state.links parent = some link)
    (unborn : state.links newStream = none)
    (unhindered : state.Unhindered link channel pktseq sid usid) :
    ∃ acknowledged created,
      state.acknowledge channel pktseq true = some acknowledged ∧
        acknowledged.createStream env newStream link.peerId.val
            (some parent) =
          some created := by
  obtain ⟨acknowledged, isAcknowledged⟩ :=
    Option.isSome_iff_exists.mp
      (acknowledge_isSome_iff.mpr unhindered.acknowledges)
  have sameLinks : acknowledged.links = state.links := by
    rw [ackCall_eq_some isAcknowledged]
  have constructs :
      (StoredBuffers.construct env.mtu
        (((some parent).bind acknowledged.links).map
          PeerStream.buffers)).isSome := by
    rw [sameLinks, Option.bind_some, linked, Option.map_some,
      StoredBuffers.construct_isSome_iff env.mtuPositive small]
    exact unhindered.size
  have absent : acknowledged.links newStream = none := by
    rw [sameLinks]
    exact unborn
  obtain ⟨created, isCreated⟩ :=
    Option.isSome_iff_exists.mp
      ((createStream_isSome_iff env absent link.peerId (some parent)).mpr
        constructs)
  exact ⟨acknowledged, created, isAcknowledged, isCreated⟩

/-- Where nothing is in the way, `rx_substream` gets through. -/
theorem rxSubstream_returns
    (small : (minReceiveBufferSize env.mtu : Int) ≤ defaultRxBufferSize)
    (linked : state.links parent = some link)
    (listening : link.isListening = true)
    (unborn : state.links newStream = none)
    (given : usid.isEmpty = false)
    (unhindered : state.Unhindered link channel pktseq sid usid) :
    ∃ next,
      state.rxSubstream env parent pktseq channel sid slot usid
          newStream =
        some (some newStream, next) := by
  obtain ⟨acknowledged, created, isAcknowledged, isCreated⟩ :=
    createStream_of_unhindered small linked unborn unhindered
  obtain ⟨_, peer, newLink, _, ownedBy, made⟩ :=
    createStream_eq_some isCreated
  have unnamed :
      ((created.receiveSid channel sid).world.streams
        newStream).usid.isEmpty = true := by
    have named := createStream_unnamed isCreated
    exact named
  have owned :
      (created.receiveSid channel sid).peerOf newStream = some peer := by
    rw [made]
    simp only [peerOf, receiveSid, Function.update_self,
      Option.bind_some, ownedBy]
  obtain ⟨named, isNamed⟩ := setUsid_returns unnamed given owned
  obtain ⟨sameChannels, _, unattached, _⟩ :=
    registered_eq isAcknowledged isCreated isNamed
  obtain ⟨world, attached⟩ :
      ∃ world,
        named.world.rxSetActive newStream slot channel sid pktseq =
          some world := by
    unfold rxSetActive
    rw [unattached, sameChannels, unhindered.sid]
    exact ⟨_, rfl⟩
  refine ⟨{ named with world := world }.openSubstream parent channel
    newStream, ?_⟩
  unfold rxSubstream
  rw [linked]
  have notRefused : ¬ ¬ link.isListening = true := not_not.mpr listening
  simp only [Option.bind_eq_bind, Option.bind_some, notRefused, if_false,
    isAcknowledged, isCreated, isNamed, attached]
  rfl

/-- The size that a new stream inherits from a parent is not negative. -/
theorem size_of_created
    (small : (minReceiveBufferSize env.mtu : Int) ≤ defaultRxBufferSize)
    (linked : state.links parent = some link)
    {created : PeerWorld}
    (isCreated :
      state.createStream env newStream link.peerId.val (some parent) =
        some created) :
    0 ≤ link.buffers.childReceiveBufSize := by
  have unborn := (createStream_eq_some isCreated).1
  have creates :=
    createStream_isSome_iff env unborn link.peerId (some parent)
  rw [isCreated, Option.bind_some, linked, Option.map_some,
    StoredBuffers.construct_isSome_iff env.mtuPositive small] at creates
  exact creates.mp rfl

/-- What `rx_substream` has done where it got through. -/
theorem rxSubstream_accepts
    {stream : StreamPtr} {next : PeerWorld}
    (linked : state.links parent = some link)
    (returned :
      state.rxSubstream env parent pktseq channel sid slot usid
          newStream =
        some (some stream, next)) :
    stream = newStream ∧
      (state.world.channels channel).receiveSids.lookup sid = none ∧
      next.world.channels =
        (state.world.modifyChannel channel fun entry =>
          { entry with
            receiveSids :=
              (sid, newStream, slot) :: entry.receiveSids }).channels ∧
      (∀ other, other ≠ newStream →
        (next.world.streams other).rxAttachments =
          (state.world.streams other).rxAttachments) ∧
      (next.world.streams newStream).rxAttachments slot =
        ⟨some channel, sid, pktseq⟩ ∧
      next.peerOf newStream = some link.peerId ∧
      next.peers =
        Function.update state.peers link.peerId
          (state.peerWith link.peerId usid newStream) := by
  obtain ⟨parentLink, parentLinked, outcome⟩ :=
    rxSubstream_eq_some returned
  rw [linked, Option.some.injEq] at parentLinked
  subst parentLink
  rcases outcome with
    ⟨_, refused, _⟩ |
      ⟨_, accepted, acknowledged, created, named, world, isAcknowledged,
        isCreated, isNamed, attached, opened⟩
  · cases refused
  · obtain ⟨sameChannels, sameStreams, _, owned, peers⟩ :=
      registered_eq isAcknowledged isCreated isNamed
    obtain ⟨_, free, attaching⟩ := rxSetActive_eq_some attached
    have sameLinks :=
      SameLinks.openSubstream { named with world := world } parent channel
        newStream
    rw [← opened] at sameLinks
    rw [sameChannels] at free
    refine ⟨Option.some.inj accepted, free, ?_, ?_, ?_, ?_, ?_⟩
    · rw [sameLinks.world, attaching]
      dsimp only [World.modifyChannel, World.modifyStream]
      rw [sameChannels]
    · intro other different
      rw [sameLinks.world, attaching, modifyChannel_streams,
        modifyStream_streams_of_ne _ different, sameStreams other different]
    · rw [sameLinks.world, attaching, modifyChannel_streams,
        modifyStream_streams_self]
      exact Function.update_self _ _ _
    · exact (sameLinks.peerOf newStream).trans owned
    · exact sameLinks.peers.trans peers

/-- Where `rx_substream` got through, its assertions held. -/
theorem rxSubstream_passes
    {stream : StreamPtr} {next : PeerWorld}
    (small : (minReceiveBufferSize env.mtu : Int) ≤ defaultRxBufferSize)
    (linked : state.links parent = some link)
    (returned :
      state.rxSubstream env parent pktseq channel sid slot usid
          newStream =
        some (some stream, next)) :
    ((state.acks channel).SendsAck pktseq →
        (state.world.ackAttachment channel
          (state.world.channels channel).ackSid).isSome) ∧
      0 ≤ link.buffers.childReceiveBufSize := by
  obtain ⟨parentLink, parentLinked, outcome⟩ :=
    rxSubstream_eq_some returned
  rw [linked, Option.some.injEq] at parentLinked
  subst parentLink
  rcases outcome with
    ⟨_, refused, _⟩ |
      ⟨_, _, acknowledged, created, _, _, isAcknowledged, isCreated, _⟩
  · cases refused
  · have stillLinked : acknowledged.links parent = some link := by
      rw [ackCall_eq_some isAcknowledged]
      exact linked
    refine
      ⟨acknowledge_isSome_iff.mp ?_,
        size_of_created small stillLinked isCreated⟩
    rw [isAcknowledged]
    rfl

/-! ## When the tables are kept -/

/-- An id that is registered is not given to the new stream. -/
theorem lookup_peerWith_of_registered
    {peer : PeerId} {other : StreamPtr}
    (found : (state.peers peer).usidStreams.lookup usid = some other) :
    (state.peerWith peer usid newStream).usidStreams.lookup usid =
      some other := by
  simp [peerWith, StreamPeer.insertUsid, StreamPeer.insertStream, found]

private theorem lookup_peerWith_of_free
    {peer : PeerId}
    (free : (state.peers peer).usidStreams.lookup usid = none) :
    (state.peerWith peer usid newStream).usidStreams.lookup usid =
      some newStream := by
  simp [peerWith, StreamPeer.insertUsid, StreamPeer.insertStream, free]

/-- Registering a stream takes nothing out of the tables. -/
theorem retains_of_accepts
    {next : PeerWorld} {peer : PeerId}
    (channels :
      next.world.channels =
        (state.world.modifyChannel channel fun entry =>
          { entry with
            receiveSids :=
              (sid, newStream, slot) :: entry.receiveSids }).channels)
    (peers :
      next.peers =
        Function.update state.peers peer
          (state.peerWith peer usid newStream)) :
    state.Retains next where
  receiveSids := by
    intro other entry member
    rw [channels]
    by_cases same : other = channel
    · subst other
      rw [modifyChannel_channels_self]
      exact List.mem_cons_of_mem _ member
    · rw [modifyChannel_channels_of_ne _ same]
      exact member
  usidStreams := by
    intro other entry member
    rw [peers]
    by_cases same : other = peer
    · subst other
      rw [Function.update_self]
      exact
        StreamPeer.subset_insertUsid
          ((state.peers peer).insertStream newStream) usid newStream member
    · rw [Function.update_of_ne same]
      exact member
  allStreams := by
    intro other stream member
    rw [peers]
    by_cases same : other = peer
    · subst other
      rw [Function.update_self]
      exact List.mem_insert_of_mem member
    · rw [Function.update_of_ne same]
      exact member

/-- The entries that were in the table are attachments of other streams. -/
theorem receiveSidsMatch_of_accepts
    {next : PeerWorld} (fresh : state.Fresh newStream)
    (matched : state.ReceiveSidsMatch channel)
    (channels :
      next.world.channels =
        (state.world.modifyChannel channel fun entry =>
          { entry with
            receiveSids :=
              (sid, newStream, slot) :: entry.receiveSids }).channels)
    (kept :
      ∀ other, other ≠ newStream →
        (next.world.streams other).rxAttachments =
          (state.world.streams other).rxAttachments)
    (attached :
      (next.world.streams newStream).rxAttachments slot =
        ⟨some channel, sid, pktseq⟩) :
    next.ReceiveSidsMatch channel := by
  intro entry member
  rw [channels, modifyChannel_channels_self] at member
  rcases List.mem_cons.mp member with isNew | old
  · rw [isNew, attached]
    exact ⟨rfl, rfl⟩
  · rw [kept entry.2.1 (fresh.notReceiving channel entry old)]
    exact matched entry old

/-- A listening stream does not refuse. -/
theorem rxSubstream_result
    {result : Option StreamPtr} {next : PeerWorld}
    (linked : state.links parent = some link)
    (listening : link.isListening = true)
    (returned :
      state.rxSubstream env parent pktseq channel sid slot usid
          newStream =
        some (result, next)) :
    result = some newStream := by
  obtain ⟨parentLink, parentLinked, outcome⟩ :=
    rxSubstream_eq_some returned
  rw [linked, Option.some.injEq] at parentLinked
  subst parentLink
  rcases outcome with ⟨refuses, _⟩ | ⟨_, accepted, _⟩
  · rw [listening] at refuses
    cases refuses
  · exact accepted

/-- A stream that is found under its id has taken it from no other. -/
theorem Registers.usid_free
    {next : PeerWorld}
    (registered : state.Registers channel sid slot usid newStream next)
    (fresh : state.Fresh newStream)
    (owned : next.peerOf newStream = some link.peerId)
    (peers :
      next.peers =
        Function.update state.peers link.peerId
          (state.peerWith link.peerId usid newStream)) :
    (state.peers link.peerId).usidStreams.lookup usid = none := by
  obtain ⟨peer, ownedBy, found⟩ := registered.named
  rw [owned, Option.some.injEq] at ownedBy
  subst peer
  rw [peers, Function.update_self] at found
  cases taken : (state.peers link.peerId).usidStreams.lookup usid with
  | none =>
      rfl
  | some other =>
      rw [lookup_peerWith_of_registered taken, Option.some.injEq] at found
      have member := mem_of_lookup_eq_some taken
      exact absurd found (fresh.unlisted link.peerId _ member)

/-- A listening stream keeps the tables when the other side opens a
substream exactly when nothing is in the way. -/
theorem keepsTables_iff_unhindered
    (small : (minReceiveBufferSize env.mtu : Int) ≤ defaultRxBufferSize)
    (linked : state.links parent = some link)
    (listening : link.isListening = true)
    (fresh : state.Fresh newStream)
    (matched : state.ReceiveSidsMatch channel)
    (given : usid.isEmpty = false) :
    state.KeepsTables channel sid slot usid
        (state.rxSubstream env parent pktseq channel sid slot usid
          newStream) ↔
      state.Unhindered link channel pktseq sid usid := by
  constructor
  · intro kept
    cases returned :
        state.rxSubstream env parent pktseq channel sid slot usid
          newStream with
    | none =>
        rw [returned] at kept
        exact kept.elim
    | some outcome =>
        obtain ⟨result, next⟩ := outcome
        have accepted := rxSubstream_result linked listening returned
        subst result
        rw [returned] at kept
        obtain ⟨_, free, _, _, _, owned, peers⟩ :=
          rxSubstream_accepts linked returned
        obtain ⟨acknowledges, size⟩ :=
          rxSubstream_passes small linked returned
        exact
          ⟨free, Registers.usid_free kept fresh owned peers, acknowledges,
            size⟩
  · intro unhindered
    obtain ⟨next, returned⟩ :=
      rxSubstream_returns small linked listening fresh.unborn given
        unhindered
    obtain ⟨_, _, channels, kept, attached, owned, peers⟩ :=
      rxSubstream_accepts linked returned
    rw [returned]
    refine ⟨fresh.unborn, ?_, ⟨link.peerId, owned, ?_⟩, ?_, ?_⟩
    · rw [channels, modifyChannel_channels_self]
      exact List.lookup_cons_self
    · rw [peers, Function.update_self]
      exact lookup_peerWith_of_free unhindered.usid
    · exact retains_of_accepts channels peers
    · exact
        receiveSidsMatch_of_accepts fresh matched channels kept attached

end Incoming

/-- In a state that is reached, no table names a stream that does not
exist. -/
theorem Sound.fresh
    {state : PeerWorld} (sound : state.Sound) {stream : StreamPtr}
    (unborn : state.links stream = none) : state.Fresh stream where
  unborn := unborn
  notReceiving := by
    intro channel entry member same
    have placed :=
      (sound.idle.consistent.receiving.entry_iff channel entry.1
        entry.2).mp member
    have absent := (sound.unborn stream unborn entry.2.2).2
    rw [← same] at absent
    rw [absent] at placed
    cases placed
  unlisted := by
    apply sound.directory.unlisted_of_ownerless
    simp [PeerWorld.directory, peerOf, unborn]

private theorem Sound.receiveSidsMatch
    {state : PeerWorld} (sound : state.Sound) (channel : ChannelPtr) :
    state.ReceiveSidsMatch channel := by
  intro entry member
  exact
    rxPlace_eq_some_iff.mp
      ((sound.idle.consistent.receiving.entry_iff channel entry.1
        entry.2).mp member)

/-- Before any channel is constructed. -/
def nothingConstructed : PeerWorld :=
  create (World.create [1] [2])

/-- A new channel to a peer, whose root listens. -/
def channelToPeer : PeerWorld :=
  (nothingConstructed.construct (Env.constant true) 0 0 [7]).getD
    nothingConstructed

private theorem channelToPeer_sound : channelToPeer.Sound := by
  have sound : nothingConstructed.Sound :=
    Sound.create (create_initial [1] [2]) fun _ => rfl
  have constructed :
      nothingConstructed.construct (Env.constant true) 0 0 [7] =
        some channelToPeer := rfl
  exact sound.construct constructed

theorem keepsTables_of_first_substream :
    channelToPeer.KeepsTables 0 1 .first ⟨1, [2]⟩
      (channelToPeer.rxSubstream (Env.constant true) 0 2 0 1 .first
        ⟨1, [2]⟩ 1) := by
  have sound := channelToPeer_sound
  refine
    (keepsTables_iff_unhindered (by decide) rfl rfl (sound.fresh rfl)
      (sound.receiveSidsMatch 0) rfl).mpr ?_
  exact ⟨rfl, rfl, fun _ => rfl, by decide⟩

/-- The number of the root fails an assertion, and a second substream with
the same unique id is not found under it.  A negative size for substreams
fails one, too, and so does the acknowledgment where the root has left. -/
theorem colliding_substream_not_kept :
    (∃ link,
      channelToPeer.links 0 = some link ∧ link.isListening = true) ∧
      channelToPeer.Fresh 1 ∧
      channelToPeer.ReceiveSidsMatch 0 ∧
      ¬ channelToPeer.KeepsTables 0 0 .first ⟨1, [2]⟩
        (channelToPeer.rxSubstream (Env.constant true) 0 2 0 0 .first
          ⟨1, [2]⟩ 1) ∧
      (∃ next,
        channelToPeer.rxSubstream (Env.constant true) 0 2 0 1 .first
              ⟨1, [2]⟩ 1 =
            some (some 1, next) ∧
          next.Fresh 2 ∧
          next.ReceiveSidsMatch 0 ∧
          ¬ next.KeepsTables 0 2 .first ⟨1, [2]⟩
            (next.rxSubstream (Env.constant true) 0 3 0 2 .first
              ⟨1, [2]⟩ 2)) ∧
      (∃ resized,
        channelToPeer.setChildReceiveBufferSize (Env.constant true) 0
              0x80000000 =
            some resized ∧
          ¬ resized.KeepsTables 0 1 .first ⟨1, [2]⟩
            (resized.rxSubstream (Env.constant true) 0 2 0 1 .first
              ⟨1, [2]⟩ 1)) ∧
      ∃ cleared,
        channelToPeer.clear (Env.constant true) 0 = some cleared ∧
          ¬ cleared.KeepsTables 0 1 .first ⟨1, [2]⟩
            (cleared.rxSubstream (Env.constant true) 0 2 0 1 .first
              ⟨1, [2]⟩ 1) := by
  have sound := channelToPeer_sound
  obtain ⟨next, returned⟩ :
      ∃ next,
        channelToPeer.rxSubstream (Env.constant true) 0 2 0 1 .first
            ⟨1, [2]⟩ 1 =
          some (some 1, next) := ⟨_, rfl⟩
  have nextSound := sound.rxSubstream returned
  refine ⟨⟨_, rfl, rfl⟩, sound.fresh rfl, sound.receiveSidsMatch 0, id,
    ⟨next, returned, ?_, nextSound.receiveSidsMatch 0, ?_⟩,
    ⟨_, rfl, id⟩, ⟨_, rfl, id⟩⟩
  · apply nextSound.fresh
    cases returned
    rfl
  · cases returned
    intro kept
    obtain ⟨peer, owned, found⟩ := kept.named
    cases owned
    cases found

end PeerWorld

end StructuredStreams.Stream
