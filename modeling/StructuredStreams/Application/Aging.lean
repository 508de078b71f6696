import Mathlib.Logic.Relation
import StructuredStreams.Application.Outcomes
import StructuredStreams.Stream.PeerRegistry

/-!
# What the calls of the peers do to base streams

Whatever is called on the peers, the streams that exist go on existing, none
of them begins to wait for a service request, and none but the parent of a
new substream gets a substream to be accepted.
-/

namespace StructuredStreams.Application

open StructuredStreams.Stream (StreamPtr ChannelPtr PacketSeq LocalStreamId
  UniqueStreamId Slot StoredBuffers PeerStream PeerWorld PeerCall World Env)
open Host (receivedSubstreams)
open Relation (ReflTransGen)

/-- What becomes of a stream that exists, but for new substreams of it. -/
structure Worn (link later : PeerStream) : Prop where
  state : later.state = link.state ∨ later.state = .disconnected
  peerId : later.peerId = link.peerId
  endRead : link.endRead = true → later.endRead = true
  waiting : later.receivedSubstreams.Sublist link.receivedSubstreams

/-- What a call of the peers writes, but for what opens a substream. -/
inductive LinkWrite (state next : PeerWorld) : Prop
  | elsewhere (same : next.links = state.links)
  | creates
      (base : StreamPtr) (link : PeerStream)
      (unborn : state.links base = none) (settled : link.state ≠ .accepting)
      (empty : link.receivedSubstreams = [])
      (links : next.links = Function.update state.links base (some link))
  | changes
      (base : StreamPtr) (change : PeerStream → PeerStream)
      (worn : ∀ link, Worn link (change link))
      (links : next.links = (state.modifyLink base change).links)

abbrev LinkWrites : PeerWorld → PeerWorld → Prop :=
  ReflTransGen LinkWrite

/-- A new stream starts without anything. -/
theorem createStream_links
    {env : Env} {state next : PeerWorld} {base : StreamPtr}
    {identity : ByteCodec.Bytes} {parent : Option StreamPtr}
    (returned :
      state.createStream env base identity parent = some next) :
    state.links base = none ∧
      ∃ peer buffers,
        next.links =
          Function.update state.links base
            (some
              (PeerStream.create peer (parent.bind state.links)
                buffers)) := by
  obtain ⟨unborn, peer, buffers, _, made⟩ :=
    PeerWorld.createStream_made returned
  rw [made]
  exact ⟨unborn, peer, buffers, rfl⟩

namespace LinkWrites

theorem elsewhere
    {state next : PeerWorld} (same : next.links = state.links) :
    LinkWrites state next :=
  ReflTransGen.single (LinkWrite.elsewhere same)

theorem withWorld
    {state next : PeerWorld} (writes : LinkWrites state next)
    (world : World) :
    LinkWrites state { next with world := world } :=
  writes.trans (elsewhere rfl)

theorem modifyLink
    (state : PeerWorld) (base : StreamPtr)
    {change : PeerStream → PeerStream}
    (worn : ∀ link, Worn link (change link)) :
    LinkWrites state (state.modifyLink base change) :=
  ReflTransGen.single (LinkWrite.changes base change worn rfl)

theorem createStream
    {env : Env} {state next : PeerWorld} {base : StreamPtr}
    {identity : ByteCodec.Bytes} {parent : Option StreamPtr}
    (returned :
      state.createStream env base identity parent = some next) :
    LinkWrites state next := by
  obtain ⟨unborn, peer, buffers, links⟩ := createStream_links returned
  refine
    ReflTransGen.single (LinkWrite.creates base _ unborn ?_ rfl links)
  intro accepting
  cases accepting

theorem setUsid
    {state next : PeerWorld} {base : StreamPtr} {newUsid : UniqueStreamId}
    (returned : state.setUsid base newUsid = some next) :
    LinkWrites state next := by
  obtain ⟨_, _, _, _, named⟩ := PeerWorld.setUsid_eq_some returned
  rw [named]
  exact elsewhere rfl

/-- The root is connected before anybody sees it. -/
theorem construct
    {env : Env} {state next : PeerWorld} {channel : ChannelPtr}
    {root : StreamPtr} {identity : ByteCodec.Bytes}
    (returned : state.construct env channel root identity = some next) :
    LinkWrites state next := by
  simp only [PeerWorld.construct, bind_eq_some_iff] at returned
  rcases returned with ⟨created, isCreated, world, _, returned⟩
  cases returned
  obtain ⟨unborn, peer, buffers, links⟩ := createStream_links isCreated
  refine
    ReflTransGen.single
      (LinkWrite.creates root
        { PeerStream.create peer none buffers with
          state := .connected
          listenMode := Stream.ListenMode.unlimited }
        unborn nofun rfl ?_)
  dsimp only [PeerWorld.modifyLink]
  rw [links, Function.update_self, Function.update_idem]
  rfl

theorem start
    {env : Env} {state next : PeerWorld} {channel : ChannelPtr}
    {initiate : Bool}
    (returned : state.start env channel initiate = some next) :
    LinkWrites state next := by
  simp only [PeerWorld.start, bind_eq_some_iff] at returned
  rcases returned with ⟨world, _, returned⟩
  cases returned
  exact elsewhere rfl

/-- Other sizes for the buffers of a stream. -/
theorem resize
    (state : PeerWorld) (base : StreamPtr)
    (change : StoredBuffers → StoredBuffers) :
    LinkWrites state
      (state.modifyLink base fun link =>
        { link with buffers := change link.buffers }) :=
  modifyLink state base fun link =>
    ⟨Or.inl rfl, rfl, id, List.Sublist.refl link.receivedSubstreams⟩

theorem setReceiveBufferSize
    {env : Env} {state next : PeerWorld} {base : StreamPtr}
    {size : UInt64}
    (returned : state.setReceiveBufferSize env base size = some next) :
    LinkWrites state next := by
  rw [PeerWorld.setReceiveBufferSize, guard_bind_eq_some_iff] at returned
  rcases returned with ⟨_, returned⟩
  cases returned
  exact
    resize state base fun buffers =>
      buffers.setReceiveBufferSize env.mtu size

theorem setChildReceiveBufferSize
    {env : Env} {state next : PeerWorld} {base : StreamPtr}
    {size : UInt64}
    (returned :
      state.setChildReceiveBufferSize env base size = some next) :
    LinkWrites state next := by
  rw [PeerWorld.setChildReceiveBufferSize, guard_bind_eq_some_iff]
    at returned
  rcases returned with ⟨_, returned⟩
  cases returned
  exact
    resize state base fun buffers =>
      buffers.setChildReceiveBufferSize env.mtu size

theorem ackCall
    {state next : PeerWorld} {channel : ChannelPtr}
    {call : Channel.AckCall}
    (returned : state.ackCall channel call = some next) :
    LinkWrites state next := by
  rw [PeerWorld.ackCall_eq_some returned]
  exact elsewhere rfl

theorem disconnect (state : PeerWorld) (base : StreamPtr) :
    LinkWrites state (state.modifyLink base PeerStream.disconnect) :=
  modifyLink state base fun link =>
    ⟨Or.inr rfl, rfl, id, List.Sublist.refl link.receivedSubstreams⟩

theorem deregister (state : PeerWorld) (base : StreamPtr) :
    LinkWrites state (state.deregister base) := by
  unfold PeerWorld.deregister
  split
  · exact ReflTransGen.refl
  · next peer _ =>
      have erased :
          LinkWrites state
            (state.modifyPeer peer
              (Stream.StreamPeer.erase (state.world.streams base).usid
                base)) :=
        elsewhere rfl
      refine erased.trans (modifyLink _ base fun link => ?_)
      exact
        ⟨Or.inl rfl, rfl, id, List.Sublist.refl link.receivedSubstreams⟩

theorem resetSubstreams (state : PeerWorld) (base : StreamPtr) :
    LinkWrites state (state.resetSubstreams base) := by
  unfold PeerWorld.resetSubstreams
  refine ReflTransGen.trans ?_ (modifyLink _ base fun link => ?_)
  · exact
      List.foldlRecOn _ _ ReflTransGen.refl
        fun reached writes substream _ =>
          writes.trans (disconnect reached substream)
  · exact
      ⟨Or.inl rfl, rfl, id, List.nil_sublist link.receivedSubstreams⟩

theorem clear
    {env : Env} {state next : PeerWorld} {base : StreamPtr}
    (returned : state.clear env base = some next) :
    LinkWrites state next := by
  simp only [PeerWorld.clear, bind_eq_some_iff, Option.guard_eq_some',
    exists_const] at returned
  rcases returned with ⟨_, world, _, returned⟩
  cases returned
  have disconnected :
      LinkWrites state
        (state.modifyLink base fun link =>
          { link with state := .disconnected, endRead := true }) :=
    modifyLink state base fun link =>
      ⟨Or.inr rfl, rfl, fun _ => rfl,
        List.Sublist.refl link.receivedSubstreams⟩
  exact
    (withWorld ((withWorld disconnected _).trans (deregister _ base))
      world).trans (resetSubstreams _ base)

/-- A packet that opens a substream: it is refused, or a stream is made that
is opened under its parent. -/
theorem rxSubstream_opens
    {env : Env} {state next : PeerWorld} {parent newStream : StreamPtr}
    {pktseq : PacketSeq} {channel : ChannelPtr} {sid : LocalStreamId}
    {slot : Slot} {usid : UniqueStreamId} {result : Option StreamPtr}
    (returned :
      state.rxSubstream env parent pktseq channel sid slot usid
          newStream =
        some (result, next)) :
    result = none ∧ next.links = state.links ∨
      result = some newStream ∧
        ∃ opened,
          LinkWrites state opened ∧
            (state.links parent).isSome ∧
            state.links newStream = none ∧
            (opened.links newStream).isSome ∧
            next = opened.openSubstream parent channel newStream := by
  obtain ⟨link, linked, outcome⟩ := PeerWorld.rxSubstream_eq_some returned
  rcases outcome with
    ⟨_, refused, acknowledges⟩ |
      ⟨_, accepted, _, created, named, world, acknowledges, isCreated,
        isNamed, _, opens⟩
  · left
    rw [PeerWorld.ackCall_eq_some acknowledges]
    exact ⟨refused, rfl⟩
  · right
    have made := (ackCall acknowledges).trans (createStream isCreated)
    have counted : LinkWrites state (created.receiveSid channel sid) :=
      made.trans (elsewhere rfl)
    have writes : LinkWrites state { named with world := world } :=
      withWorld (counted.trans (setUsid isNamed)) world
    obtain ⟨unborn, peer, _, links⟩ := createStream_links isCreated
    rw [PeerWorld.ackCall_eq_some acknowledges] at unborn
    obtain ⟨_, _, _, _, isRenamed⟩ := PeerWorld.setUsid_eq_some isNamed
    refine ⟨accepted, { named with world := world }, writes, ?_, unborn,
      ?_, opens⟩
    · rw [linked]
      rfl
    · change (named.links newStream).isSome
      rw [isRenamed]
      change (created.links newStream).isSome
      rw [links, Function.update_self]
      rfl

theorem peerCall
    {env : Env} {state next : PeerWorld} {call : PeerCall}
    (returned : call.run env state = some next)
    (opensNothing :
      ∀ parent pktseq channel sid slot usid newStream,
        call ≠ .rxSubstream parent pktseq channel sid slot usid newStream) :
    LinkWrites state next := by
  cases call with
  | createStream base identity parent =>
      exact createStream returned
  | setUsid base newUsid =>
      exact setUsid returned
  | construct channel root identity =>
      exact construct returned
  | start channel initiate =>
      exact start returned
  | setReceiveBufferSize base size =>
      exact setReceiveBufferSize returned
  | setChildReceiveBufferSize base size =>
      exact setChildReceiveBufferSize returned
  | ackCall channel call =>
      exact ackCall returned
  | rxSubstream parent pktseq channel sid slot usid newStream =>
      exact absurd rfl (opensNothing _ _ _ _ _ _ _)
  | clear base =>
      exact clear returned

end LinkWrites

/-- Streams may come.  None is destroyed or starts to wait for a service
request. -/
structure Keeps (state next : PeerWorld) : Prop where
  born :
    ∀ base, (state.links base).isSome → (next.links base).isSome
  accepting :
    ∀ base link,
      next.links base = some link → link.state = .accepting →
        ∃ before,
          state.links base = some before ∧ before.state = .accepting

theorem Keeps.trans
    {state middle next : PeerWorld} (first : Keeps state middle)
    (second : Keeps middle next) :
    Keeps state next where
  born := fun base isBorn => second.born base (first.born base isBorn)
  accepting := by
    intro base link linked accepting
    obtain ⟨before, linked, accepting⟩ :=
      second.accepting base link linked accepting
    exact first.accepting base before linked accepting

theorem Keeps.modifyLink
    (state : PeerWorld) (base : StreamPtr)
    {change : PeerStream → PeerStream}
    (keeps :
      ∀ link,
        (change link).state = .accepting → link.state = .accepting) :
    Keeps state (state.modifyLink base change) where
  born := by
    intro other isBorn
    rw [PeerWorld.modifyLink_isSome]
    exact isBorn
  accepting := by
    intro other link linked accepting
    dsimp only [PeerWorld.modifyLink] at linked
    by_cases same : other = base
    · subst other
      rw [Function.update_self, Option.map_eq_some_iff] at linked
      obtain ⟨before, linked, changed⟩ := linked
      subst link
      exact ⟨before, linked, keeps before accepting⟩
    · rw [Function.update_of_ne same] at linked
      exact ⟨link, linked, accepting⟩

/-- Besides, no stream gets another substream to be accepted. -/
structure Ages (state next : PeerWorld) : Prop extends
    Keeps state next where
  waiting :
    ∀ base,
      (receivedSubstreams next base).Sublist (receivedSubstreams state base)

namespace Ages

theorem of_links
    {state next : PeerWorld} (same : next.links = state.links) :
    Ages state next where
  born := by
    intro base isBorn
    rw [same]
    exact isBorn
  accepting := by
    intro base link linked accepting
    rw [same] at linked
    exact ⟨link, linked, accepting⟩
  waiting := by
    intro base
    rw [receivedSubstreams, same]
    exact List.Sublist.refl _

theorem refl (state : PeerWorld) : Ages state state :=
  of_links rfl

theorem trans
    {state middle next : PeerWorld} (first : Ages state middle)
    (second : Ages middle next) :
    Ages state next where
  toKeeps := first.toKeeps.trans second.toKeeps
  waiting := fun base => (second.waiting base).trans (first.waiting base)

theorem withWorld
    {state next : PeerWorld} (ages : Ages state next) (world : World) :
    Ages state { next with world := world } :=
  ages.trans (of_links rfl)

theorem modifyLink
    (state : PeerWorld) (base : StreamPtr)
    {change : PeerStream → PeerStream}
    (keeps :
      ∀ link,
        (change link).state = .accepting → link.state = .accepting)
    (fewer :
      ∀ link,
        (change link).receivedSubstreams.Sublist link.receivedSubstreams) :
    Ages state (state.modifyLink base change) where
  toKeeps := Keeps.modifyLink state base keeps
  waiting := by
    intro other
    dsimp only [receivedSubstreams, PeerWorld.modifyLink]
    by_cases same : other = base
    · subst other
      rw [Function.update_self]
      cases state.links base with
      | none =>
          exact List.Sublist.refl _
      | some link =>
          exact fewer link
    · rw [Function.update_of_ne same]

/-- A change of the state only, to another one than `accepting`. -/
theorem setState
    (state : PeerWorld) (base : StreamPtr)
    {change : PeerStream → PeerStream}
    (notAccepting : ∀ link, (change link).state ≠ .accepting)
    (same :
      ∀ link,
        (change link).receivedSubstreams = link.receivedSubstreams) :
    Ages state (state.modifyLink base change) := by
  refine modifyLink state base ?_ ?_
  · intro link accepting
    exact absurd accepting (notAccepting link)
  · intro link
    rw [same link]

end Ages

theorem Ages.of_write
    {state next : PeerWorld} (write : LinkWrite state next) :
    Ages state next := by
  cases write with
  | elsewhere same =>
      exact Ages.of_links same
  | creates base link unborn settled empty links =>
      refine ⟨⟨?_, ?_⟩, ?_⟩
      · intro other isBorn
        rw [links]
        by_cases same : other = base
        · rw [same, Function.update_self]
          rfl
        · rw [Function.update_of_ne same]
          exact isBorn
      · intro other otherLink linked accepting
        rw [links] at linked
        by_cases same : other = base
        · rw [same, Function.update_self] at linked
          cases linked
          exact absurd accepting settled
        · rw [Function.update_of_ne same] at linked
          exact ⟨otherLink, linked, accepting⟩
      · intro other
        rw [receivedSubstreams, links]
        by_cases same : other = base
        · rw [same, Function.update_self, Option.map_some,
            Option.getD_some, empty]
          exact List.nil_sublist _
        · rw [Function.update_of_ne same]
          exact List.Sublist.refl _
  | changes base change worn links =>
      have changed : Ages state (state.modifyLink base change) := by
        refine Ages.modifyLink state base ?_ fun link => (worn link).waiting
        intro link accepting
        rcases (worn link).state with same | disconnected
        · exact same.symm.trans accepting
        · rw [disconnected] at accepting
          cases accepting
      exact changed.trans (Ages.of_links links)

theorem Ages.of_writes
    {state next : PeerWorld} (writes : LinkWrites state next) :
    Ages state next := by
  induction writes with
  | refl =>
      exact Ages.refl state
  | tail _ write inductionHypothesis =>
      exact inductionHypothesis.trans (Ages.of_write write)

theorem Ages.shutdown
    (state : PeerWorld) (base : StreamPtr)
    (mode : Service.ServiceStream.ShutdownMode) :
    Ages state (state.modifyLink base (shutdownLink mode)) := by
  refine modifyLink state base ?_ ?_
  · intro link accepting
    unfold shutdownLink at accepting
    dsimp only at accepting
    split at accepting
    · cases accepting
    · split at accepting <;> exact accepting
  · intro link
    unfold shutdownLink
    dsimp only
    split
    · exact List.Sublist.refl _
    · split <;> exact List.Sublist.refl _

/-- A stream whose queue is known loses a part of it. -/
theorem Ages.fewer
    {state : PeerWorld} {base : StreamPtr} {link : PeerStream}
    (isLinked : state.links base = some link) {rest : List StreamPtr}
    (shorter : rest.Sublist link.receivedSubstreams) :
    Ages state
      (state.modifyLink base fun link =>
        { link with receivedSubstreams := rest }) where
  toKeeps := Keeps.modifyLink state base fun _ accepting => accepting
  waiting := by
    intro other
    dsimp only [receivedSubstreams, PeerWorld.modifyLink]
    by_cases same : other = base
    · subst other
      rw [Function.update_self, isLinked]
      exact shorter
    · rw [Function.update_of_ne same]

/-- A stream that was just made waits for no service request. -/
theorem created_settled
    {env : Env} {state next : PeerWorld} {base : StreamPtr}
    {identity : ByteCodec.Bytes} {parent : Option StreamPtr}
    (returned :
      state.createStream env base identity parent = some next) :
    ∃ link,
      next.links base = some link ∧ link.state = .created := by
  obtain ⟨_, peer, buffers, links⟩ := createStream_links returned
  refine
    ⟨PeerStream.create peer (parent.bind state.links) buffers, ?_, rfl⟩
  rw [links, Function.update_self]

end StructuredStreams.Application
