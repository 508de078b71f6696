import StructuredStreams.Foundation.Registry
import StructuredStreams.Stream.Returning

/-!
# Attachments and the tables of the channels

The transmit attachments of the streams and the `transmit_sids_` tables of
the channels form a registry, the receive attachments and the
`receive_sids_` tables another.  Every call acts on them as entering and
leaving does, so that both stay consistent in every run.
-/

namespace StructuredStreams.Stream

open World

/-- A transmit or receive attachment of a stream. -/
abbrev StreamSlot := StreamPtr × Slot

/-- The transmit attachments, with the tables of the channels. -/
def World.transmitting (world : World) :
    Registry ChannelPtr LocalStreamId StreamSlot where
  table := fun channel => (world.channels channel).transmitSids
  place := fun item =>
    ((world.streams item.1).txAttachments item.2).channel.map
      fun channel =>
        (channel, ((world.streams item.1).txAttachments item.2).streamId)

/-- The receive attachments, with the tables of the channels. -/
def World.receiving (world : World) :
    Registry ChannelPtr LocalStreamId StreamSlot where
  table := fun channel => (world.channels channel).receiveSids
  place := fun item =>
    ((world.streams item.1).rxAttachments item.2).channel.map
      fun channel =>
        (channel, ((world.streams item.1).rxAttachments item.2).streamId)

theorem place_eq_some_iff
    {world : World} {stream : StreamPtr} {slot : Slot}
    {channel : ChannelPtr} {sid : LocalStreamId} :
    world.transmitting.place (stream, slot) = some (channel, sid) ↔
      ((world.streams stream).txAttachments slot).channel =
          some channel ∧
        ((world.streams stream).txAttachments slot).streamId = sid := by
  simp [World.transmitting]

theorem rxPlace_eq_some_iff
    {world : World} {stream : StreamPtr} {slot : Slot}
    {channel : ChannelPtr} {sid : LocalStreamId} :
    world.receiving.place (stream, slot) = some (channel, sid) ↔
      ((world.streams stream).rxAttachments slot).channel =
          some channel ∧
        ((world.streams stream).rxAttachments slot).streamId = sid := by
  simp [World.receiving]

/-- The attachments and the tables are what they were. -/
structure SameAttachments (world next : World) : Prop where
  transmitting : next.transmitting = world.transmitting
  receiving : next.receiving = world.receiving

namespace SameAttachments

theorem refl (world : World) : SameAttachments world world where
  transmitting := rfl
  receiving := rfl

theorem trans
    {world middle next : World} (first : SameAttachments world middle)
    (second : SameAttachments middle next) :
    SameAttachments world next where
  transmitting := second.transmitting.trans first.transmitting
  receiving := second.receiving.trans first.receiving

private theorem of_fields
    {world next : World}
    (attachedChannel :
      ∀ stream slot,
        ((next.streams stream).txAttachments slot).channel =
          ((world.streams stream).txAttachments slot).channel)
    (streamId :
      ∀ stream slot,
        ((next.streams stream).txAttachments slot).streamId =
          ((world.streams stream).txAttachments slot).streamId)
    (rxAttachments :
      ∀ stream,
        (next.streams stream).rxAttachments =
          (world.streams stream).rxAttachments)
    (transmitSids :
      ∀ channel,
        (next.channels channel).transmitSids =
          (world.channels channel).transmitSids)
    (receiveSids :
      ∀ channel,
        (next.channels channel).receiveSids =
          (world.channels channel).receiveSids) :
    SameAttachments world next where
  transmitting := by
    simp only [World.transmitting, attachedChannel, streamId,
      transmitSids]
  receiving := by
    simp only [World.receiving, rxAttachments, receiveSids]

theorem modifyStream
    (world : World) (stream : StreamPtr)
    (change : BaseStream → BaseStream)
    (txAttachments :
      ∀ slot,
        ((change (world.streams stream)).txAttachments slot).channel =
            ((world.streams stream).txAttachments slot).channel ∧
          ((change (world.streams stream)).txAttachments slot).streamId =
            ((world.streams stream).txAttachments slot).streamId)
    (rxAttachments :
      (change (world.streams stream)).rxAttachments =
        (world.streams stream).rxAttachments) :
    SameAttachments world (world.modifyStream stream change) := by
  refine of_fields ?_ ?_ ?_ (fun _ => rfl) fun _ => rfl
  · intro other slot
    exact
      modifyStream_field world
        (fun entry => (entry.txAttachments slot).channel) stream change
        (txAttachments slot).1 other
  · intro other slot
    exact
      modifyStream_field world
        (fun entry => (entry.txAttachments slot).streamId) stream change
        (txAttachments slot).2 other
  · exact
      modifyStream_field world BaseStream.rxAttachments stream change
        rxAttachments

theorem modifyChannel
    (world : World) (channel : ChannelPtr)
    (change : StreamChannel → StreamChannel)
    (transmitSids :
      (change (world.channels channel)).transmitSids =
        (world.channels channel).transmitSids)
    (receiveSids :
      (change (world.channels channel)).receiveSids =
        (world.channels channel).receiveSids) :
    SameAttachments world (world.modifyChannel channel change) :=
  of_fields (fun _ _ => rfl) (fun _ _ => rfl) (fun _ => rfl)
    (modifyChannel_field world StreamChannel.transmitSids channel change
      transmitSids)
    (modifyChannel_field world StreamChannel.receiveSids channel change
      receiveSids)

theorem tick
    {world next : World} (same : SameAttachments world next) :
    SameAttachments world next.tick :=
  ⟨same.transmitting, same.receiving⟩

theorem eraseWaitingAck
    (world : World) (channel : ChannelPtr) (pktseq : PacketSeq) :
    SameAttachments world (world.eraseWaitingAck channel pktseq) :=
  modifyChannel world channel _ rfl rfl

theorem insertPacket
    (world : World) (stream : StreamPtr) (frame : TxFrame) :
    SameAttachments world (world.insertPacket stream frame) := by
  have queued :=
    modifyStream world stream
      (fun entry =>
        { entry with
          txQueue :=
            insertFrame { frame with stamp := world.clock }
              (world.streams stream).txQueue })
      (fun _ => ⟨rfl, rfl⟩) rfl
  exact ⟨queued.transmitting, queued.receiving⟩

theorem foldlM
    {α : Type} {pass : World → α → Option World} {items : List α}
    {world next : World}
    (passes :
      ∀ before item after,
        pass before item = some after → SameAttachments before after)
    (folded : items.foldlM pass world = some next) :
    SameAttachments world next :=
  foldlM_related refl trans passes folded

end SameAttachments

theorem TxSteps.sameAttachments
    {world next : World} (steps : TxSteps world next) :
    SameAttachments world next := by
  induction steps with
  | refl =>
      exact SameAttachments.refl world
  | tail _ step inductionHypothesis =>
      apply inductionHypothesis.trans
      refine
        SameAttachments.of_fields ?_ ?_ ?_ step.transmitSids ?_
      · intro stream slot
        rw [step.txAttachments stream]
      · intro stream slot
        rw [step.txAttachments stream]
      · exact
          step.stream_field (fun _ _ => rfl) (fun _ _ => rfl)
            (fun _ _ => rfl) fun _ _ => rfl
      · exact step.channel_field (fun _ _ => rfl) fun _ _ => rfl

theorem Returned.sameAttachments
    {world next : World} {owner : StreamPtr} {entry : WaitingFrame}
    (returned : Returned world owner entry next) :
    SameAttachments world next := by
  have recorded :
      SameAttachments world (world.record (.missed entry.id)) :=
    ⟨rfl, rfl⟩
  unfold Returned at returned
  split at returned
  · exact
      (recorded.trans (SameAttachments.insertPacket _ owner _)).trans
        returned.sameAttachments
  · exact recorded.trans returned.sameAttachments

theorem sameAttachments_acrossReturns :
    AcrossReturns SameAttachments where
  refl := SameAttachments.refl
  trans := SameAttachments.trans
  record := fun _ _ => ⟨rfl, rfl⟩
  erase := SameAttachments.eraseWaitingAck
  returned := fun returned _ => returned.sameAttachments

theorem sameAttachments_acrossWrites :
    AcrossWrites SameAttachments where
  trans := SameAttachments.trans
  transmissions := TxSteps.sameAttachments
  insertPacket := fun world stream frame _ =>
    SameAttachments.insertPacket world stream frame
  modifyStream := fun world stream change keeps => by
    refine
      SameAttachments.modifyStream world stream change ?_
        keeps.rxAttachments
    intro slot
    rw [keeps.txAttachments]
    exact ⟨rfl, rfl⟩
  activate := fun world channel =>
    SameAttachments.modifyChannel world channel _ rfl rfl
  reprioritise := fun world channel stream _ _ => by
    rw [enqueueStream, dequeueStream]
    exact
      (SameAttachments.modifyChannel world channel _ rfl rfl).trans
        (SameAttachments.modifyChannel _ channel _ rfl rfl)

theorem setActive_sameAttachments
    {world next : World} {stream : StreamPtr} {slot : Slot}
    {rxseq : PacketSeq}
    (returned : setActive world stream slot rxseq = some next) :
    SameAttachments world next := by
  obtain ⟨_, activated⟩ := setActive_eq_some returned
  rw [activated]
  refine SameAttachments.modifyStream world stream _ ?_ rfl
  intro other
  by_cases same : other = slot
  · subst other
    simp
  · simp [Function.update_of_ne same]

theorem setCurrent_sameAttachments
    {world next : World} {stream : StreamPtr} {slot : Slot}
    (returned : setCurrent world stream slot = some next) :
    SameAttachments world next := by
  obtain ⟨_, _, isCurrent⟩ := setCurrent_eq_some returned
  rw [isCurrent]
  exact
    SameAttachments.modifyStream world stream _ (fun _ => ⟨rfl, rfl⟩) rfl

/-- A change at one attachment leaves all others alone. -/
theorem modifyStream_slot_of_ne
    {α : Type} (world : World) (field : BaseStream → Slot → α)
    {stream : StreamPtr} {slot : Slot} (change : BaseStream → BaseStream)
    (others :
      ∀ other, other ≠ slot →
        field (change (world.streams stream)) other =
          field (world.streams stream) other)
    {item : StreamSlot} (different : item ≠ (stream, slot)) :
    field ((world.modifyStream stream change).streams item.1) item.2 =
      field (world.streams item.1) item.2 := by
  by_cases same : item.1 = stream
  · have otherSlot : item.2 ≠ slot := by
      intro sameSlot
      exact different (Prod.ext same sameSlot)
    rw [same, modifyStream_streams_self]
    exact others item.2 otherSlot
  · rw [modifyStream_streams_of_ne world same]

/-- Where a transmit attachment says to be entered. -/
def txPlace (entry : BaseStream) (slot : Slot) :
    Option (ChannelPtr × LocalStreamId) :=
  (entry.txAttachments slot).channel.map fun channel =>
    (channel, (entry.txAttachments slot).streamId)

/-- Where a receive attachment says to be entered. -/
def rxPlace (entry : BaseStream) (slot : Slot) :
    Option (ChannelPtr × LocalStreamId) :=
  (entry.rxAttachments slot).channel.map fun channel =>
    (channel, (entry.rxAttachments slot).streamId)

/-- The registry of one direction: a table of the channels, and what the
slots of the streams say. -/
def World.registryOf
    (sids : StreamChannel → List (LocalStreamId × StreamSlot))
    (place : BaseStream → Slot → Option (ChannelPtr × LocalStreamId))
    (world : World) : Registry ChannelPtr LocalStreamId StreamSlot where
  table := fun channel => sids (world.channels channel)
  place := fun item => place (world.streams item.1) item.2

section OneDirection

variable (world : World)
  (sids : StreamChannel → List (LocalStreamId × StreamSlot))
  (place : BaseStream → Slot → Option (ChannelPtr × LocalStreamId))
  {stream : StreamPtr} {slot : Slot} {channel : ChannelPtr}
  {sid : LocalStreamId} {changeStream : BaseStream → BaseStream}
  {changeChannel : StreamChannel → StreamChannel}

/-- In one direction the two worlds differ at most in one slot and in the
table of one channel. -/
structure ChangesAt
    (stream : StreamPtr) (slot : Slot) (channel : ChannelPtr)
    (next : World) : Prop where
  tables :
    ∀ other, other ≠ channel →
      sids (next.channels other) = sids (world.channels other)
  places :
    ∀ item, item ≠ (stream, slot) →
      place (next.streams item.1) item.2 =
        place (world.streams item.1) item.2

private theorem changesAt_modify
    (others :
      ∀ other, other ≠ slot →
        place (changeStream (world.streams stream)) other =
          place (world.streams stream) other) :
    ChangesAt world sids place stream slot channel
      ((world.modifyStream stream changeStream).modifyChannel channel
        changeChannel) where
  tables := by
    intro other different
    rw [modifyChannel_channels_of_ne _ different]
    rfl
  places := fun _ different =>
    modifyStream_slot_of_ne world place changeStream others different

variable {world sids place} {next : World}

/-- A slot that is set and entered in the table. -/
theorem ChangesAt.enter
    (changes : ChangesAt world sids place stream slot channel next)
    (listed :
      sids (next.channels channel) =
        (sid, stream, slot) :: sids (world.channels channel))
    (placed : place (next.streams stream) slot = some (channel, sid)) :
    next.registryOf sids place =
      (world.registryOf sids place).enter channel sid (stream, slot) :=
  Registry.eq_enter listed changes.tables placed changes.places

/-- A slot that is emptied and taken out of the table. -/
theorem ChangesAt.leave
    (changes : ChangesAt world sids place stream slot channel next)
    (attached : place (world.streams stream) slot = some (channel, sid))
    (listed :
      sids (next.channels channel) =
        (sids (world.channels channel)).filter (·.1 ≠ sid))
    (absent : place (next.streams stream) slot = none) :
    next.registryOf sids place =
      (world.registryOf sids place).leave (stream, slot) :=
  Registry.eq_leave attached listed changes.tables absent changes.places

variable (world sids place)

/-- The other direction does not notice. -/
theorem registryOf_same
    (listed :
      sids (changeChannel (world.channels channel)) =
        sids (world.channels channel))
    (placed :
      place (changeStream (world.streams stream)) =
        place (world.streams stream)) :
    ((world.modifyStream stream changeStream).modifyChannel channel
        changeChannel).registryOf sids place =
      world.registryOf sids place := by
  rw [World.registryOf, World.registryOf, Registry.mk.injEq]
  refine ⟨?_, ?_⟩
  · funext other
    exact modifyChannel_field world sids channel changeChannel listed other
  · funext item
    have same := modifyStream_field world place stream changeStream placed
    exact congrFun (same item.1) item.2

end OneDirection

theorem setAttaching_enters
    {world next : World} {stream : StreamPtr} {slot : Slot}
    {channel : ChannelPtr} {sid : LocalStreamId}
    (returned :
      setAttaching world stream slot channel sid = some next) :
    world.transmitting.place (stream, slot) = none ∧
      (world.transmitting.table channel).lookup sid = none ∧
      next.transmitting =
        world.transmitting.enter channel sid (stream, slot) ∧
      next.receiving = world.receiving := by
  obtain ⟨free, unregistered, attaching⟩ := setAttaching_eq_some returned
  rw [attaching]
  refine ⟨?_, unregistered, ?_, ?_⟩
  · simp [World.transmitting, free]
  · refine
      (changesAt_modify world StreamChannel.transmitSids txPlace ?_).enter
        ?_ ?_
    · intro other otherSlot
      simp [txPlace, Function.update_of_ne otherSlot]
    · rw [modifyChannel_channels_self]
      rfl
    · simp [txPlace]
  · exact
      registryOf_same world StreamChannel.receiveSids rxPlace rfl rfl

theorem rxSetActive_enters
    {world next : World} {stream : StreamPtr} {slot : Slot}
    {channel : ChannelPtr} {sid : LocalStreamId} {rxseq : PacketSeq}
    (returned :
      rxSetActive world stream slot channel sid rxseq = some next) :
    world.receiving.place (stream, slot) = none ∧
      (world.receiving.table channel).lookup sid = none ∧
      next.receiving =
        world.receiving.enter channel sid (stream, slot) ∧
      next.transmitting = world.transmitting := by
  obtain ⟨free, unregistered, attaching⟩ := rxSetActive_eq_some returned
  rw [attaching]
  refine ⟨?_, unregistered, ?_, ?_⟩
  · simp [World.receiving, free]
  · refine
      (changesAt_modify world StreamChannel.receiveSids rxPlace ?_).enter
        ?_ ?_
    · intro other otherSlot
      simp [rxPlace, Function.update_of_ne otherSlot]
    · rw [modifyChannel_channels_self]
      rfl
    · simp [rxPlace]
  · exact
      registryOf_same world StreamChannel.transmitSids txPlace rfl rfl

private theorem unregister_leaves
    {world : World} {stream : StreamPtr} {slot : Slot}
    {channel : ChannelPtr}
    (attached :
      ((world.streams stream).txAttachments slot).channel =
        some channel) :
    let next :=
      world.unregister stream slot channel
        ((world.streams stream).txAttachments slot).streamId
    next.transmitting = world.transmitting.leave (stream, slot) ∧
      next.receiving = world.receiving := by
  have placed := place_eq_some_iff.mpr ⟨attached, rfl⟩
  refine ⟨?_, ?_⟩
  · have changes :
        ChangesAt world StreamChannel.transmitSids txPlace stream slot
          channel
          (world.unregister stream slot channel
            ((world.streams stream).txAttachments slot).streamId) := by
      constructor
      · intro other different
        rw [unregister_channels_of_ne world stream slot different]
      · rintro ⟨other, otherSlot⟩ different
        by_cases same : other = stream
        · subst other
          have notSlot : otherSlot ≠ slot := by
            intro sameSlot
            exact different (by rw [sameSlot])
          rw [unregister_streams_self]
          simp [txPlace, Function.update_of_ne notSlot]
        · rw [unregister_streams_of_ne world same]
    refine changes.leave placed ?_ ?_
    · rw [unregister_channels_self]
    · rw [unregister_streams_self]
      simp [txPlace]
  · rw [World.receiving, World.receiving, Registry.mk.injEq]
    refine ⟨?_, ?_⟩
    · funext other
      by_cases same : other = channel
      · subst other
        rw [unregister_channels_self]
      · rw [unregister_channels_of_ne world stream slot same]
    · funext item
      by_cases same : item.1 = stream
      · rw [same, unregister_streams_self]
      · rw [unregister_streams_of_ne world same]

theorem clear_leaves
    {env : Env} {world next : World} {stream : StreamPtr} {slot : Slot}
    (returned : clear env world stream slot = some next) :
    next.transmitting = world.transmitting.leave (stream, slot) ∧
      next.receiving = world.receiving := by
  unfold clear at returned
  dsimp only at returned
  split at returned
  · next detached =>
      cases returned
      refine ⟨?_, rfl⟩
      have absent : world.transmitting.place (stream, slot) = none := by
        simp [World.transmitting, detached]
      rw [Registry.leave, absent]
  · next channel attached =>
      rw [guard_bind_eq_some_iff] at returned
      obtain ⟨_, returned⟩ := returned
      have same :=
        SameAttachments.foldlM
          (fun _ _ _ => sameAttachments_acrossReturns.clearEntry) returned
      have left := unregister_leaves attached
      exact ⟨same.transmitting.trans left.1, same.receiving.trans left.2⟩

/-- Changes of a stream and of a channel commute. -/
theorem modifyChannel_modifyStream
    (world : World) (channel : ChannelPtr) (stream : StreamPtr)
    (changeChannel : StreamChannel → StreamChannel)
    (changeStream : BaseStream → BaseStream) :
    (world.modifyChannel channel changeChannel).modifyStream stream
        changeStream =
      (world.modifyStream stream changeStream).modifyChannel channel
        changeChannel :=
  rfl

theorem rxClear_leaves
    {world next : World} {stream : StreamPtr} {slot : Slot}
    (returned : rxClear world stream slot = some next) :
    next.receiving = world.receiving.leave (stream, slot) ∧
      next.transmitting = world.transmitting := by
  rcases rxClear_eq_some returned with
    ⟨detached, unchanged⟩ | ⟨channel, attached, cleared⟩
  · rw [unchanged]
    refine ⟨?_, rfl⟩
    have absent : world.receiving.place (stream, slot) = none := by
      simp [World.receiving, detached]
    rw [Registry.leave, absent]
  · have placed :
        rxPlace (world.streams stream) slot =
          some
            (channel,
              ((world.streams stream).rxAttachments slot).streamId) := by
      simp [rxPlace, attached]
    rw [cleared, modifyChannel_modifyStream]
    refine ⟨?_, ?_⟩
    · refine
        (changesAt_modify world StreamChannel.receiveSids rxPlace
          ?_).leave placed ?_ ?_
      · intro other otherSlot
        simp [rxPlace, Function.update_of_ne otherSlot]
      · rw [modifyChannel_channels_self]
        rfl
      · simp [rxPlace]
    · exact
        registryOf_same world StreamChannel.transmitSids txPlace rfl rfl

/-- Passes that take one attachment after the other out of the tables of one
direction. -/
theorem passes_leave
    {registry other : World → Registry ChannelPtr LocalStreamId StreamSlot}
    {pass : World → LocalStreamId × StreamSlot → Option World}
    {sids : List (LocalStreamId × StreamSlot)} {world next : World}
    (passes :
      ∀ before entry after,
        pass before entry = some after →
        registry after = (registry before).leave entry.2 ∧
          other after = other before)
    (folded : sids.foldlM pass world = some next) :
    registry next =
        (sids.map Prod.snd).foldl Registry.leave (registry world) ∧
      other next = other world := by
  induction sids generalizing world with
  | nil =>
      cases folded
      exact ⟨rfl, rfl⟩
  | cons entry sids inductionHypothesis =>
      rw [List.foldlM_cons, bind_eq_some_iff] at folded
      obtain ⟨middle, passed, folded⟩ := folded
      obtain ⟨left, kept⟩ := passes world entry middle passed
      obtain ⟨laterLeft, laterKept⟩ := inductionHypothesis folded
      rw [List.map_cons, List.foldl_cons]
      rw [left] at laterLeft
      exact ⟨laterLeft, laterKept.trans kept⟩

theorem clears_leave
    {env : Env}
    {pass : World → LocalStreamId × StreamSlot → Option World}
    {sids : List (LocalStreamId × StreamSlot)} {world next : World}
    (passes :
      ∀ before entry after,
        pass before entry = some after →
        clear env before entry.2.1 entry.2.2 = some after)
    (folded : sids.foldlM pass world = some next) :
    next.transmitting =
        (sids.map Prod.snd).foldl Registry.leave world.transmitting ∧
      next.receiving = world.receiving :=
  passes_leave
    (fun before entry after passed =>
      clear_leaves (passes before entry after passed))
    folded

private theorem rxClears_leave
    {pass : World → LocalStreamId × StreamSlot → Option World}
    {sids : List (LocalStreamId × StreamSlot)} {world next : World}
    (passes :
      ∀ before entry after,
        pass before entry = some after →
        rxClear before entry.2.1 entry.2.2 = some after)
    (folded : sids.foldlM pass world = some next) :
    next.receiving =
        (sids.map Prod.snd).foldl Registry.leave world.receiving ∧
      next.transmitting = world.transmitting :=
  passes_leave
    (fun before entry after passed =>
      rxClear_leaves (passes before entry after passed))
    folded

/-- `detach_all` clears the attachments of the table one after the other. -/
theorem detachAll_leaves
    {env : Env} {world next : World} {channel : ChannelPtr}
    (returned : detachAll env world channel = some next) :
    ∃ sids : List (LocalStreamId × StreamSlot),
      sids.Perm (world.channels channel).transmitSids ∧
        next.transmitting =
          (sids.map Prod.snd).foldl Registry.leave world.transmitting ∧
        next.receiving = world.receiving := by
  obtain ⟨middle, copies, sids, _, copied, cleared, returned⟩ :=
    detachAll_eq_some returned
  have emptied :=
    SameAttachments.modifyChannel world channel
      (fun entry => { entry with waitingAck := [] }) rfl rfl
  obtain ⟨transmitting, receiving⟩ :=
    clears_leave (fun _ _ _ passed => passed) cleared
  have same :=
    SameAttachments.foldlM
      (fun _ _ _ => sameAttachments_acrossReturns.detachEntry) returned
  refine ⟨sids, copied, ?_, ?_⟩
  · rw [same.transmitting, transmitting]
    exact
      congrArg (fun registry => List.foldl Registry.leave registry _)
        emptied.transmitting
  · rw [same.receiving, receiving]
    exact emptied.receiving

/-- `stop` clears the attachments of both tables one after the other. -/
theorem stop_leaves
    {env : Env} {world next : World} {channel : ChannelPtr}
    (returned : stop env world channel = some next) :
    ∃ sids rsids : List (LocalStreamId × StreamSlot),
      sids.Perm (world.channels channel).transmitSids ∧
        rsids.Perm (world.channels channel).receiveSids ∧
        next.transmitting =
          (sids.map Prod.snd).foldl Registry.leave world.transmitting ∧
        next.receiving =
          (rsids.map Prod.snd).foldl Registry.leave world.receiving := by
  obtain ⟨middle, sids, rsids, pass, rxPass, copied, rxCopied, passes,
    rxPasses, cleared, returned⟩ := stop_eq_some returned
  have stopped :=
    SameAttachments.modifyChannel world channel
      (fun entry => { entry with active := false }) rfl rfl
  obtain ⟨transmitting, receiving⟩ :=
    clears_leave
      (fun before entry after passed =>
        (passes before entry after passed).2)
      cleared
  obtain ⟨laterReceiving, laterTransmitting⟩ :=
    rxClears_leave rxPasses returned
  have sameReceiving : middle.receiving = world.receiving :=
    receiving.trans stopped.receiving
  have sameTable :
      (middle.channels channel).receiveSids =
        (world.channels channel).receiveSids :=
    congrFun (congrArg Registry.table sameReceiving) channel
  have leftAll :=
    transmitting.trans
      (congrArg (fun registry => List.foldl Registry.leave registry _)
        stopped.transmitting)
  have rxLeftAll :=
    laterReceiving.trans
      (congrArg (fun registry => List.foldl Registry.leave registry _)
        sameReceiving)
  rw [sameTable] at rxCopied
  exact ⟨sids, rsids, copied, rxCopied, laterTransmitting.trans leftAll,
    rxLeftAll⟩

/-! ## Runs -/

/-- The attachments and the tables of the channels agree. -/
structure ConsistentAttachments (world : World) : Prop where
  transmitting : world.transmitting.Consistent
  receiving : world.receiving.Consistent

namespace ConsistentAttachments

theorem same
    {world next : World} (consistent : ConsistentAttachments world)
    (same : SameAttachments world next) :
    ConsistentAttachments next where
  transmitting := by
    rw [same.transmitting]
    exact consistent.transmitting
  receiving := by
    rw [same.receiving]
    exact consistent.receiving

theorem setAttaching
    {world next : World} (consistent : ConsistentAttachments world)
    {stream : StreamPtr} {slot : Slot} {channel : ChannelPtr}
    {sid : LocalStreamId}
    (returned :
      World.setAttaching world stream slot channel sid = some next) :
    ConsistentAttachments next := by
  obtain ⟨absent, unused, entered, kept⟩ := setAttaching_enters returned
  refine ⟨?_, ?_⟩
  · rw [entered]
    exact consistent.transmitting.enter absent unused
  · rw [kept]
    exact consistent.receiving

theorem rxSetActive
    {world next : World} (consistent : ConsistentAttachments world)
    {stream : StreamPtr} {slot : Slot} {channel : ChannelPtr}
    {sid : LocalStreamId} {rxseq : PacketSeq}
    (returned :
      World.rxSetActive world stream slot channel sid rxseq =
        some next) :
    ConsistentAttachments next := by
  obtain ⟨absent, unused, entered, kept⟩ := rxSetActive_enters returned
  refine ⟨?_, ?_⟩
  · rw [kept]
    exact consistent.transmitting
  · rw [entered]
    exact consistent.receiving.enter absent unused

theorem construct
    {world next : World} (consistent : ConsistentAttachments world)
    {channel : ChannelPtr} {root : StreamPtr}
    (returned : World.construct world channel root = some next) :
    ConsistentAttachments next := by
  obtain ⟨_, attaching, activated, current, attached, active, isCurrent,
    returned⟩ := construct_eq_some returned
  have rooted :=
    SameAttachments.modifyChannel world channel
      (fun entry => { entry with root := some root }) rfl rfl
  have attachedTo := (consistent.same rooted).setAttaching attached
  have madeActive := attachedTo.same (setActive_sameAttachments active)
  have madeCurrent :=
    madeActive.same (setCurrent_sameAttachments isCurrent)
  exact madeCurrent.rxSetActive returned

theorem clear
    {env : Env} {world next : World}
    (consistent : ConsistentAttachments world)
    {stream : StreamPtr} {slot : Slot}
    (returned : World.clear env world stream slot = some next) :
    ConsistentAttachments next := by
  obtain ⟨left, kept⟩ := clear_leaves returned
  refine ⟨?_, ?_⟩
  · rw [left]
    exact consistent.transmitting.leave (stream, slot)
  · rw [kept]
    exact consistent.receiving

theorem rxClear
    {world next : World} (consistent : ConsistentAttachments world)
    {stream : StreamPtr} {slot : Slot}
    (returned : World.rxClear world stream slot = some next) :
    ConsistentAttachments next := by
  obtain ⟨left, kept⟩ := rxClear_leaves returned
  refine ⟨?_, ?_⟩
  · rw [kept]
    exact consistent.transmitting
  · rw [left]
    exact consistent.receiving.leave (stream, slot)

theorem detachAll
    {env : Env} {world next : World}
    (consistent : ConsistentAttachments world) {channel : ChannelPtr}
    (returned : World.detachAll env world channel = some next) :
    ConsistentAttachments next := by
  obtain ⟨sids, _, left, kept⟩ := detachAll_leaves returned
  refine ⟨?_, ?_⟩
  · rw [left]
    exact consistent.transmitting.leaveAll _
  · rw [kept]
    exact consistent.receiving

theorem stop
    {env : Env} {world next : World}
    (consistent : ConsistentAttachments world) {channel : ChannelPtr}
    (returned : World.stop env world channel = some next) :
    ConsistentAttachments next := by
  obtain ⟨sids, rsids, _, _, left, rxLeft⟩ := stop_leaves returned
  refine ⟨?_, ?_⟩
  · rw [left]
    exact consistent.transmitting.leaveAll _
  · rw [rxLeft]
    exact consistent.receiving.leaveAll _

theorem registered
    {world : World} (consistent : ConsistentAttachments world) :
    Registered world :=
  fun channel entry member =>
    place_eq_some_iff.mp
      ((consistent.transmitting.entry_iff channel entry.1 entry.2).mp
        member)

theorem of_initial
    {world : World} (initial : world.Initial) :
    ConsistentAttachments world where
  transmitting := by
    apply Registry.Consistent.of_empty
    · exact initial.transmitSids
    · intro item
      obtain ⟨detached, _⟩ := initial.streams item.1
      simp [World.transmitting, detached item.2]
  receiving := by
    apply Registry.Consistent.of_empty
    · exact initial.receiveSids
    · intro item
      obtain ⟨_, detached, _⟩ := initial.streams item.1
      simp [World.receiving, detached item.2]

theorem call
    {env : Env} {world next : World} {call : Call}
    (consistent : ConsistentAttachments world)
    (returned : call.run env world = some next) :
    ConsistentAttachments next := by
  cases call with
  | construct channel root =>
      exact consistent.construct returned
  | start channel initiate =>
      exact
        consistent.same (sameAttachments_acrossWrites.start returned)
  | stop channel =>
      exact consistent.stop returned
  | detachAll channel =>
      exact consistent.detachAll returned
  | setAttaching stream slot channel sid =>
      exact consistent.setAttaching returned
  | setActive stream slot rxseq =>
      exact consistent.same (setActive_sameAttachments returned)
  | setCurrent stream slot =>
      exact consistent.same (setCurrent_sameAttachments returned)
  | rxSetActive stream slot channel sid rxseq =>
      exact consistent.rxSetActive returned
  | rxClear stream slot =>
      exact consistent.rxClear returned
  | clear stream slot =>
      exact consistent.clear returned
  | writeData stream totalSize =>
      exact
        consistent.same (sameAttachments_acrossWrites.writeData returned)
  | writeDatagram stream totalSize =>
      exact
        consistent.same (sameAttachments_acrossWrites.writeDatagram returned)
  | txEnqueueChannel stream immediately =>
      rw [Call.run] at returned
      split at returned
      · exact
          consistent.same
            (txEnqueueChannelNow_steps returned).sameAttachments
      · exact
          consistent.same (txEnqueueChannel_steps returned).sameAttachments
  | recalculateTransmitWindow stream windowByte =>
      exact
        consistent.same
          (sameAttachments_acrossWrites.recalculateTransmitWindow returned)
  | setPriority stream priority =>
      exact
        consistent.same (sameAttachments_acrossWrites.setPriority returned)
  | gotReadyTransmit channel =>
      exact
        consistent.same (gotReadyTransmit_steps returned).sameAttachments
  | acknowledged channel txseq npackets =>
      exact
        consistent.same
          (SameAttachments.foldlM
            (fun _ _ _ => sameAttachments_acrossReturns.acknowledgedOne)
            returned)
  | missed channel txseq npackets =>
      exact
        consistent.same
          (SameAttachments.foldlM
            (fun _ _ _ => sameAttachments_acrossReturns.missedOne) returned)
  | expire channel txseq npackets =>
      cases returned
      refine consistent.same ?_
      exact
        List.foldlRecOn _ _ (SameAttachments.refl world)
          fun reached same txseq _ =>
            same.trans
              (sameAttachments_acrossReturns.expireOne channel reached txseq)

end ConsistentAttachments

/-- In every state reached, the attachments and the tables agree. -/
theorem CallRun.consistentAttachments
    {env : Env} {start final : World} {calls : List Call}
    (initial : start.Initial) (run : CallRun env start calls final) :
    ConsistentAttachments final :=
  run.induct (fun _ world => ConsistentAttachments world)
    (ConsistentAttachments.of_initial initial)
    fun _ _ _ _ _ consistent returned => consistent.call returned

end StructuredStreams.Stream
