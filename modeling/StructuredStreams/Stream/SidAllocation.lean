import StructuredStreams.Stream.Attachments

/-!
# Local stream ids

`allocate_transmit_sid` counts in 64 bits and looks for a number whose low
16 bits are free in the table of the channel.  The runs here attach streams
under the numbers it returns, make attachments active and clear them; nothing
is written, so that no frame waits for an acknowledgment.
-/

namespace StructuredStreams.Stream

open World

/-- The search of `allocate_transmit_sid`.  At its limit it calls
`logger::fatal` and goes on, so that the limit is left to `skipUsedSids`.
After as many numbers as there are local ids it does not end. -/
def firstFreeSid (transmitSids : List (LocalStreamId × StreamSlot)) :
    (fuel : Nat) → UInt64 → Option UInt64
  | 0, _ => none
  | fuel + 1, sid =>
      if (transmitSids.lookup sid.toUInt16).isSome then
        firstFreeSid transmitSids fuel (sid + 1)
      else some sid

/-- The number of local stream ids. -/
def localStreamIds : Nat :=
  0x10000

private theorem firstFreeSid_free
    {transmitSids : List (LocalStreamId × StreamSlot)} {fuel : Nat}
    {sid found : UInt64}
    (searched : firstFreeSid transmitSids fuel sid = some found) :
    transmitSids.lookup found.toUInt16 = none := by
  induction fuel generalizing sid with
  | zero =>
      cases searched
  | succ fuel inductionHypothesis =>
      unfold firstFreeSid at searched
      split at searched
      · exact inductionHypothesis searched
      · next free =>
          cases searched
          exact Option.not_isSome_iff_eq_none.mp free

private theorem firstFreeSid_isSome
    {transmitSids : List (LocalStreamId × StreamSlot)}
    {fuel offset : Nat} {sid : UInt64} (reached : offset < fuel)
    (free :
      transmitSids.lookup (sid + UInt64.ofNat offset).toUInt16 = none) :
    (firstFreeSid transmitSids fuel sid).isSome := by
  induction fuel generalizing sid offset with
  | zero =>
      omega
  | succ fuel inductionHypothesis =>
      unfold firstFreeSid
      split
      · next occupied =>
          cases offset with
          | zero =>
              have same : sid + UInt64.ofNat 0 = sid := UInt64.add_zero sid
              rw [same] at free
              rw [free] at occupied
              cases occupied
          | succ offset =>
              apply inductionHypothesis (Nat.lt_of_succ_lt_succ reached)
              rw [Nat.add_comm, UInt64.ofNat_add] at free
              rw [UInt64.add_assoc]
              exact free
      · rfl

/-- Every local id is met by the search. -/
theorem exists_offset_of_sid (sid : UInt64) (id : LocalStreamId) :
    ∃ offset < localStreamIds,
      (sid + UInt64.ofNat offset).toUInt16 = id := by
  refine ⟨(id - sid.toUInt16).toNat, UInt16.toNat_lt _, ?_⟩
  rw [UInt64.toUInt16_add, UInt64.toUInt16_ofNat', UInt16.ofNat_toNat,
    UInt16.add_comm, UInt16.sub_add_cancel]

private theorem firstFreeSid_isSome_iff
    {transmitSids : List (LocalStreamId × StreamSlot)} {sid : UInt64} :
    (firstFreeSid transmitSids localStreamIds sid).isSome ↔
      ∃ id, transmitSids.lookup id = none := by
  constructor
  · intro found
    obtain ⟨found, searched⟩ := Option.isSome_iff_exists.mp found
    exact ⟨_, firstFreeSid_free searched⟩
  · rintro ⟨id, free⟩
    obtain ⟨offset, reached, met⟩ := exists_offset_of_sid sid id
    apply firstFreeSid_isSome reached
    rw [met]
    exact free

/-- The streams and channels, with the counters of the channels and the
numbers they have returned, the latest first. -/
structure Allocating where
  world : World
  transmitSidCounter : ChannelPtr → UInt64
  allocated : ChannelPtr → List UInt64

/-- The counters of all channels start at 1. -/
def Allocating.create (world : World) : Allocating where
  world := world
  transmitSidCounter := fun _ => 1
  allocated := fun _ => []

def Allocating.allocateTransmitSid
    (state : Allocating) (channel : ChannelPtr) :
    Option (UInt64 × Allocating) := do
  let sid ←
    firstFreeSid (state.world.channels channel).transmitSids
      localStreamIds (state.transmitSidCounter channel)
  guard (state.transmitSidCounter channel ≤ sid)
  return (sid,
    { state with
      transmitSidCounter :=
        Function.update state.transmitSidCounter channel (sid + 1)
      allocated :=
        Function.update state.allocated channel
          (sid :: state.allocated channel) })

inductive AttachCall where
  | construct (channel : ChannelPtr) (root : StreamPtr)
  | allocate (channel : ChannelPtr)
  /-- `allocate_transmit_sid` followed by `set_attaching`. -/
  | attach (stream : StreamPtr) (slot : Slot) (channel : ChannelPtr)
  | setActive (stream : StreamPtr) (slot : Slot) (rxseq : PacketSeq)
  | clear (stream : StreamPtr) (slot : Slot)
  | detachAll (channel : ChannelPtr)
  | stop (channel : ChannelPtr)
  deriving DecidableEq, Repr

/-- What a call does.  Streams are attached to channels that were
constructed. -/
def AttachCall.run (env : Env) (state : Allocating) :
    AttachCall → Option Allocating
  | .construct channel root => do
      let world ← state.world.construct channel root
      return { state with world := world }
  | .allocate channel => do
      guard ((state.world.channels channel).root ≠ none)
      let (_, state) ← state.allocateTransmitSid channel
      return state
  | .attach stream slot channel => do
      guard ((state.world.channels channel).root ≠ none)
      let (sid, state) ← state.allocateTransmitSid channel
      let world ←
        state.world.setAttaching stream slot channel sid.toUInt16
      return { state with world := world }
  | .setActive stream slot rxseq => do
      let world ← state.world.setActive stream slot rxseq
      return { state with world := world }
  | .clear stream slot => do
      let world ← state.world.clear env stream slot
      return { state with world := world }
  | .detachAll channel => do
      let world ← state.world.detachAll env channel
      return { state with world := world }
  | .stop channel => do
      let world ← state.world.stop env channel
      return { state with world := world }

/-- An assertion of `set_attaching`, `clear`, `detach_all` or `stop` fails
in the call.  A constructor is called for a new channel with a new root
stream. -/
def AttachCall.AssertionFails (env : Env) (state : Allocating) :
    AttachCall → Prop
  | .construct channel root =>
      (state.world.channels channel).root = none ∧
        state.world.IsNew root ∧
        state.world.construct channel root = none
  | .allocate _ => False
  | .attach stream slot channel =>
      ∃ sid after,
        state.allocateTransmitSid channel = some (sid, after) ∧
          after.world.setAttaching stream slot channel sid.toUInt16 =
            none
  | .setActive _ _ _ => False
  | .clear stream slot => state.world.clear env stream slot = none
  | .detachAll channel => state.world.detachAll env channel = none
  | .stop channel => state.world.stop env channel = none

def AttachStep
    (env : Env) (state : Allocating) (call : AttachCall)
    (next : Allocating) : Prop :=
  call.run env state = some next

abbrev AttachRun (env : Env) :
    Allocating → List AttachCall → Allocating → Prop :=
  Run (AttachStep env)

/-! ## Detaching while nothing waits -/

/-- No frame waits for an acknowledgment. -/
def NothingWaits (world : World) : Prop :=
  ∀ channel, (world.channels channel).waitingAck = []

/-- The root streams and the frames that wait are what they were. -/
structure SameRoots (world next : World) : Prop where
  root :
    ∀ channel, (next.channels channel).root = (world.channels channel).root
  waitingAck :
    ∀ channel,
      (next.channels channel).waitingAck =
        (world.channels channel).waitingAck

namespace SameRoots

theorem refl (world : World) : SameRoots world world where
  root := fun _ => rfl
  waitingAck := fun _ => rfl

theorem trans
    {world middle next : World} (first : SameRoots world middle)
    (second : SameRoots middle next) :
    SameRoots world next where
  root := fun channel => (second.root channel).trans (first.root channel)
  waitingAck := fun channel =>
    (second.waitingAck channel).trans (first.waitingAck channel)

theorem tick
    {world next : World} (same : SameRoots world next) :
    SameRoots world next.tick :=
  ⟨same.root, same.waitingAck⟩

theorem nothingWaits
    {world next : World} (same : SameRoots world next)
    (nothing : NothingWaits world) :
    NothingWaits next :=
  fun channel => (same.waitingAck channel).trans (nothing channel)

theorem modifyChannel
    (world : World) (channel : ChannelPtr)
    (change : StreamChannel → StreamChannel)
    (root :
      (change (world.channels channel)).root =
        (world.channels channel).root)
    (waitingAck :
      (change (world.channels channel)).waitingAck =
        (world.channels channel).waitingAck) :
    SameRoots world (world.modifyChannel channel change) where
  root :=
    modifyChannel_field world StreamChannel.root channel change root
  waitingAck :=
    modifyChannel_field world StreamChannel.waitingAck channel change
      waitingAck

theorem modifyStream
    (world : World) (stream : StreamPtr)
    (change : BaseStream → BaseStream) :
    SameRoots world (world.modifyStream stream change) where
  root := fun _ => rfl
  waitingAck := fun _ => rfl

theorem unregister
    (world : World) (stream : StreamPtr) (slot : Slot)
    (channel : ChannelPtr) (sid : LocalStreamId) :
    SameRoots world (world.unregister stream slot channel sid) where
  root := by
    intro other
    by_cases same : other = channel
    · subst other
      rw [unregister_channels_self]
    · rw [unregister_channels_of_ne world stream slot same]
  waitingAck := unregister_waitingAck world stream slot channel sid

end SameRoots

/-- An attachment that agrees with the tables is cleared, and nothing else
happens. -/
theorem clear_eq_of_attached
    {world : World} (env : Env) (nothing : NothingWaits world)
    (consistent : ConsistentAttachments world)
    {stream : StreamPtr} {slot : Slot} {channel : ChannelPtr}
    (attached :
      ((world.streams stream).txAttachments slot).channel =
        some channel) :
    clear env world stream slot =
      some
        (world.unregister stream slot channel
          ((world.streams stream).txAttachments slot).streamId).tick := by
  have found :=
    consistent.transmitting.lookup_eq_some
      (place_eq_some_iff.mpr ⟨attached, rfl⟩)
  have same :=
    SameRoots.unregister world stream slot channel
      ((world.streams stream).txAttachments slot).streamId
  have noCopies :
      ∀ clock,
        env.iterate clock
          ((world.unregister stream slot channel
            ((world.streams stream).txAttachments
              slot).streamId).channels channel).waitingAck = [] := by
    intro clock
    apply List.Perm.eq_nil
    apply (env.iteratePerm clock _).trans
    rw [same.nothingWaits nothing channel]
  unfold clear
  simp only [attached]
  rw [guard_bind_eq_some_iff, noCopies]
  exact ⟨found, rfl⟩

theorem clear_returns
    {world : World} (env : Env) (nothing : NothingWaits world)
    (consistent : ConsistentAttachments world)
    (stream : StreamPtr) (slot : Slot) :
    ∃ next,
      clear env world stream slot = some next ∧ SameRoots world next := by
  cases attached :
      ((world.streams stream).txAttachments slot).channel with
  | none =>
      refine ⟨world, ?_, SameRoots.refl world⟩
      simp only [clear, attached]
  | some channel =>
      have cleared :=
        clear_eq_of_attached env nothing consistent attached
      exact ⟨_, cleared, (SameRoots.unregister _ _ _ _ _).tick⟩

/-- One pass after the other of a loop that clears entries of a table. -/
theorem passes_return
    {registry : World → Registry ChannelPtr LocalStreamId StreamSlot}
    {channel : ChannelPtr}
    {pass : World → LocalStreamId × StreamSlot → Option World}
    (passes :
      ∀ before entry,
        NothingWaits before →
        ConsistentAttachments before →
        (registry before).place entry.2 = some (channel, entry.1) →
        ∃ after,
          pass before entry = some after ∧
            SameRoots before after ∧
            ConsistentAttachments after ∧
            registry after = (registry before).leave entry.2)
    {sids : List (LocalStreamId × StreamSlot)} {world : World}
    (nothing : NothingWaits world)
    (consistent : ConsistentAttachments world)
    (placed :
      ∀ entry ∈ sids,
        (registry world).place entry.2 = some (channel, entry.1))
    (nodup : (sids.map Prod.snd).Nodup) :
    ∃ next,
      sids.foldlM pass world = some next ∧
        SameRoots world next ∧ ConsistentAttachments next := by
  induction sids generalizing world with
  | nil =>
      exact ⟨world, rfl, SameRoots.refl world, consistent⟩
  | cons entry sids inductionHypothesis =>
      obtain ⟨middle, passed, same, middleConsistent, left⟩ :=
        passes world entry nothing consistent
          (placed entry List.mem_cons_self)
      rw [List.map_cons, List.nodup_cons] at nodup
      have stillPlaced :
          ∀ other ∈ sids,
            (registry middle).place other.2 = some (channel, other.1) := by
        intro other member
        have different : other.2 ≠ entry.2 := by
          intro sameItem
          apply nodup.1
          rw [← sameItem]
          exact List.mem_map_of_mem member
        rw [left, Registry.leave_place, Function.update_of_ne different]
        exact placed other (List.mem_cons_of_mem entry member)
      obtain ⟨next, folded, later, nextConsistent⟩ :=
        inductionHypothesis (same.nothingWaits nothing) middleConsistent
          stillPlaced nodup.2
      refine ⟨next, ?_, same.trans later, nextConsistent⟩
      rw [List.foldlM_cons, passed]
      exact folded

private theorem rxClear_sameRoots
    {world next : World} {stream : StreamPtr} {slot : Slot}
    (returned : rxClear world stream slot = some next) :
    SameRoots world next := by
  rcases rxClear_eq_some returned with
    ⟨_, unchanged⟩ | ⟨channel, _, cleared⟩
  · rw [unchanged]
    exact SameRoots.refl world
  · rw [cleared]
    refine SameRoots.trans ?_ (SameRoots.modifyStream _ stream _)
    exact SameRoots.modifyChannel world channel _ rfl rfl

theorem rxClear_returns
    {world : World} (consistent : ConsistentAttachments world)
    (stream : StreamPtr) (slot : Slot) :
    ∃ next, rxClear world stream slot = some next := by
  unfold rxClear
  dsimp only
  split
  · exact ⟨world, rfl⟩
  · next channel attached =>
      have found :=
        consistent.receiving.lookup_eq_some
          (rxPlace_eq_some_iff.mpr ⟨attached, rfl⟩)
      exact ⟨_, guard_bind_eq_some_iff.mpr ⟨found, rfl⟩⟩

/-- The entries of a copied table, with the items they hold. -/
theorem entries_placed
    {registry : Registry ChannelPtr LocalStreamId StreamSlot}
    (consistent : registry.Consistent) {channel : ChannelPtr}
    {sids : List (LocalStreamId × StreamSlot)}
    (copied : sids.Perm (registry.table channel)) :
    (∀ entry ∈ sids, registry.place entry.2 = some (channel, entry.1)) ∧
      (sids.map Prod.snd).Nodup := by
  refine ⟨?_, ?_⟩
  · intro entry member
    exact
      (consistent.entry_iff channel entry.1 entry.2).mp
        (copied.subset member)
  · exact
      (copied.map Prod.snd).nodup_iff.mpr (consistent.items_nodup channel)

private theorem clear_passes
    (env : Env) (before : World) (entry : LocalStreamId × StreamSlot)
    (nothing : NothingWaits before)
    (consistent : ConsistentAttachments before) :
    ∃ after,
      clear env before entry.2.1 entry.2.2 = some after ∧
        SameRoots before after ∧
        ConsistentAttachments after ∧
        after.transmitting = before.transmitting.leave entry.2 := by
  obtain ⟨after, returned, same⟩ :=
    clear_returns env nothing consistent entry.2.1 entry.2.2
  exact ⟨after, returned, same, consistent.clear returned,
    (clear_leaves returned).1⟩

/-- `detach_all` comes to its end. -/
theorem detachAll_returns
    {world : World} (env : Env) (nothing : NothingWaits world)
    (consistent : ConsistentAttachments world) (channel : ChannelPtr) :
    ∃ next,
      detachAll env world channel = some next ∧
        SameRoots world next := by
  have emptied :=
    (SameRoots.modifyChannel world channel
      (fun entry => { entry with waitingAck := [] }) rfl
      (nothing channel).symm).tick.tick
  have sameAttachments :=
    (SameAttachments.modifyChannel world channel
      (fun entry => { entry with waitingAck := [] }) rfl rfl).tick.tick
  have copied :=
    env.iteratePerm (world.clock + 1) (world.channels channel).transmitSids
  obtain ⟨placed, nodup⟩ :=
    entries_placed consistent.transmitting copied
  rw [← sameAttachments.transmitting] at placed
  obtain ⟨middle, cleared, same, _⟩ :=
    passes_return
      (fun before entry nothing consistent _ =>
        clear_passes env before entry nothing consistent)
      (emptied.nothingWaits nothing) (consistent.same sameAttachments)
      placed nodup
  have left := (clears_leave (fun _ _ _ passed => passed) cleared).1
  have noneLeft : (middle.channels channel).transmitSids = [] := by
    have empty :=
      consistent.transmitting.leaveAll_table
        (fun entry member =>
          List.mem_map_of_mem (copied.mem_iff.mpr member))
    rw [sameAttachments.transmitting] at left
    rw [← left] at empty
    exact empty
  have noCopies :
      env.iterate world.clock (world.channels channel).waitingAck = [] := by
    apply List.Perm.eq_nil
    apply (env.iteratePerm world.clock _).trans
    rw [nothing channel]
  refine ⟨middle, ?_, emptied.trans same⟩
  unfold detachAll
  dsimp only
  rw [bind_eq_some_iff]
  refine ⟨middle, cleared, ?_⟩
  rw [guard_bind_eq_some_iff, noCopies]
  exact ⟨List.isEmpty_iff.mpr noneLeft, rfl⟩

/-- A pass of the first loop of `stop`. -/
theorem stop_clear_passes
    (env : Env) (channel : ChannelPtr) (before : World)
    (entry : LocalStreamId × StreamSlot) (nothing : NothingWaits before)
    (consistent : ConsistentAttachments before)
    (placed :
      before.transmitting.place entry.2 = some (channel, entry.1)) :
    ∃ after,
      (do
        let attachment :=
          (before.streams entry.2.1).txAttachments entry.2.2
        guard (attachment.channel = some channel)
        clear env before entry.2.1 entry.2.2) = some after ∧
        SameRoots before after ∧
        ConsistentAttachments after ∧
        after.transmitting = before.transmitting.leave entry.2 := by
  obtain ⟨after, returned, facts⟩ :=
    clear_passes env before entry nothing consistent
  have attached := (place_eq_some_iff.mp placed).1
  exact ⟨after, guard_bind_eq_some_iff.mpr ⟨attached, returned⟩, facts⟩

/-- A pass of the second loop of `stop`. -/
theorem stop_rxClear_passes
    (channel : ChannelPtr) (before : World)
    (entry : LocalStreamId × StreamSlot)
    (consistent : ConsistentAttachments before)
    (placed :
      before.receiving.place entry.2 = some (channel, entry.1)) :
    ∃ after,
      (do
        let attachment :=
          (before.streams entry.2.1).rxAttachments entry.2.2
        guard (attachment.channel = some channel)
        rxClear before entry.2.1 entry.2.2) = some after ∧
        SameRoots before after ∧
        ConsistentAttachments after ∧
        after.receiving = before.receiving.leave entry.2 := by
  obtain ⟨after, returned⟩ :=
    rxClear_returns consistent entry.2.1 entry.2.2
  have attached := (rxPlace_eq_some_iff.mp placed).1
  exact ⟨after, guard_bind_eq_some_iff.mpr ⟨attached, returned⟩,
    rxClear_sameRoots returned, consistent.rxClear returned,
    (rxClear_leaves returned).1⟩

/-- `stop` comes to its end. -/
theorem stop_returns
    {world : World} (env : Env) (nothing : NothingWaits world)
    (consistent : ConsistentAttachments world) (channel : ChannelPtr) :
    ∃ next,
      stop env world channel = some next ∧ SameRoots world next := by
  have stopped :=
    (SameRoots.modifyChannel world channel
      (fun entry => { entry with active := false }) rfl rfl).tick
  have sameAttachments :=
    (SameAttachments.modifyChannel world channel
      (fun entry => { entry with active := false }) rfl rfl).tick
  obtain ⟨placed, nodup⟩ :=
    entries_placed (consistent.same sameAttachments).transmitting
      (env.iteratePerm world.clock _)
  obtain ⟨middle, cleared, same, middleConsistent⟩ :=
    passes_return (stop_clear_passes env channel)
      (stopped.nothingWaits nothing) (consistent.same sameAttachments)
      placed nodup
  have toMiddle := (stopped.trans same).tick
  have middleTick :=
    middleConsistent.same (SameAttachments.refl middle).tick
  obtain ⟨rxPlaced, rxNodup⟩ :=
    entries_placed middleTick.receiving (env.iteratePerm middle.clock _)
  obtain ⟨next, rxCleared, rxSame, _⟩ :=
    passes_return
      (fun before entry _ consistent placed =>
        stop_rxClear_passes channel before entry consistent placed)
      (toMiddle.nothingWaits nothing) middleTick rxPlaced rxNodup
  refine ⟨next, ?_, toMiddle.trans rxSame⟩
  unfold stop
  dsimp only
  rw [bind_eq_some_iff]
  exact ⟨middle, cleared, rxCleared⟩

private theorem setAttaching_returns
    {world : World} {stream : StreamPtr} {slot : Slot}
    {channel : ChannelPtr} {sid : LocalStreamId}
    (unused : ((world.streams stream).txAttachments slot).channel = none)
    (free : (world.channels channel).transmitSids.lookup sid = none) :
    ∃ next, setAttaching world stream slot channel sid = some next := by
  unfold setAttaching
  simp only [guard_bind_eq_some_iff]
  exact ⟨_, by simp [TxAttachment.isInUse, unused], by simp [free], rfl⟩

private theorem setAttaching_sameRoots
    {world next : World} {stream : StreamPtr} {slot : Slot}
    {channel : ChannelPtr} {sid : LocalStreamId}
    (returned :
      setAttaching world stream slot channel sid = some next) :
    SameRoots world next := by
  obtain ⟨_, _, attaching⟩ := setAttaching_eq_some returned
  rw [attaching]
  refine SameRoots.trans ?_ (SameRoots.modifyChannel _ channel _ rfl rfl)
  exact SameRoots.modifyStream world stream _

private theorem construct_returns
    {world : World} {channel : ChannelPtr} {root : StreamPtr}
    (noRoot : (world.channels channel).root = none)
    (isNew : world.IsNew root)
    (noTransmitSids : (world.channels channel).transmitSids = [])
    (noReceiveSids : (world.channels channel).receiveSids = []) :
    ∃ next, construct world channel root = some next := by
  have ⟨detached, rxDetached, noCurrent, _, _, _⟩ := isNew
  unfold construct setAttaching setActive setCurrent rxSetActive
  simp [TxAttachment.isInUse, RxAttachment.isActive,
    TxAttachment.isAcknowledged, setTxAttachment, detached, rxDetached,
    noCurrent, noTransmitSids, noReceiveSids, isNew, noRoot]

private theorem setActive_sameRoots
    {world next : World} {stream : StreamPtr} {slot : Slot}
    {rxseq : PacketSeq}
    (returned : setActive world stream slot rxseq = some next) :
    SameRoots world next := by
  obtain ⟨_, activated⟩ := setActive_eq_some returned
  rw [activated]
  exact SameRoots.modifyStream world stream _

private theorem setCurrent_sameRoots
    {world next : World} {stream : StreamPtr} {slot : Slot}
    (returned : setCurrent world stream slot = some next) :
    SameRoots world next := by
  obtain ⟨_, _, isCurrent⟩ := setCurrent_eq_some returned
  rw [isCurrent]
  exact SameRoots.modifyStream world stream _

private theorem rxSetActive_sameRoots
    {world next : World} {stream : StreamPtr} {slot : Slot}
    {channel : ChannelPtr} {sid : LocalStreamId} {rxseq : PacketSeq}
    (returned :
      rxSetActive world stream slot channel sid rxseq = some next) :
    SameRoots world next := by
  obtain ⟨_, _, attaching⟩ := rxSetActive_eq_some returned
  rw [attaching]
  refine SameRoots.trans ?_ (SameRoots.modifyChannel _ channel _ rfl rfl)
  exact SameRoots.modifyStream world stream _

/-- The constructor gives a channel its root and both tables an entry. -/
theorem construct_enters
    {world next : World} {channel : ChannelPtr} {root : StreamPtr}
    (returned : construct world channel root = some next) :
    next.transmitting =
        world.transmitting.enter channel 0 (root, Slot.first) ∧
      next.receiving =
        world.receiving.enter channel 0 (root, Slot.first) ∧
      SameRoots
        (world.modifyChannel channel fun entry =>
          { entry with root := some root })
        next := by
  obtain ⟨_, attaching, activated, current, attached, active, isCurrent,
    returned⟩ := construct_eq_some returned
  have rooted :=
    SameAttachments.modifyChannel world channel
      (fun entry => { entry with root := some root }) rfl rfl
  have kept :=
    (setActive_sameAttachments active).trans
      (setCurrent_sameAttachments isCurrent)
  obtain ⟨_, _, entered, keptReceiving⟩ := setAttaching_enters attached
  obtain ⟨_, _, rxEntered, keptTransmitting⟩ :=
    rxSetActive_enters returned
  refine ⟨?_, ?_, ?_⟩
  · rw [keptTransmitting, kept.transmitting, entered, rooted.transmitting]
  · rw [rxEntered, kept.receiving, keptReceiving, rooted.receiving]
  · have toCurrent :=
      (setAttaching_sameRoots attached).trans
        ((setActive_sameRoots active).trans
          (setCurrent_sameRoots isCurrent))
    exact toCurrent.trans (rxSetActive_sameRoots returned)

/-! ## What holds in every state reached -/

/-- The greatest number that a counter can return. -/
def lastSid : UInt64 :=
  0xffffffffffffffff

structure Allocating.Sound (state : Allocating) : Prop where
  consistent : ConsistentAttachments state.world
  nothingWaits : NothingWaits state.world
  unconstructed :
    ∀ channel, (state.world.channels channel).root = none →
      (state.world.channels channel).transmitSids = [] ∧
        (state.world.channels channel).receiveSids = []
  below :
    ∀ channel, lastSid ∉ state.allocated channel →
      ∀ sid ∈ state.allocated channel,
        sid < state.transmitSidCounter channel
  increasing :
    ∀ channel, lastSid ∉ (state.allocated channel).tail →
      (state.allocated channel).Pairwise (· > ·)

theorem Allocating.Sound.create
    {world : World} (initial : world.Initial) :
    (Allocating.create world).Sound where
  consistent := ConsistentAttachments.of_initial initial
  nothingWaits := initial.waitingAck
  unconstructed := fun channel _ =>
    ⟨initial.transmitSids channel, initial.receiveSids channel⟩
  below := fun _ _ _ member => absurd member List.not_mem_nil
  increasing := fun _ _ => List.Pairwise.nil

/-- A number that is not the last one is below its successor. -/
theorem lt_succ_of_ne_lastSid
    {sid : UInt64} (different : sid ≠ lastSid) : sid < sid + 1 := by
  rw [UInt64.lt_iff_toNat_lt, UInt64.toNat_add]
  have bound := UInt64.toNat_lt sid
  have notLast : sid.toNat ≠ 0xffffffffffffffff := by
    intro same
    exact different (UInt64.toNat_inj.mp same)
  have one : (1 : UInt64).toNat = 1 := rfl
  omega

private theorem Allocating.allocateTransmitSid_eq_some
    {state after : Allocating} {channel : ChannelPtr} {sid : UInt64}
    (returned :
      state.allocateTransmitSid channel = some (sid, after)) :
    (state.world.channels channel).transmitSids.lookup sid.toUInt16 =
        none ∧
      state.transmitSidCounter channel ≤ sid ∧
      after =
        { state with
          transmitSidCounter :=
            Function.update state.transmitSidCounter channel (sid + 1)
          allocated :=
            Function.update state.allocated channel
              (sid :: state.allocated channel) } := by
  unfold Allocating.allocateTransmitSid at returned
  rw [bind_eq_some_iff] at returned
  obtain ⟨found, searched, returned⟩ := returned
  rw [guard_bind_eq_some_iff] at returned
  obtain ⟨above, returned⟩ := returned
  cases returned
  exact ⟨firstFreeSid_free searched, above, rfl⟩

theorem Allocating.Sound.allocate
    {state after : Allocating} (sound : state.Sound)
    {channel : ChannelPtr} {sid : UInt64}
    (returned :
      state.allocateTransmitSid channel = some (sid, after)) :
    after.Sound := by
  obtain ⟨_, above, changed⟩ :=
    Allocating.allocateTransmitSid_eq_some returned
  subst after
  refine ⟨sound.consistent, sound.nothingWaits, sound.unconstructed,
    ?_, ?_⟩
  · intro other notLast earlier member
    dsimp only at notLast member ⊢
    by_cases same : other = channel
    · subst other
      rw [Function.update_self] at notLast member ⊢
      rw [List.mem_cons, not_or] at notLast
      have next := lt_succ_of_ne_lastSid (Ne.symm notLast.1)
      rcases List.mem_cons.mp member with isNew | old
      · rw [isNew]
        exact next
      · have lower := sound.below channel notLast.2 earlier old
        exact UInt64.lt_trans (UInt64.lt_of_lt_of_le lower above) next
    · rw [Function.update_of_ne same] at notLast member ⊢
      exact sound.below other notLast earlier member
  · intro other notLast
    dsimp only at notLast ⊢
    by_cases same : other = channel
    · subst other
      rw [Function.update_self] at notLast ⊢
      rw [List.tail_cons] at notLast
      refine List.pairwise_cons.mpr ⟨?_, ?_⟩
      · intro earlier old
        exact
          UInt64.lt_of_lt_of_le (sound.below channel notLast earlier old)
            above
      · exact
          sound.increasing channel fun member =>
            notLast (List.mem_of_mem_tail member)
    · rw [Function.update_of_ne same] at notLast ⊢
      exact sound.increasing other notLast

/-- A change that gives only constructed channels entries. -/
theorem Allocating.Sound.change
    {state : Allocating} (sound : state.Sound) {next : World}
    (consistent : ConsistentAttachments next)
    (nothingWaits : NothingWaits next)
    (unconstructed :
      ∀ channel, (next.channels channel).root = none →
        (state.world.channels channel).root = none ∧
          ((state.world.channels channel).transmitSids = [] →
            (next.channels channel).transmitSids = []) ∧
          ((state.world.channels channel).receiveSids = [] →
            (next.channels channel).receiveSids = [])) :
    Allocating.Sound { state with world := next } where
  consistent := consistent
  nothingWaits := nothingWaits
  unconstructed := by
    intro channel noRoot
    obtain ⟨hadNoRoot, transmitSids, receiveSids⟩ :=
      unconstructed channel noRoot
    have before := sound.unconstructed channel hadNoRoot
    exact ⟨transmitSids before.1, receiveSids before.2⟩
  below := sound.below
  increasing := sound.increasing

theorem Allocating.Sound.construct
    {state : Allocating} (sound : state.Sound) {next : World}
    {channel : ChannelPtr} {root : StreamPtr}
    (returned : state.world.construct channel root = some next) :
    Allocating.Sound { state with world := next } := by
  obtain ⟨entered, rxEntered, same⟩ := construct_enters returned
  refine sound.change (sound.consistent.construct returned) ?_ ?_
  · apply same.nothingWaits
    intro other
    rw [modifyChannel_field state.world StreamChannel.waitingAck channel _
      rfl other]
    exact sound.nothingWaits other
  · intro other noRoot
    rw [same.root] at noRoot
    have different : other ≠ channel := by
      rintro rfl
      rw [modifyChannel_channels_self] at noRoot
      cases noRoot
    rw [modifyChannel_channels_of_ne _ different] at noRoot
    have sameTable :=
      congrFun (congrArg Registry.table entered) other
    have sameRxTable :=
      congrFun (congrArg Registry.table rxEntered) other
    rw [Registry.enter_table_of_ne _ different] at sameTable sameRxTable
    exact ⟨noRoot, sameTable.trans, sameRxTable.trans⟩

theorem Allocating.Sound.setAttaching
    {state : Allocating} (sound : state.Sound) {next : World}
    {stream : StreamPtr} {slot : Slot} {channel : ChannelPtr}
    {sid : LocalStreamId}
    (constructed : (state.world.channels channel).root ≠ none)
    (returned :
      state.world.setAttaching stream slot channel sid = some next) :
    Allocating.Sound { state with world := next } := by
  have same := setAttaching_sameRoots returned
  obtain ⟨_, _, entered, kept⟩ := setAttaching_enters returned
  refine
    sound.change (sound.consistent.setAttaching returned)
      (same.nothingWaits sound.nothingWaits) ?_
  intro other noRoot
  rw [same.root] at noRoot
  have different : other ≠ channel := by
    rintro rfl
    exact constructed noRoot
  have sameTable := congrFun (congrArg Registry.table entered) other
  have sameRxTable := congrFun (congrArg Registry.table kept) other
  rw [Registry.enter_table_of_ne _ different] at sameTable
  exact ⟨noRoot, sameTable.trans, sameRxTable.trans⟩

/-- Attachments leave tables and enter none. -/
theorem Allocating.Sound.leave
    {state : Allocating} (sound : state.Sound) {next : World}
    (items rxItems : List StreamSlot)
    (same : SameRoots state.world next)
    (transmitting :
      next.transmitting =
        items.foldl Registry.leave state.world.transmitting)
    (receiving :
      next.receiving =
        rxItems.foldl Registry.leave state.world.receiving) :
    Allocating.Sound { state with world := next } := by
  refine sound.change ⟨?_, ?_⟩ (same.nothingWaits sound.nothingWaits) ?_
  · rw [transmitting]
    exact sound.consistent.transmitting.leaveAll items
  · rw [receiving]
    exact sound.consistent.receiving.leaveAll rxItems
  · intro other noRoot
    rw [same.root] at noRoot
    refine ⟨noRoot, ?_, ?_⟩
    · intro empty
      have stillEmpty :=
        sound.consistent.transmitting.leaveAll_table_of_nil items empty
      rw [← transmitting] at stillEmpty
      exact stillEmpty
    · intro empty
      have stillEmpty :=
        sound.consistent.receiving.leaveAll_table_of_nil rxItems empty
      rw [← receiving] at stillEmpty
      exact stillEmpty

theorem Allocating.Sound.step
    {env : Env} {state next : Allocating} {call : AttachCall}
    (sound : state.Sound) (returned : AttachStep env state call next) :
    next.Sound := by
  unfold AttachStep at returned
  cases call with
  | construct channel root =>
      rw [AttachCall.run, bind_eq_some_iff] at returned
      obtain ⟨world, built, returned⟩ := returned
      cases returned
      exact sound.construct built
  | allocate channel =>
      rw [AttachCall.run, guard_bind_eq_some_iff] at returned
      obtain ⟨_, returned⟩ := returned
      rw [bind_eq_some_iff] at returned
      obtain ⟨⟨sid, after⟩, allocated, returned⟩ := returned
      cases returned
      exact sound.allocate allocated
  | attach stream slot channel =>
      rw [AttachCall.run, guard_bind_eq_some_iff] at returned
      obtain ⟨constructed, returned⟩ := returned
      rw [bind_eq_some_iff] at returned
      obtain ⟨⟨sid, after⟩, allocated, returned⟩ := returned
      rw [bind_eq_some_iff] at returned
      obtain ⟨world, attached, returned⟩ := returned
      cases returned
      refine (sound.allocate allocated).setAttaching ?_ attached
      obtain ⟨_, _, changed⟩ :=
        Allocating.allocateTransmitSid_eq_some allocated
      rw [changed]
      exact constructed
  | setActive stream slot rxseq =>
      rw [AttachCall.run, bind_eq_some_iff] at returned
      obtain ⟨world, active, returned⟩ := returned
      cases returned
      have same := setActive_sameAttachments active
      exact
        sound.leave [] [] (setActive_sameRoots active) same.transmitting
          same.receiving
  | clear stream slot =>
      rw [AttachCall.run, bind_eq_some_iff] at returned
      obtain ⟨world, cleared, returned⟩ := returned
      cases returned
      obtain ⟨reached, returns, same⟩ :=
        clear_returns env sound.nothingWaits sound.consistent stream slot
      rw [cleared, Option.some.injEq] at returns
      subst reached
      obtain ⟨left, kept⟩ := clear_leaves cleared
      exact sound.leave [(stream, slot)] [] same left kept
  | detachAll channel =>
      rw [AttachCall.run, bind_eq_some_iff] at returned
      obtain ⟨world, detached, returned⟩ := returned
      cases returned
      obtain ⟨reached, returns, same⟩ :=
        detachAll_returns env sound.nothingWaits sound.consistent channel
      rw [detached, Option.some.injEq] at returns
      subst reached
      obtain ⟨sids, _, left, kept⟩ := detachAll_leaves detached
      exact sound.leave _ [] same left kept
  | stop channel =>
      rw [AttachCall.run, bind_eq_some_iff] at returned
      obtain ⟨world, stopped, returned⟩ := returned
      cases returned
      obtain ⟨reached, returns, same⟩ :=
        stop_returns env sound.nothingWaits sound.consistent channel
      rw [stopped, Option.some.injEq] at returns
      subst reached
      obtain ⟨sids, rsids, _, _, left, rxLeft⟩ := stop_leaves stopped
      exact sound.leave _ _ same left rxLeft

/-- `set_attaching` is called for an attachment that is not in use. -/
def AttachCall.OnUnused (state : Allocating) : AttachCall → Prop
  | .attach stream slot _ =>
      ((state.world.streams stream).txAttachments slot).channel = none
  | _ => True

private theorem Allocating.Sound.not_assertionFails
    {env : Env} {state : Allocating} (sound : state.Sound)
    {call : AttachCall} (onUnused : call.OnUnused state) :
    ¬ call.AssertionFails env state := by
  cases call with
  | construct channel root =>
      rintro ⟨noRoot, isNew, fails⟩
      obtain ⟨noTransmitSids, noReceiveSids⟩ :=
        sound.unconstructed channel noRoot
      obtain ⟨next, returned⟩ :=
        construct_returns noRoot isNew noTransmitSids noReceiveSids
      rw [fails] at returned
      cases returned
  | allocate channel =>
      exact not_false
  | attach stream slot channel =>
      rintro ⟨sid, after, allocated, fails⟩
      obtain ⟨free, _, changed⟩ :=
        Allocating.allocateTransmitSid_eq_some allocated
      subst after
      obtain ⟨next, returned⟩ := setAttaching_returns onUnused free
      rw [fails] at returned
      cases returned
  | setActive stream slot rxseq =>
      exact not_false
  | clear stream slot =>
      intro fails
      obtain ⟨next, returned, _⟩ :=
        clear_returns env sound.nothingWaits sound.consistent stream slot
      rw [AttachCall.AssertionFails, returned] at fails
      cases fails
  | detachAll channel =>
      intro fails
      obtain ⟨next, returned, _⟩ :=
        detachAll_returns env sound.nothingWaits sound.consistent channel
      rw [AttachCall.AssertionFails, returned] at fails
      cases fails
  | stop channel =>
      intro fails
      obtain ⟨next, returned, _⟩ :=
        stop_returns env sound.nothingWaits sound.consistent channel
      rw [AttachCall.AssertionFails, returned] at fails
      cases fails

/-- In every state reached, the attachments and the tables of all channels
agree, no assertion of an attaching or detaching call fails where
`set_attaching` is called for an unused attachment, the numbers returned on
a channel increase up to the last one, and the next one is free when it is
returned and found when there is one. -/
theorem attachment_tables_consistent
    {env : Env} {start : World} {final : Allocating}
    {calls : List AttachCall} (initial : start.Initial)
    (run : AttachRun env (Allocating.create start) calls final) :
    (∀ channel, ∀ entry ∈ (final.world.channels channel).transmitSids,
      ((final.world.streams entry.2.1).txAttachments
          entry.2.2).channel = some channel ∧
        ((final.world.streams entry.2.1).txAttachments
          entry.2.2).streamId = entry.1) ∧
      (∀ stream slot channel,
        ((final.world.streams stream).txAttachments slot).channel =
            some channel →
          (final.world.channels channel).transmitSids.lookup
              ((final.world.streams stream).txAttachments
                slot).streamId =
            some (stream, slot)) ∧
      (∀ call : AttachCall,
        call.OnUnused final → ¬ call.AssertionFails env final) ∧
      (∀ channel, lastSid ∉ (final.allocated channel).tail →
        (final.allocated channel).Pairwise (· > ·)) ∧
      (∀ channel sid after,
        final.allocateTransmitSid channel = some (sid, after) →
          (final.world.channels channel).transmitSids.lookup
            sid.toUInt16 = none) ∧
      ∀ channel,
        (∃ id,
          (final.world.channels channel).transmitSids.lookup id = none) →
        (firstFreeSid (final.world.channels channel).transmitSids
          localStreamIds (final.transmitSidCounter channel)).isSome := by
  have sound : final.Sound :=
    run.induct (fun _ state => state.Sound)
      (Allocating.Sound.create initial)
      fun _ _ _ _ _ before step => before.step step
  refine ⟨?_, ?_, ?_, sound.increasing, ?_, ?_⟩
  · intro channel entry member
    exact
      place_eq_some_iff.mp
        ((sound.consistent.transmitting.entry_iff channel entry.1
          entry.2).mp member)
  · intro stream slot channel attached
    exact
      sound.consistent.transmitting.lookup_eq_some
        (place_eq_some_iff.mpr ⟨attached, rfl⟩)
  · intro call onUnused
    exact sound.not_assertionFails onUnused
  · intro channel sid after returned
    exact (Allocating.allocateTransmitSid_eq_some returned).1
  · intro channel free
    exact firstFreeSid_isSome_iff.mpr free

/-- Two channels with their root streams, a stream attached to both and a
second one to the first; the first attachment is cleared. -/
def attachCalls : List AttachCall :=
  [.construct 0 0, .construct 1 1, .attach 2 .first 0, .attach 2 .second 1,
    .setActive 2 .first 7, .attach 3 .first 0, .clear 2 .first]

theorem attachment_tables_consistent_after_clear :
    ∃ final,
      AttachRun (Env.constant true)
          (Allocating.create (World.create [1] [2])) attachCalls final ∧
        (final.world.channels 0).transmitSids =
          [(2, 3, .first), (0, 0, .first)] ∧
        ((final.world.streams 3).txAttachments .first).streamId = 2 ∧
        final.allocated 0 = [2, 1] ∧
        ¬ (AttachCall.stop 0).AssertionFails (Env.constant true) final := by
  have run :
      AttachRun (Env.constant true)
        (Allocating.create (World.create [1] [2])) attachCalls _ :=
    Run.of_foldlM (fun _ _ _ returned => returned) rfl
  refine ⟨_, run, rfl, rfl, rfl, ?_⟩
  exact
    (attachment_tables_consistent (create_initial [1] [2]) run).2.2.1
      (.stop 0) trivial

/-- Attaching an attachment that is in use fails the assertion of
`set_attaching`. -/
theorem set_attaching_fails_on_attachment_in_use :
    ∃ final,
      AttachRun (Env.constant true)
          (Allocating.create (World.create [1] [2]))
          [.construct 0 0, .attach 1 .first 0] final ∧
        (AttachCall.attach 1 .first 0).AssertionFails (Env.constant true)
          final := by
  refine ⟨_, Run.of_foldlM (fun _ _ _ returned => returned) rfl, ?_⟩
  exact ⟨2, _, rfl, rfl⟩

end StructuredStreams.Stream
