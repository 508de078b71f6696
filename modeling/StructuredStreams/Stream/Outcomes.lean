import StructuredStreams.Stream.Calls

/-!
# What a call that returned has done

One lemma for each call that is not made of transmissions only: the
assertions it has passed, and the world it led to.
-/

namespace StructuredStreams.Stream

open World

theorem currentChannel_congr
    {world next : World} {stream : StreamPtr}
    (current :
      (next.streams stream).txCurrentAttachment =
        (world.streams stream).txCurrentAttachment)
    (attached :
      ∀ slot,
        ((next.streams stream).txAttachments slot).channel =
          ((world.streams stream).txAttachments slot).channel) :
    next.currentChannel stream = world.currentChannel stream := by
  simp only [currentChannel, current, attached]

theorem currentChannel_modifyStream
    (world : World) (stream : StreamPtr)
    (change : BaseStream → BaseStream)
    (current :
      (change (world.streams stream)).txCurrentAttachment =
        (world.streams stream).txCurrentAttachment)
    (attachments :
      (change (world.streams stream)).txAttachments =
        (world.streams stream).txAttachments)
    (other : StreamPtr) :
    (world.modifyStream stream change).currentChannel other =
      world.currentChannel other := by
  refine currentChannel_congr ?_ ?_
  · exact
      modifyStream_field world BaseStream.txCurrentAttachment stream change
        current other
  · intro slot
    rw [modifyStream_field world BaseStream.txAttachments stream change
      attachments other]

theorem setAttaching_eq_some
    {world next : World} {stream : StreamPtr} {slot : Slot}
    {channel : ChannelPtr} {sid : LocalStreamId}
    (returned :
      setAttaching world stream slot channel sid = some next) :
    ((world.streams stream).txAttachments slot).channel = none ∧
      (world.channels channel).transmitSids.lookup sid = none ∧
      next =
        (world.setTxAttachment stream slot fun _ =>
          ⟨some channel, sid, unacknowledgedSeq, false,
            false⟩).modifyChannel channel fun entry =>
              { entry with
                transmitSids :=
                  (sid, stream, slot) :: entry.transmitSids } := by
  unfold setAttaching at returned
  rw [guard_bind_eq_some_iff, guard_bind_eq_some_iff] at returned
  obtain ⟨unused, unregistered, returned⟩ := returned
  cases returned
  have free :
      ((world.streams stream).txAttachments slot).channel = none := by
    simpa [TxAttachment.isInUse] using unused
  exact ⟨free, Option.isNone_iff_eq_none.mp unregistered, rfl⟩

theorem setActive_eq_some
    {world next : World} {stream : StreamPtr} {slot : Slot}
    {rxseq : PacketSeq}
    (returned : setActive world stream slot rxseq = some next) :
    ¬ ((world.streams stream).txAttachments slot).isAcknowledged = true ∧
      next =
        world.setTxAttachment stream slot fun attachment =>
          { attachment with sidSeq := rxseq, active := true } := by
  unfold setActive at returned
  rw [guard_bind_eq_some_iff] at returned
  obtain ⟨⟨_, unacknowledged⟩, returned⟩ := returned
  cases returned
  exact ⟨unacknowledged, rfl⟩

theorem setCurrent_eq_some
    {world next : World} {stream : StreamPtr} {slot : Slot}
    (returned : setCurrent world stream slot = some next) :
    (world.streams stream).txCurrentAttachment = none ∧
      ((world.streams stream).txAttachments slot).channel ≠ none ∧
      next =
        world.modifyStream stream fun entry =>
          { entry with txCurrentAttachment := some slot } := by
  unfold setCurrent at returned
  rw [guard_bind_eq_some_iff, guard_bind_eq_some_iff] at returned
  obtain ⟨noCurrent, inUse, returned⟩ := returned
  cases returned
  have attached :
      ((world.streams stream).txAttachments slot).channel ≠ none := by
    simpa [TxAttachment.isInUse, Option.isSome_iff_ne_none] using inUse
  exact ⟨noCurrent, attached, rfl⟩

theorem rxSetActive_eq_some
    {world next : World} {stream : StreamPtr} {slot : Slot}
    {channel : ChannelPtr} {sid : LocalStreamId} {rxseq : PacketSeq}
    (returned :
      rxSetActive world stream slot channel sid rxseq = some next) :
    ((world.streams stream).rxAttachments slot).channel = none ∧
      (world.channels channel).receiveSids.lookup sid = none ∧
      next =
        (world.modifyStream stream fun entry =>
          { entry with
            rxAttachments :=
              Function.update entry.rxAttachments slot
                ⟨some channel, sid, rxseq⟩ }).modifyChannel channel
          fun entry =>
            { entry with
              receiveSids := (sid, stream, slot) :: entry.receiveSids } := by
  unfold rxSetActive at returned
  rw [guard_bind_eq_some_iff, guard_bind_eq_some_iff] at returned
  obtain ⟨unused, unregistered, returned⟩ := returned
  cases returned
  have free :
      ((world.streams stream).rxAttachments slot).channel = none := by
    simpa [RxAttachment.isActive] using unused
  exact ⟨free, Option.isNone_iff_eq_none.mp unregistered, rfl⟩

theorem rxClear_eq_some
    {world next : World} {stream : StreamPtr} {slot : Slot}
    (returned : rxClear world stream slot = some next) :
    ((world.streams stream).rxAttachments slot).channel = none ∧
        next = world ∨
      ∃ channel,
        ((world.streams stream).rxAttachments slot).channel =
            some channel ∧
          next =
            (world.modifyChannel channel fun entry =>
              { entry with
                receiveSids :=
                  entry.receiveSids.filter
                    (·.1 ≠
                      ((world.streams stream).rxAttachments
                        slot).streamId) }).modifyStream stream
              fun entry =>
                { entry with
                  rxAttachments :=
                    Function.update entry.rxAttachments slot
                      { (world.streams stream).rxAttachments slot with
                        channel := none } } := by
  unfold rxClear at returned
  dsimp only at returned
  split at returned
  · next detached =>
      cases returned
      exact Or.inl ⟨detached, rfl⟩
  · next channel attached =>
      rw [guard_bind_eq_some_iff] at returned
      obtain ⟨_, returned⟩ := returned
      cases returned
      exact Or.inr ⟨channel, attached, rfl⟩

theorem detachAll_eq_some
    {env : Env} {world next : World} {channel : ChannelPtr}
    (returned : detachAll env world channel = some next) :
    ∃ (middle : World) (copies : List (PacketSeq × WaitingFrame))
        (sids : List (LocalStreamId × StreamPtr × Slot)),
      copies.Perm (world.channels channel).waitingAck ∧
        sids.Perm (world.channels channel).transmitSids ∧
        clearAll env
            (world.modifyChannel channel fun entry =>
              { entry with waitingAck := [] }).tick.tick sids =
          some middle ∧
        copies.foldlM (detachEntry env) middle = some next := by
  unfold detachAll at returned
  dsimp only at returned
  rw [bind_eq_some_iff] at returned
  obtain ⟨middle, cleared, returned⟩ := returned
  rw [guard_bind_eq_some_iff] at returned
  exact ⟨middle, _, _, env.iteratePerm _ _, env.iteratePerm _ _, cleared,
    returned.2⟩

/-- A pass of a loop of `stop` has found the attachment on the channel. -/
theorem stop_eq_some
    {env : Env} {world next : World} {channel : ChannelPtr}
    (returned : stop env world channel = some next) :
    ∃ (middle : World)
        (sids rsids : List (LocalStreamId × StreamPtr × Slot))
        (pass rxPass :
          World → LocalStreamId × StreamPtr × Slot → Option World),
      sids.Perm (world.channels channel).transmitSids ∧
        rsids.Perm (middle.channels channel).receiveSids ∧
        (∀ before entry after,
          pass before entry = some after →
          ((before.streams entry.2.1).txAttachments
              entry.2.2).channel = some channel ∧
            clear env before entry.2.1 entry.2.2 = some after) ∧
        (∀ before entry after,
          rxPass before entry = some after →
          rxClear before entry.2.1 entry.2.2 = some after) ∧
        sids.foldlM pass
            (world.modifyChannel channel fun entry =>
              { entry with active := false }).tick =
          some middle ∧
        rsids.foldlM rxPass middle.tick = some next := by
  unfold stop at returned
  dsimp only at returned
  rw [bind_eq_some_iff] at returned
  obtain ⟨middle, cleared, returned⟩ := returned
  refine ⟨middle, _, _, _, _, ?_, env.iteratePerm _ _, ?_, ?_, cleared,
    returned⟩
  · apply (env.iteratePerm _ _).trans
    rw [modifyChannel_channels_self]
  · intro before entry after passed
    exact guard_bind_eq_some_iff.mp passed
  · intro before entry after passed
    exact (guard_bind_eq_some_iff.mp passed).2

theorem construct_eq_some
    {world next : World} {channel : ChannelPtr} {root : StreamPtr}
    (returned : construct world channel root = some next) :
    world.IsNew root ∧
      ∃ attaching activated current,
        setAttaching
            (world.modifyChannel channel fun entry =>
              { entry with root := some root })
            root Slot.first channel 0 = some attaching ∧
          setActive attaching root Slot.first 1 = some activated ∧
          setCurrent activated root Slot.first = some current ∧
          rxSetActive current root Slot.first channel 0 1 = some next := by
  unfold construct at returned
  rw [guard_bind_eq_some_iff, guard_bind_eq_some_iff] at returned
  obtain ⟨_, isNew, returned⟩ := returned
  dsimp only at returned
  rw [bind_eq_some_iff] at returned
  obtain ⟨attaching, attached, returned⟩ := returned
  rw [bind_eq_some_iff] at returned
  obtain ⟨activated, active, returned⟩ := returned
  rw [bind_eq_some_iff] at returned
  obtain ⟨current, isCurrent, returned⟩ := returned
  exact ⟨isNew, attaching, activated, current, attached, active,
    isCurrent, returned⟩

theorem start_eq_some
    {env : Env} {world next : World} {channel : ChannelPtr}
    {initiate : Bool}
    (returned : start env world channel initiate = some next) :
    ∃ middle root usid,
      gotReadyTransmit env
          (world.modifyChannel channel fun entry =>
            { entry with active := true })
          channel = some middle ∧
        (middle.channels channel).root = some root ∧
        next =
          middle.modifyStream root fun entry =>
            { entry with usid := usid } := by
  unfold start at returned
  dsimp only at returned
  rw [bind_eq_some_iff] at returned
  obtain ⟨middle, transmitted, returned⟩ := returned
  rw [bind_eq_some_iff] at returned
  obtain ⟨root, rooted, returned⟩ := returned
  rw [guard_bind_eq_some_iff] at returned
  obtain ⟨_, returned⟩ := returned
  cases returned
  exact ⟨middle, root, _, transmitted, rooted, rfl⟩

theorem recalculateTransmitWindow_eq_some
    {env : Env} {world next : World} {stream : StreamPtr}
    {windowByte : UInt8}
    (returned :
      recalculateTransmitWindow env world stream windowByte =
        some next) :
    ∃ window,
      next =
          (world.modifyStream stream fun entry =>
            { entry with txWindow := window }) ∨
        txEnqueueChannelNow env
            (world.modifyStream stream fun entry =>
              { entry with txWindow := window })
            stream = some next := by
  unfold recalculateTransmitWindow at returned
  dsimp only at returned
  generalize
    (2 : Int) ^ ((if 158 < windowByte then 158 else windowByte) &&&
      0x1f).toNat - 1 = window at returned
  split at returned
  · exact ⟨window, Or.inr returned⟩
  · cases returned
    exact ⟨window, Or.inl rfl⟩

/-- Give a stream another priority without touching any queue. -/
def World.withPriority
    (world : World) (stream : StreamPtr) (priority : Priority) : World :=
  world.modifyStream stream fun entry => { entry with priority := priority }

theorem currentChannel_withPriority
    (world : World) (stream : StreamPtr) (priority : Priority)
    (other : StreamPtr) :
    (world.withPriority stream priority).currentChannel other =
      world.currentChannel other :=
  currentChannel_modifyStream world stream _ rfl rfl other

theorem flag_withPriority
    (world : World) (stream : StreamPtr) (priority : Priority)
    (other : StreamPtr) :
    ((world.withPriority stream priority).streams
        other).txEnqueuedChannel =
      (world.streams other).txEnqueuedChannel :=
  modifyStream_field world BaseStream.txEnqueuedChannel stream _ rfl other

/-- `set_priority` either leaves the stream out of every queue or puts it in
its new place in the queue it stands in. -/
theorem setPriority_eq_some
    {world next : World} {stream : StreamPtr} {priority : Priority}
    (returned : world.setPriority stream priority = some next) :
    next = world ∨
      ((world.streams stream).txEnqueuedChannel = false ∧
        next = world.withPriority stream priority) ∨
      ∃ channel,
        world.currentChannel stream = some channel ∧
          (world.streams stream).txEnqueuedChannel = true ∧
          next =
            ((world.withPriority stream priority).dequeueStream channel
              stream).enqueueStream channel stream := by
  unfold World.setPriority at returned
  split at returned
  · cases returned
    exact Or.inl rfl
  · dsimp only at returned
    right
    split at returned
    · next enqueued =>
        rw [bind_eq_some_iff] at returned
        obtain ⟨channel, current, returned⟩ := returned
        rw [guard_bind_eq_some_iff] at returned
        obtain ⟨_, returned⟩ := returned
        cases returned
        have sameFlag := flag_withPriority world stream priority stream
        have sameChannel :=
          currentChannel_withPriority world stream priority stream
        exact
          Or.inr
            ⟨channel, sameChannel.symm.trans current,
              sameFlag.symm.trans enqueued, rfl⟩
    · next notEnqueued =>
        cases returned
        have sameFlag := flag_withPriority world stream priority stream
        exact
          Or.inl
            ⟨sameFlag.symm.trans (Bool.eq_false_iff.mpr notEnqueued), rfl⟩

theorem acknowledgedOne_eq_some
    {channel : ChannelPtr} {world next : World} {txseq : PacketSeq}
    (returned : acknowledgedOne channel world txseq = some next) :
    next = world ∨
      ∃ entry,
        (world.channels channel).waitingAck.lookup txseq = some entry ∧
          next =
            (world.eraseWaitingAck channel txseq).record
              (.acknowledged entry.id) := by
  unfold acknowledgedOne at returned
  split at returned
  · cases returned
    exact Or.inl rfl
  · next entry found =>
      rw [bind_eq_some_iff] at returned
      obtain ⟨owner, _, returned⟩ := returned
      cases returned
      exact Or.inr ⟨entry, found, rfl⟩

theorem expireOne_cases
    (channel : ChannelPtr) (world : World) (txseq : PacketSeq) :
    expireOne channel world txseq = world ∨
      expireOne channel world txseq =
        world.eraseWaitingAck channel txseq ∨
      ∃ entry,
        (world.channels channel).waitingAck.lookup txseq = some entry ∧
          expireOne channel world txseq =
            (world.eraseWaitingAck channel txseq).record
              (.expired entry.id) := by
  unfold expireOne
  split
  · exact Or.inl rfl
  · next entry found =>
      dsimp only
      split
      · exact Or.inr (Or.inl rfl)
      · exact Or.inr (Or.inr ⟨entry, found, rfl⟩)

theorem missedOne_eq_some
    {env : Env} {channel : ChannelPtr} {world next : World}
    {txseq : PacketSeq}
    (returned : missedOne env channel world txseq = some next) :
    next = world ∧
        (∀ entry,
          (world.channels channel).waitingAck.lookup txseq = some entry →
          entry.frame.late = true) ∨
      ∃ entry owner kept middle,
        (world.channels channel).waitingAck.lookup txseq = some entry ∧
          entry.frame.owner = some owner ∧
          (world.record (.missed entry.id)).baseMissed env owner
              { entry.frame with late := true } = some (kept, middle) ∧
          (next = middle ∨ next = middle.eraseWaitingAck channel txseq) := by
  unfold missedOne at returned
  split at returned
  · next unknown =>
      cases returned
      refine Or.inl ⟨rfl, ?_⟩
      intro entry found
      rw [unknown] at found
      cases found
  · next entry found =>
      split at returned
      · next late =>
          cases returned
          refine Or.inl ⟨rfl, ?_⟩
          intro other otherFound
          rw [found, Option.some.injEq] at otherFound
          rw [← otherFound]
          exact late
      · rw [bind_eq_some_iff] at returned
        obtain ⟨owner, owned, returned⟩ := returned
        rw [bind_eq_some_iff] at returned
        obtain ⟨⟨kept, middle⟩, missed, returned⟩ := returned
        refine
          Or.inr ⟨entry, owner, kept, middle, found, owned, missed, ?_⟩
        dsimp only at returned
        split at returned
        · cases returned
          exact Or.inl rfl
        · cases returned
          exact Or.inr rfl

end StructuredStreams.Stream
