import StructuredStreams.Stream.Waiting

/-!
# The calls that return frames

How `missed`, `clear`, `detach_all` and `stop` go through the entries of a
`waiting_ack_` table and hand them back to their owners.
-/

namespace StructuredStreams.Stream

open World

/-- The entries of the channel's table that the call hands back. -/
def Call.Covers
    (world : World) (channel : ChannelPtr)
    (copied : PacketSeq × WaitingFrame) : Call → Prop
  | .missed missedOn txseq npackets =>
      missedOn = channel ∧
        copied.1 ∈ seqRange txseq npackets.toNatClampNeg
  | .clear stream slot =>
      ((world.streams stream).txAttachments slot).channel =
          some channel ∧
        copied.2.frame.owner = some stream
  | .detachAll detached => detached = channel
  | .stop stopped =>
      stopped = channel ∧
        ∃ entry ∈ (world.channels channel).transmitSids,
          copied.2.frame.owner = some entry.2.1
  | _ => False

/-- At most attachments are taken away. -/
structure OnlyDetaches (world next : World) : Prop where
  steps : Steps world next
  txQueue :
    ∀ stream,
      (next.streams stream).txQueue = (world.streams stream).txQueue
  txWaitingAck :
    ∀ stream,
      (next.streams stream).txWaitingAck =
        (world.streams stream).txWaitingAck
  attached :
    ∀ stream slot channel,
      ((next.streams stream).txAttachments slot).channel =
        some channel →
      ((world.streams stream).txAttachments slot).channel = some channel
  waitingAck :
    ∀ channel,
      (next.channels channel).waitingAck =
        (world.channels channel).waitingAck
  log :
    ∃ added,
      next.log = added ++ world.log ∧
        ∀ event ∈ added,
          ∃ stream channel enqueuedOn,
            event = .cleared stream channel enqueuedOn

theorem OnlyDetaches.refl (world : World) :
    OnlyDetaches world world where
  steps := Relation.ReflTransGen.refl
  txQueue := fun _ => rfl
  txWaitingAck := fun _ => rfl
  attached := fun _ _ _ attached => attached
  waitingAck := fun _ => rfl
  log := ⟨[], rfl, fun _ member => absurd member List.not_mem_nil⟩

theorem OnlyDetaches.trans
    {world middle next : World} (first : OnlyDetaches world middle)
    (second : OnlyDetaches middle next) :
    OnlyDetaches world next where
  steps := first.steps.trans second.steps
  txQueue := fun stream =>
    (second.txQueue stream).trans (first.txQueue stream)
  txWaitingAck := fun stream =>
    (second.txWaitingAck stream).trans (first.txWaitingAck stream)
  attached := fun stream slot channel attached =>
    first.attached stream slot channel
      (second.attached stream slot channel attached)
  waitingAck := fun channel =>
    (second.waitingAck channel).trans (first.waitingAck channel)
  log := by
    obtain ⟨earlier, middleLog, earlierCleared⟩ := first.log
    obtain ⟨later, nextLog, laterCleared⟩ := second.log
    refine ⟨later ++ earlier, ?_, ?_⟩
    · rw [nextLog, middleLog, List.append_assoc]
    · intro event member
      rcases List.mem_append.mp member with isLater | isEarlier
      · exact laterCleared event isLater
      · exact earlierCleared event isEarlier

private theorem onlyDetaches_tick (world : World) :
    OnlyDetaches world world.tick where
  steps := (quietSteps_tick world).steps
  txQueue := fun _ => rfl
  txWaitingAck := fun _ => rfl
  attached := fun _ _ _ attached => attached
  waitingAck := fun _ => rfl
  log := ⟨[], rfl, fun _ member => absurd member List.not_mem_nil⟩

private theorem onlyDetaches_modifyChannel
    (world : World) (channel : ChannelPtr)
    (change : StreamChannel → StreamChannel)
    (steps : Steps world (world.modifyChannel channel change))
    (waitingAck :
      (change (world.channels channel)).waitingAck =
        (world.channels channel).waitingAck) :
    OnlyDetaches world (world.modifyChannel channel change) where
  steps := steps
  txQueue := fun _ => rfl
  txWaitingAck := fun _ => rfl
  attached := fun _ _ _ attached => attached
  waitingAck :=
    modifyChannel_field world StreamChannel.waitingAck channel change
      waitingAck
  log := ⟨[], rfl, fun _ member => absurd member List.not_mem_nil⟩

private theorem onlyDetaches_unregister
    (world : World) {stream : StreamPtr} {slot : Slot}
    {channel : ChannelPtr} {sid : LocalStreamId}
    (attached :
      ((world.streams stream).txAttachments slot).channel = some channel)
    (found :
      (world.channels channel).transmitSids.lookup sid =
        some (stream, slot)) :
    OnlyDetaches world (world.unregister stream slot channel sid) where
  steps :=
    Relation.ReflTransGen.single
      (Step.unregister world stream slot channel sid attached found)
  txQueue := unregister_txQueue world stream slot channel sid
  txWaitingAck := by
    intro other
    by_cases same : other = stream
    · subst other
      rw [unregister_streams_self]
    · rw [unregister_streams_of_ne world same]
  attached := by
    intro other otherSlot otherChannel stillAttached
    by_cases same : other = stream
    · subst other
      rw [unregister_streams_self] at stillAttached
      dsimp only at stillAttached
      by_cases sameSlot : otherSlot = slot
      · subst otherSlot
        rw [Function.update_self] at stillAttached
        cases stillAttached
      · rwa [Function.update_of_ne sameSlot] at stillAttached
    · rwa [unregister_streams_of_ne world same] at stillAttached
  waitingAck := unregister_waitingAck world stream slot channel sid
  log := by
    refine ⟨[.cleared stream channel _], rfl, ?_⟩
    intro event member
    exact ⟨stream, channel, _, List.mem_singleton.mp member⟩

private theorem rxClear_onlyDetaches
    {world next : World} {stream : StreamPtr} {slot : Slot}
    (returned : rxClear world stream slot = some next) :
    OnlyDetaches world next := by
  have steps := (rxClear_steps returned).steps
  rcases rxClear_eq_some returned with
    ⟨_, unchanged⟩ | ⟨channel, _, cleared⟩
  · rw [unchanged]
    exact OnlyDetaches.refl world
  · rw [cleared] at steps ⊢
    refine ⟨steps, ?_, ?_, ?_, ?_, [], rfl, ?_⟩
    · exact modifyStream_field _ BaseStream.txQueue stream _ rfl
    · exact modifyStream_field _ BaseStream.txWaitingAck stream _ rfl
    · intro other otherSlot otherChannel attached
      rwa [modifyStream_field _ BaseStream.txAttachments stream _ rfl
        other] at attached
    · intro other
      rw [modifyStream_channels]
      exact
        modifyChannel_field world StreamChannel.waitingAck channel _ rfl
          other
    · intro event member
      exact absurd member List.not_mem_nil

private theorem returnFrame_returned
    {env : Env} {world next : World} {owner : StreamPtr}
    {entry : WaitingFrame} (onTime : entry.frame.late = false)
    (returned : world.returnFrame env owner entry = some next) :
    Returned world owner entry next := by
  unfold returnFrame at returned
  rw [if_neg (by rw [onTime]; decide), bind_eq_some_iff] at returned
  obtain ⟨⟨kept, middle⟩, missed, returned⟩ := returned
  cases returned
  exact baseMissed_returned missed

theorem missedOne_cases
    {env : Env} {channel : ChannelPtr} {world next : World}
    {txseq : PacketSeq} (sound : SoundTables world)
    (returned : missedOne env channel world txseq = some next) :
    (world.channels channel).waitingAck.lookup txseq = none ∧
        next = world ∨
      ∃ entry owner middle,
        (txseq, entry) ∈ (world.channels channel).waitingAck ∧
        entry.frame.owner = some owner ∧
        Returned world owner entry middle ∧
        (next = middle ∨ next = middle.eraseWaitingAck channel txseq) := by
  rcases missedOne_eq_some returned with
    ⟨unchanged, late⟩ | ⟨entry, owner, kept, middle, found, owned, missed,
      ends⟩
  · refine Or.inl ⟨?_, unchanged⟩
    -- An entry that is late would be in the table.
    rw [Option.eq_none_iff_forall_ne_some]
    intro entry found
    have onTime := sound.onTime channel _ (mem_of_lookup_eq_some found)
    exact Bool.false_ne_true (onTime.symm.trans (late entry found))
  · exact
      Or.inr ⟨entry, owner, middle, mem_of_lookup_eq_some found, owned,
        baseMissed_returned missed, ends⟩

theorem clearEntry_cases
    {env : Env} {stream : StreamPtr} {channel : ChannelPtr}
    {world next : World} {copied : PacketSeq × WaitingFrame}
    (onTime : copied.2.frame.late = false)
    (returned :
      clearEntry env stream channel world copied = some next) :
    copied.2.frame.owner ≠ some stream ∧ next = world ∨
      copied.2.frame.owner = some stream ∧
        ∃ middle,
          Returned world stream copied.2 middle ∧
            next = middle.eraseWaitingAck channel copied.1 := by
  unfold clearEntry at returned
  rw [guard_bind_eq_some_iff] at returned
  obtain ⟨_, returned⟩ := returned
  split at returned
  · next other =>
      cases returned
      exact Or.inl ⟨other, rfl⟩
  · next owned =>
      rw [bind_eq_some_iff] at returned
      obtain ⟨middle, handed, returned⟩ := returned
      cases returned
      exact
        Or.inr ⟨not_ne_iff.mp owned, middle,
          returnFrame_returned onTime handed, rfl⟩

theorem detachEntry_cases
    {env : Env} {world next : World}
    {copied : PacketSeq × WaitingFrame}
    (onTime : copied.2.frame.late = false)
    (returned : detachEntry env world copied = some next) :
    ∃ owner,
      copied.2.frame.owner = some owner ∧
        Returned world owner copied.2 next := by
  unfold detachEntry at returned
  rw [bind_eq_some_iff] at returned
  obtain ⟨owner, owned, returned⟩ := returned
  exact ⟨owner, owned, returnFrame_returned onTime returned⟩

theorem clear_eq_some
    {env : Env} {world next : World} {stream : StreamPtr} {slot : Slot}
    (returned : clear env world stream slot = some next) :
    ((world.streams stream).txAttachments slot).channel = none ∧
        next = world ∨
      ∃ (channel : ChannelPtr) (sid : LocalStreamId)
          (copies : List (PacketSeq × WaitingFrame)),
        ((world.streams stream).txAttachments slot).channel =
            some channel ∧
          (world.channels channel).transmitSids.lookup sid =
            some (stream, slot) ∧
          copies.Perm (world.channels channel).waitingAck ∧
          copies.foldlM (clearEntry env stream channel)
              (world.unregister stream slot channel sid).tick =
            some next := by
  unfold clear at returned
  dsimp only at returned
  split at returned
  · next detached =>
      cases returned
      exact Or.inl ⟨detached, rfl⟩
  · next channel attached =>
      rw [guard_bind_eq_some_iff] at returned
      obtain ⟨found, returned⟩ := returned
      refine Or.inr ⟨channel, _, _, attached, found, ?_, returned⟩
      apply (env.iteratePerm _ _).trans
      rw [unregister_waitingAck]

theorem clear_cases
    {env : Env} {world next : World} {stream : StreamPtr} {slot : Slot}
    (returned : clear env world stream slot = some next) :
    ((world.streams stream).txAttachments slot).channel = none ∧
        next = world ∨
      ∃ (channel : ChannelPtr) (middle : World)
          (copies : List (PacketSeq × WaitingFrame)),
        ((world.streams stream).txAttachments slot).channel =
            some channel ∧
          OnlyDetaches world middle ∧
          copies.Perm (world.channels channel).waitingAck ∧
          copies.foldlM (clearEntry env stream channel) middle =
            some next := by
  apply (clear_eq_some returned).imp_right
  rintro ⟨channel, sid, copies, attached, found, copied, folded⟩
  exact ⟨channel, _, copies, attached,
    (onlyDetaches_unregister world attached found).trans
      (onlyDetaches_tick _),
    copied, folded⟩

/-- The entries of the stream leave the table. -/
theorem clearEntry_fold_removes
    {env : Env} {stream : StreamPtr} {channel : ChannelPtr}
    {copies : List (PacketSeq × WaitingFrame)} {world next : World}
    (onTime : ∀ copied ∈ copies, copied.2.frame.late = false)
    (entered : ∀ copied ∈ copies, copied.2.id < world.clock)
    (folded :
      copies.foldlM (clearEntry env stream channel) world = some next)
    {copied : PacketSeq × WaitingFrame} (member : copied ∈ copies)
    (owned : copied.2.frame.owner = some stream) :
    copied ∉ (next.channels channel).waitingAck := by
  induction copies generalizing world with
  | nil =>
      exact absurd member List.not_mem_nil
  | cons first copies inductionHypothesis =>
      rw [List.foldlM_cons, bind_eq_some_iff] at folded
      obtain ⟨middle, passed, folded⟩ := folded
      have clock := (steps_acrossReturns.clearEntry passed).gainsNew.clock
      rcases List.mem_cons.mp member with isFirst | inRest
      · subst copied
        have later : Steps middle next :=
          foldlM_steps (fun _ _ _ => steps_acrossReturns.clearEntry) folded
        rcases clearEntry_cases (onTime first List.mem_cons_self) passed
          with ⟨other, _⟩ | ⟨_, reached, _, erased⟩
        · exact absurd owned other
        · refine later.gainsNew.not_mem ?_ ?_
          · rw [erased, eraseWaitingAck, modifyChannel_channels_self]
            simp
          · exact
              Nat.lt_of_lt_of_le (entered first List.mem_cons_self) clock
      · refine inductionHypothesis ?_ ?_ folded inRest
        · intro other otherMember
          exact onTime other (List.mem_cons_of_mem first otherMember)
        · intro other otherMember
          exact
            Nat.lt_of_lt_of_le
              (entered other (List.mem_cons_of_mem first otherMember))
              clock

/-- The entries of other streams stay. -/
theorem clear_keeps
    {env : Env} {world next : World} {stream : StreamPtr} {slot : Slot}
    {channel : ChannelPtr} (sound : SoundTables world)
    (attached :
      ((world.streams stream).txAttachments slot).channel = some channel)
    (returned : clear env world stream slot = some next)
    {copied : PacketSeq × WaitingFrame}
    (member : copied ∈ (world.channels channel).waitingAck)
    (other : copied.2.frame.owner ≠ some stream) :
    copied ∈ (next.channels channel).waitingAck := by
  rcases clear_cases returned with
    ⟨detached, _⟩ | ⟨cleared, middle, copies, clearedOn, detaches, listed,
      folded⟩
  · rw [attached] at detached
    cases detached
  · have sameChannel : cleared = channel :=
      Option.some.inj (clearedOn.symm.trans attached)
    subst cleared
    refine
      foldlM_invariant
        (fun reached => copied ∈ (reached.channels channel).waitingAck)
        ?_ ?_ folded
    · intro handed inCopies before after waiting passed
      have inTable := listed.subset inCopies
      have onTime := sound.onTime channel handed inTable
      rcases clearEntry_cases onTime passed with
        ⟨_, same⟩ | ⟨owned, reached, back, erased⟩
      · rw [same]
        exact waiting
      · have differentKey : copied.1 ≠ handed.1 := by
          intro sameKey
          have sameEntry : copied.2 = handed.2 :=
            (sound.distinctKeys channel).value_eq member
              (by rw [sameKey]; exact inTable)
          rw [sameEntry] at other
          exact other owned
        rw [erased, eraseWaitingAck, modifyChannel_channels_self]
        refine List.mem_filter.mpr ⟨?_, decide_eq_true differentKey⟩
        exact (back.quietSteps owned).keeps waiting
    · rw [detaches.waitingAck]
      exact member

/-- Clearing the attachments to a channel with an empty table returns
nothing. -/
theorem clearAll_onlyDetaches
    {env : Env} {world next : World} (channel : ChannelPtr)
    {sids : List (LocalStreamId × StreamPtr × Slot)}
    (empty : (world.channels channel).waitingAck = [])
    (attached :
      ∀ entry ∈ sids,
        ((world.streams entry.2.1).txAttachments entry.2.2).channel =
          some channel)
    (returned : clearAll env world sids = some next) :
    OnlyDetaches world next := by
  refine
    foldlM_invariant (OnlyDetaches world) ?_ (OnlyDetaches.refl world)
      returned
  intro entry member before after detaches cleared
  rcases clear_cases cleared with
    ⟨_, same⟩ | ⟨other, middle, copies, stillAttached, more, copied, folded⟩
  · rw [same]
    exact detaches
  · have attachedBefore :=
      detaches.attached entry.2.1 entry.2.2 other stillAttached
    have sameChannel : other = channel :=
      Option.some.inj (attachedBefore.symm.trans (attached entry member))
    rw [sameChannel, detaches.waitingAck, empty] at copied
    rw [copied.eq_nil] at folded
    cases folded
    exact detaches.trans more

theorem detachAll_cases
    {env : Env} {world next : World} {channel : ChannelPtr}
    (registered : Registered world)
    (returned : detachAll env world channel = some next) :
    ∃ (middle : World) (copies : List (PacketSeq × WaitingFrame)),
      OnlyDetaches
          (world.modifyChannel channel fun entry =>
            { entry with waitingAck := [] })
          middle ∧
        copies.Perm (world.channels channel).waitingAck ∧
        copies.foldlM (detachEntry env) middle = some next := by
  obtain ⟨middle, copies, sids, copied, listedSids, cleared, returned⟩ :=
    detachAll_eq_some returned
  refine ⟨middle, copies, ?_, copied, returned⟩
  have detached :=
    clearAll_onlyDetaches channel ?_ ?_ cleared
  · exact
      ((onlyDetaches_tick _).trans (onlyDetaches_tick _)).trans detached
  · rw [tick_channels, tick_channels, modifyChannel_channels_self]
  · intro entry member
    exact (registered channel entry (listedSids.subset member)).1

theorem stop_cases
    {env : Env} {world next : World} {channel : ChannelPtr}
    (returned : stop env world channel = some next) :
    ∃ (first second : World)
        (sids : List (LocalStreamId × StreamPtr × Slot))
        (pass :
          World → LocalStreamId × StreamPtr × Slot → Option World),
      OnlyDetaches world first ∧
        sids.Perm (world.channels channel).transmitSids ∧
        (∀ before after entry,
          pass before entry = some after →
          ((before.streams entry.2.1).txAttachments
              entry.2.2).channel = some channel ∧
            clear env before entry.2.1 entry.2.2 = some after) ∧
        sids.foldlM pass first = some second ∧
        OnlyDetaches second next := by
  obtain ⟨second, sids, rsids, pass, rxPass, copied, _, passes, rxPasses,
    cleared, returned⟩ := stop_eq_some returned
  have stopped :=
    (quietSteps_modifyChannel world channel
      (fun entry => { entry with active := false }) rfl rfl rfl).steps
  refine
    ⟨_, second, sids, pass,
      (onlyDetaches_modifyChannel world channel _ stopped rfl).trans
        (onlyDetaches_tick _),
      copied, fun before after entry => passes before entry after, cleared,
      ?_⟩
  refine
    (onlyDetaches_tick second).trans
      (foldlM_invariant (OnlyDetaches second.tick) ?_
        (OnlyDetaches.refl _) returned)
  intro entry _ before after detaches passed
  exact
    detaches.trans
      (rxClear_onlyDetaches (rxPasses before entry after passed))

/-- A stream that replies on the channel of its peer has transmitted a
segment, which waits under the number 2. -/
def waitingCalls : List Call :=
  [.construct 0 0, .start 0 true, .rxSetActive 1 .first 0 3 1,
    .setAttaching 1 .first 0 3, .setCurrent 1 .first, .writeData 1 1]

end StructuredStreams.Stream
