import StructuredStreams.Stream.Attachments

/-!
# The stream of an acknowledgment

An explicit acknowledgment carries the window of some stream: that of the id
in `ack_sid_`, or else the root stream.  Nothing sets the field, so that it
may hold any id.  The root is attached by the constructor of the channel and
stays so until it is cleared or the channel stops, whatever else happens to
the streams and to other channels.
-/

namespace StructuredStreams.Stream

open World

def rootSid : LocalStreamId :=
  0

namespace World

/-- The attachment that `transmit_ack` picks.  It asserts that there is
one. -/
def ackAttachment
    (world : World) (channel : ChannelPtr) (ackSid : LocalStreamId) :
    Option StreamSlot :=
  let receiveSids := (world.channels channel).receiveSids
  match receiveSids.lookup ackSid with
  | some attach => some attach
  | none => receiveSids.lookup rootSid

/-- `transmit_ack`, which sends nothing. -/
def transmitAck
    (world : World) (channel : ChannelPtr) (ackSid : LocalStreamId) :
    Option Bool := do
  let _attach ← world.ackAttachment channel ackSid
  return false

end World

/-- A call leaves the receive attachments alone, makes a new one, clears one
or clears those of a channel. -/
inductive RxStep (world : World) : Call → World → Prop
  | same (call : Call) (next : World) :
      next.receiving = world.receiving → RxStep world call next
  | enters (call : Call) (next : World) (channel : ChannelPtr)
      (sid : LocalStreamId) (item : StreamSlot) :
      world.receiving.place item = none →
        next.receiving = world.receiving.enter channel sid item →
          RxStep world call next
  | clears (stream : StreamPtr) (slot : Slot) (next : World) :
      next.receiving = world.receiving.leave (stream, slot) →
        RxStep world (.rxClear stream slot) next
  | stops (channel : ChannelPtr) (next : World)
      (rsids : List (LocalStreamId × StreamSlot)) :
      rsids ⊆ (world.channels channel).receiveSids →
        next.receiving =
            (rsids.map Prod.snd).foldl Registry.leave world.receiving →
          RxStep world (.stop channel) next

private theorem construct_enters_root
    {world next : World} {channel : ChannelPtr} {root : StreamPtr}
    (returned : World.construct world channel root = some next) :
    world.receiving.place (root, Slot.first) = none ∧
      next.receiving =
        world.receiving.enter channel rootSid (root, Slot.first) := by
  obtain ⟨_, attaching, activated, current, attached, active, isCurrent,
    returned⟩ := construct_eq_some returned
  have rooted :=
    SameAttachments.modifyChannel world channel
      (fun entry => { entry with root := some root }) rfl rfl
  obtain ⟨_, _, _, sameReceiving⟩ := setAttaching_enters attached
  have same : current.receiving = world.receiving :=
    ((setCurrent_sameAttachments isCurrent).receiving.trans
      (setActive_sameAttachments active).receiving).trans
        (sameReceiving.trans rooted.receiving)
  obtain ⟨free, _, entered, _⟩ := rxSetActive_enters returned
  rw [same] at free entered
  exact ⟨free, entered⟩

private theorem call_rxStep
    {env : Env} {world next : World} {call : Call}
    (returned : call.run env world = some next) :
    RxStep world call next := by
  cases call with
  | construct channel root =>
      obtain ⟨free, entered⟩ := construct_enters_root returned
      exact RxStep.enters _ next channel rootSid _ free entered
  | start channel initiate =>
      have same := sameAttachments_acrossWrites.start returned
      exact RxStep.same _ next same.receiving
  | stop channel =>
      obtain ⟨_, rsids, _, listed, _, left⟩ := stop_leaves returned
      exact RxStep.stops channel next rsids listed.subset left
  | detachAll channel =>
      obtain ⟨_, _, _, same⟩ := detachAll_leaves returned
      exact RxStep.same _ next same
  | setAttaching stream slot channel sid =>
      obtain ⟨_, _, _, same⟩ := setAttaching_enters returned
      exact RxStep.same _ next same
  | setActive stream slot rxseq =>
      have same := setActive_sameAttachments returned
      exact RxStep.same _ next same.receiving
  | setCurrent stream slot =>
      have same := setCurrent_sameAttachments returned
      exact RxStep.same _ next same.receiving
  | rxSetActive stream slot channel sid rxseq =>
      obtain ⟨free, _, entered, _⟩ := rxSetActive_enters returned
      exact RxStep.enters _ next channel sid _ free entered
  | rxClear stream slot =>
      exact RxStep.clears stream slot next (rxClear_leaves returned).1
  | clear stream slot =>
      exact RxStep.same _ next (clear_leaves returned).2
  | writeData stream totalSize =>
      have same := sameAttachments_acrossWrites.writeData returned
      exact RxStep.same _ next same.receiving
  | writeDatagram stream totalSize =>
      have same := sameAttachments_acrossWrites.writeDatagram returned
      exact RxStep.same _ next same.receiving
  | txEnqueueChannel stream immediately =>
      rw [Call.run] at returned
      split at returned
      · have same := (txEnqueueChannelNow_steps returned).sameAttachments
        exact RxStep.same _ next same.receiving
      · have same := (txEnqueueChannel_steps returned).sameAttachments
        exact RxStep.same _ next same.receiving
  | recalculateTransmitWindow stream windowByte =>
      have same :=
        sameAttachments_acrossWrites.recalculateTransmitWindow returned
      exact RxStep.same _ next same.receiving
  | setPriority stream priority =>
      have same := sameAttachments_acrossWrites.setPriority returned
      exact RxStep.same _ next same.receiving
  | gotReadyTransmit channel =>
      have same := (gotReadyTransmit_steps returned).sameAttachments
      exact RxStep.same _ next same.receiving
  | acknowledged channel txseq npackets =>
      have same :=
        SameAttachments.foldlM
          (fun _ _ _ => sameAttachments_acrossReturns.acknowledgedOne)
          returned
      exact RxStep.same _ next same.receiving
  | missed channel txseq npackets =>
      have same :=
        SameAttachments.foldlM
          (fun _ _ _ => sameAttachments_acrossReturns.missedOne) returned
      exact RxStep.same _ next same.receiving
  | expire channel txseq npackets =>
      cases returned
      refine RxStep.same _ _ (SameAttachments.receiving ?_)
      exact
        List.foldlRecOn _ _ (SameAttachments.refl world)
          fun reached same txseq _ =>
            same.trans
              (sameAttachments_acrossReturns.expireOne channel reached txseq)

/-- An attachment stays where it is, unless it is cleared itself or its
channel stops. -/
theorem RxStep.keeps
    {world next : World} {call : Call} (step : RxStep world call next)
    (consistent : world.receiving.Consistent) {stream : StreamPtr}
    {slot : Slot} {channel : ChannelPtr} {sid : LocalStreamId}
    (placed :
      world.receiving.place (stream, slot) = some (channel, sid))
    (notCleared : call ≠ .rxClear stream slot)
    (notStopped : call ≠ .stop channel) :
    next.receiving.place (stream, slot) = some (channel, sid) := by
  cases step with
  | same call next same =>
      rw [same]
      exact placed
  | enters call next other otherSid item free entered =>
      have different : (stream, slot) ≠ item := by
        rintro rfl
        rw [placed] at free
        cases free
      rw [entered]
      dsimp only [Registry.enter]
      rw [Function.update_of_ne different]
      exact placed
  | clears other otherSlot next left =>
      have different : (stream, slot) ≠ (other, otherSlot) := by
        rintro sameItem
        cases sameItem
        exact notCleared rfl
      rw [left, Registry.leave_place, Function.update_of_ne different]
      exact placed
  | stops other next rsids listed left =>
      rw [left, Registry.leaveAll_place]
      · exact placed
      · intro member
        obtain ⟨entry, isListed, sameItem⟩ := List.mem_map.mp member
        have elsewhere :=
          (consistent.entry_iff other entry.1 entry.2).mp (listed isListed)
        rw [sameItem, placed] at elsewhere
        cases elsewhere
        exact notStopped rfl

private theorem CallRun.place_of_kept
    {env : Env} {start final : World} {calls : List Call}
    (consistent : ConsistentAttachments start)
    (run : CallRun env start calls final) {stream : StreamPtr}
    {slot : Slot} {channel : ChannelPtr} {sid : LocalStreamId}
    (placed :
      start.receiving.place (stream, slot) = some (channel, sid))
    (notCleared : .rxClear stream slot ∉ calls)
    (notStopped : .stop channel ∉ calls) :
    ConsistentAttachments final ∧
      final.receiving.place (stream, slot) = some (channel, sid) := by
  induction run with
  | refl =>
      exact ⟨consistent, placed⟩
  | snoc call earlier returned inductionHypothesis =>
      rw [List.mem_append, not_or, List.mem_singleton] at notCleared
      rw [List.mem_append, not_or, List.mem_singleton] at notStopped
      obtain ⟨stillConsistent, stillPlaced⟩ :=
        inductionHypothesis notCleared.1 notStopped.1
      refine ⟨stillConsistent.call returned, ?_⟩
      exact
        (call_rxStep returned).keeps stillConsistent.receiving stillPlaced
          (Ne.symm notCleared.2) (Ne.symm notStopped.2)

private theorem ackAttachment_of_root
    {world : World} (consistent : ConsistentAttachments world)
    {channel : ChannelPtr} {root : StreamPtr} {slot : Slot}
    (placed :
      world.receiving.place (root, slot) = some (channel, rootSid))
    (ackSid : LocalStreamId) :
    ∃ item sid,
      world.ackAttachment channel ackSid = some item ∧
        world.receiving.place item = some (channel, sid) ∧
        (sid = ackSid ∨ item = (root, slot)) := by
  cases found :
      (world.channels channel).receiveSids.lookup ackSid with
  | some item =>
      have member := mem_of_lookup_eq_some found
      have itemPlaced :=
        (consistent.receiving.entry_iff channel ackSid item).mp member
      refine ⟨item, ackSid, ?_, itemPlaced, Or.inl rfl⟩
      rw [ackAttachment, found]
  | none =>
      have rooted := consistent.receiving.lookup_eq_some placed
      refine ⟨(root, slot), rootSid, ?_, placed, Or.inr rfl⟩
      rw [ackAttachment, found]
      exact rooted

/-- A channel that stopped has no stream for an acknowledgment. -/
theorem transmitAck_of_stopped
    {env : Env} {world next : World}
    (consistent : ConsistentAttachments world) {channel : ChannelPtr}
    (stopped : World.stop env world channel = some next)
    (ackSid : LocalStreamId) :
    next.transmitAck channel ackSid = none := by
  obtain ⟨_, rsids, _, listed, _, left⟩ := stop_leaves stopped
  have empty : (next.channels channel).receiveSids = [] := by
    change next.receiving.table channel = []
    rw [left]
    refine consistent.receiving.leaveAll_table ?_
    intro entry member
    exact List.mem_map_of_mem (listed.symm.subset member)
  rw [transmitAck, ackAttachment, empty]
  rfl

/-- In every run, whatever id an acknowledgment is sent for, it finds a
stream that is attached to the channel, that of the id or the root, until the
root is cleared there or the channel stops.  Once it stopped there is
none. -/
theorem acknowledgment_finds_stream
    {env : Env} {start reached begun final : World}
    {earlier later : List Call} {channel : ChannelPtr} {root : StreamPtr}
    (initial : start.Initial)
    (before : CallRun env start earlier reached)
    (constructed : CallStep env reached (.construct channel root) begun)
    (after : CallRun env begun later final)
    (notCleared : .rxClear root Slot.first ∉ later)
    (notStopped : .stop channel ∉ later) (ackSid : LocalStreamId) :
    final.transmitAck channel ackSid = some false ∧
      (∃ stream slot,
        final.ackAttachment channel ackSid = some (stream, slot) ∧
          ((final.streams stream).rxAttachments slot).channel =
              some channel ∧
          (((final.streams stream).rxAttachments slot).streamId =
                ackSid ∨
            (stream = root ∧ slot = Slot.first))) ∧
      ∀ next,
        CallStep env final (.stop channel) next →
          next.transmitAck channel ackSid = none := by
  have consistent := before.consistentAttachments initial
  obtain ⟨_, entered⟩ := construct_enters_root constructed
  have placed :
      begun.receiving.place (root, Slot.first) =
        some (channel, rootSid) := by
    rw [entered]
    exact Function.update_self _ _ _
  obtain ⟨stillConsistent, stillPlaced⟩ :=
    after.place_of_kept (consistent.call constructed) placed notCleared
      notStopped
  obtain ⟨⟨stream, slot⟩, sid, found, isPlaced, isSid⟩ :=
    ackAttachment_of_root stillConsistent stillPlaced ackSid
  obtain ⟨attached, hasId⟩ := rxPlace_eq_some_iff.mp isPlaced
  refine ⟨?_, ⟨stream, slot, found, attached, ?_⟩, ?_⟩
  · rw [transmitAck, found]
    rfl
  · rcases isSid with sameId | sameItem
    · exact Or.inl (hasId.trans sameId)
    · exact Or.inr (Prod.mk.inj sameItem)
  · intro next stopped
    exact transmitAck_of_stopped stillConsistent stopped ackSid

/-- A stream attaches to a channel and is cleared again, while another channel
is stopped. -/
def acknowledgingCalls : List Call :=
  [.rxSetActive 1 Slot.first 0 5 2, .construct 9 2, .stop 9,
    .rxClear 1 Slot.first, .rxSetActive 3 Slot.second 0 6 4]

theorem acknowledgment_finds_stream_or_root :
    ∃ begun final,
      CallStep (Env.constant true) (World.create [1] [2])
          (.construct 0 0) begun ∧
        CallRun (Env.constant true) begun acknowledgingCalls final ∧
          final.transmitAck 0 5 = some false ∧
            (∃ stream slot,
              final.ackAttachment 0 5 = some (stream, slot) ∧
                ((final.streams stream).rxAttachments slot).channel =
                    some 0 ∧
                (((final.streams stream).rxAttachments slot).streamId = 5 ∨
                  (stream = 0 ∧ slot = Slot.first))) ∧
            ∀ next,
              CallStep (Env.constant true) final (.stop 0) next →
                next.transmitAck 0 5 = none := by
  have returns :
      (World.construct (World.create [1] [2]) 0 0 >>= fun begun =>
        Call.runAll (Env.constant true) begun acknowledgingCalls).isSome :=
    rfl
  obtain ⟨final, returned⟩ := Option.isSome_iff_exists.mp returns
  rw [bind_eq_some_iff] at returned
  obtain ⟨begun, constructed, ran⟩ := returned
  have run :
      CallRun (Env.constant true) begun acknowledgingCalls final :=
    CallRun.of_runAll ran
  exact
    ⟨begun, final, constructed, run,
      acknowledgment_finds_stream (World.create_initial [1] [2]) Run.refl
        constructed run (by decide) (by decide) 5⟩

end StructuredStreams.Stream
