import Mathlib.Data.List.ReduceOption
import StructuredStreams.Foundation.Run
import StructuredStreams.Stream.Segmentation

/-!
# Where queued frames come from

A finer account of a run than its small steps give: what is written into a
history besides the movements of frames, and which insertions into a
transmit queue are writes.  An insertion that is no write brings back a
datagram that was reported missed.
-/

namespace StructuredStreams.Stream

open World

/-- A frame came into a transmit queue or left it for a channel. -/
def Event.Moves : Event → Prop
  | .enqueued _ _ _ => True
  | .transmitted _ _ _ => True
  | _ => False

/-- A change of a stream that leaves alone its queue and what it keeps of
the data written to it. -/
structure KeepsWritten (entry next : BaseStream) : Prop where
  txQueue : next.txQueue = entry.txQueue
  txByteSeq : next.txByteSeq = entry.txByteSeq
  txWaitingAck : next.txWaitingAck = entry.txWaitingAck
  txWaitingSize : next.txWaitingSize = entry.txWaitingSize

/-- What an application puts in the transmit queue of a stream. -/
inductive Write where
  | segment (stream : StreamPtr) (size : Nat)
  | fragment (stream : StreamPtr)
  deriving DecidableEq, Repr

/-- The world after a fragment of a datagram is queued. -/
def fragmentWritten (world : World) (stream : StreamPtr) : World :=
  world.insertPacket stream
    { TxFrame.create stream .empty with
      txByteSeq := (world.streams stream).txByteSeq }

/-- The world after a datagram that was reported missed is queued again. -/
def sentAgain
    (world : World) (stream : StreamPtr) (entry : WaitingFrame) : World :=
  (world.record (.missed entry.id)).insertPacket stream
    { entry.frame with late := true }

/-- The smallest changes, labelled with what they write. -/
inductive Change : World → Option Write → World → Prop
  | transmit {world next : World} :
      TxStep world next → Change world none next
  | segment (world : World) (stream : StreamPtr) (size : Nat) :
      Change world (some (.segment stream size))
        (segmentWritten world stream size)
  | fragment (world : World) (stream : StreamPtr) :
      Change world (some (.fragment stream)) (fragmentWritten world stream)
  | again (world : World) (stream : StreamPtr) (entry : WaitingFrame) :
      entry.frame.type = .empty →
      Change world none (sentAgain world stream entry)
  | record (world : World) (event : Event) :
      ¬ event.Moves → Change world none (world.record event)
  | modifyChannel
      (world : World) (channel : ChannelPtr)
      (change : StreamChannel → StreamChannel) :
      Change world none (world.modifyChannel channel change)
  | modifyStream
      (world : World) (stream : StreamPtr)
      (change : BaseStream → BaseStream) :
      KeepsWritten (world.streams stream) (change (world.streams stream)) →
      Change world none (world.modifyStream stream change)

/-- Changes lead from one world to the other, and these are the writes among
them, the latest last. -/
def Writes (world : World) (written : List Write) (next : World) : Prop :=
  ∃ labels, Run Change world labels next ∧ labels.reduceOption = written

namespace Writes

variable {world middle next : World} {first second : List Write}

theorem refl (world : World) : Writes world [] world :=
  ⟨[], Run.refl, rfl⟩

theorem trans
    (earlier : Writes world first middle)
    (later : Writes middle second next) :
    Writes world (first ++ second) next := by
  obtain ⟨labels, run, written⟩ := earlier
  obtain ⟨moreLabels, more, writtenLater⟩ := later
  refine ⟨labels ++ moreLabels, run.append more, ?_⟩
  rw [List.reduceOption_append, written, writtenLater]

/-- Nothing is written before or after. -/
theorem trans_silent
    (earlier : Writes world [] middle)
    (later : Writes middle [] next) :
    Writes world [] next :=
  earlier.trans later

theorem silent (change : Change world none next) :
    Writes world [] next :=
  ⟨[none], Run.single change, rfl⟩

theorem single {write : Write} (change : Change world (some write) next) :
    Writes world [write] next :=
  ⟨[some write], Run.single change, rfl⟩

/-- A fold of passes that each write what belongs to their item. -/
theorem foldlM
    {α : Type} {pass : World → α → Option World}
    {write : α → Write} {items : List α}
    (passes :
      ∀ before item after,
        pass before item = some after →
        Writes before [write item] after)
    (folded : items.foldlM pass world = some next) :
    Writes world (items.map write) next := by
  induction items generalizing world with
  | nil =>
      cases folded
      exact refl _
  | cons item items inductionHypothesis =>
      rw [List.foldlM_cons, bind_eq_some_iff] at folded
      obtain ⟨middle, passed, folded⟩ := folded
      exact
        (passes world item middle passed).trans
          (inductionHypothesis folded)

private theorem foldlM_silent
    {α : Type} {pass : World → α → Option World} {items : List α}
    (passes :
      ∀ before item after,
        pass before item = some after → Writes before [] after)
    (folded : items.foldlM pass world = some next) :
    Writes world [] next :=
  foldlM_related refl trans_silent passes folded

end Writes

theorem TxSteps.writes
    {world next : World} (steps : TxSteps world next) :
    Writes world [] next := by
  induction steps with
  | refl =>
      exact Writes.refl _
  | tail _ step inductionHypothesis =>
      exact
        inductionHypothesis.trans_silent
          (Writes.silent (Change.transmit step))

private theorem writes_tick (world : World) : Writes world [] world.tick :=
  Writes.silent (Change.transmit (TxStep.tick world))

private theorem writes_record
    (world : World) {event : Event} (still : ¬ event.Moves) :
    Writes world [] (world.record event) :=
  Writes.silent (Change.record world event still)

private theorem writes_modifyChannel
    (world : World) (channel : ChannelPtr)
    (change : StreamChannel → StreamChannel) :
    Writes world [] (world.modifyChannel channel change) :=
  Writes.silent (Change.modifyChannel world channel change)

private theorem writes_modifyStream
    (world : World) (stream : StreamPtr)
    (change : BaseStream → BaseStream)
    (keeps :
      KeepsWritten (world.streams stream)
        (change (world.streams stream))) :
    Writes world [] (world.modifyStream stream change) :=
  Writes.silent (Change.modifyStream world stream change keeps)

theorem Returned.writes
    {world next : World} {owner : StreamPtr} {entry : WaitingFrame}
    (returned : Returned world owner entry next) :
    Writes world [] next := by
  unfold Returned at returned
  split at returned
  · next isEmpty =>
      have again := Change.again world owner entry isEmpty
      exact
        (Writes.silent again).trans_silent (TxSteps.writes returned)
  · exact
      (writes_record world id).trans_silent (TxSteps.writes returned)

private theorem writes_eraseWaitingAck
    (world : World) (channel : ChannelPtr) (pktseq : PacketSeq) :
    Writes world [] (world.eraseWaitingAck channel pktseq) :=
  writes_modifyChannel world channel _

private theorem acknowledgedOne_writes
    {channel : ChannelPtr} {world next : World} {txseq : PacketSeq}
    (returned : acknowledgedOne channel world txseq = some next) :
    Writes world [] next := by
  rcases acknowledgedOne_eq_some returned with
    unchanged | ⟨entry, _, erased⟩
  · rw [unchanged]
    exact Writes.refl world
  · rw [erased]
    exact
      (writes_eraseWaitingAck world channel txseq).trans_silent
        (writes_record _ id)

private theorem expireOne_writes
    (channel : ChannelPtr) (world : World) (txseq : PacketSeq) :
    Writes world [] (expireOne channel world txseq) := by
  have erase := writes_eraseWaitingAck world channel txseq
  rcases expireOne_cases channel world txseq with
    unchanged | erased | ⟨entry, _, erased⟩
  · rw [unchanged]
    exact Writes.refl world
  · rw [erased]
    exact erase
  · rw [erased]
    exact erase.trans_silent (writes_record _ id)

private theorem missedOne_writes
    {env : Env} {channel : ChannelPtr} {world next : World}
    {txseq : PacketSeq}
    (returned : missedOne env channel world txseq = some next) :
    Writes world [] next := by
  rcases missedOne_eq_some returned with
    ⟨unchanged, _⟩ | ⟨entry, owner, kept, middle, _, owned, missed, ends⟩
  · rw [unchanged]
    exact Writes.refl world
  · have handed := (baseMissed_returned missed).writes
    rcases ends with same | erased
    · rw [same]
      exact handed
    · rw [erased]
      exact
        handed.trans_silent (writes_eraseWaitingAck middle channel txseq)

private theorem returnFrame_writes
    {env : Env} {world next : World} {owner : StreamPtr}
    {entry : WaitingFrame}
    (returned : world.returnFrame env owner entry = some next) :
    Writes world [] next := by
  unfold World.returnFrame at returned
  split at returned
  · cases returned
    exact writes_record world id
  · rw [bind_eq_some_iff] at returned
    obtain ⟨⟨kept, middle⟩, missed, returned⟩ := returned
    cases returned
    exact (baseMissed_returned missed).writes

private theorem clearEntry_writes
    {env : Env} {stream : StreamPtr} {channel : ChannelPtr}
    {world next : World} {copied : PacketSeq × WaitingFrame}
    (returned :
      clearEntry env stream channel world copied = some next) :
    Writes world [] next := by
  unfold World.clearEntry at returned
  rw [guard_bind_eq_some_iff] at returned
  obtain ⟨_, returned⟩ := returned
  split at returned
  · cases returned
    exact Writes.refl world
  · rw [bind_eq_some_iff] at returned
    obtain ⟨middle, handed, returned⟩ := returned
    cases returned
    exact
      (returnFrame_writes handed).trans_silent
        (writes_eraseWaitingAck middle channel copied.1)

private theorem detachEntry_writes
    {env : Env} {world next : World} {copied : PacketSeq × WaitingFrame}
    (returned : detachEntry env world copied = some next) :
    Writes world [] next := by
  unfold World.detachEntry at returned
  rw [bind_eq_some_iff] at returned
  obtain ⟨owner, _, returned⟩ := returned
  exact returnFrame_writes returned

private theorem writes_setTxAttachment
    (world : World) (stream : StreamPtr) (slot : Slot)
    (change : TxAttachment → TxAttachment) :
    Writes world [] (world.setTxAttachment stream slot change) :=
  writes_modifyStream world stream _ ⟨rfl, rfl, rfl, rfl⟩

private theorem writes_unregister
    (world : World) (stream : StreamPtr) (slot : Slot)
    (channel : ChannelPtr) (sid : LocalStreamId) :
    Writes world [] (world.unregister stream slot channel sid) := by
  unfold unregister
  refine
    Writes.trans_silent ?_
      (writes_modifyStream _ stream _ ⟨rfl, rfl, rfl, rfl⟩)
  refine Writes.trans_silent ?_ (writes_modifyChannel _ channel _)
  refine Writes.trans_silent ?_ (writes_setTxAttachment _ stream slot _)
  refine Writes.trans_silent ?_ (writes_modifyChannel _ channel _)
  refine
    Writes.trans_silent ?_
      (writes_modifyStream _ stream _ ⟨rfl, rfl, rfl, rfl⟩)
  exact writes_record world id

private theorem clear_writes
    {env : Env} {world next : World} {stream : StreamPtr} {slot : Slot}
    (returned : clear env world stream slot = some next) :
    Writes world [] next := by
  unfold clear at returned
  dsimp only at returned
  split at returned
  · cases returned
    exact Writes.refl world
  · next channel attached =>
      rw [guard_bind_eq_some_iff] at returned
      obtain ⟨_, returned⟩ := returned
      have unregistered :=
        writes_unregister world stream slot channel
          ((world.streams stream).txAttachments slot).streamId
      have handedBack :=
        Writes.foldlM_silent (fun _ _ _ => clearEntry_writes) returned
      exact
        (unregistered.trans_silent (writes_tick _)).trans_silent handedBack

private theorem rxClear_writes
    {world next : World} {stream : StreamPtr} {slot : Slot}
    (returned : rxClear world stream slot = some next) :
    Writes world [] next := by
  rcases rxClear_eq_some returned with
    ⟨_, unchanged⟩ | ⟨channel, _, cleared⟩
  · rw [unchanged]
    exact Writes.refl world
  · rw [cleared]
    exact
      (writes_modifyChannel world channel _).trans_silent
        (writes_modifyStream _ stream _ ⟨rfl, rfl, rfl, rfl⟩)

private theorem detachAll_writes
    {env : Env} {world next : World} {channel : ChannelPtr}
    (returned : detachAll env world channel = some next) :
    Writes world [] next := by
  obtain ⟨middle, copies, sids, _, _, cleared, returned⟩ :=
    detachAll_eq_some returned
  have emptied :=
    writes_modifyChannel world channel fun entry =>
      { entry with waitingAck := [] }
  have ticked :=
    (emptied.trans_silent (writes_tick _)).trans_silent (writes_tick _)
  have detached :=
    Writes.foldlM_silent (fun _ _ _ => clear_writes) cleared
  have handedBack :=
    Writes.foldlM_silent (fun _ _ _ => detachEntry_writes) returned
  exact (ticked.trans_silent detached).trans_silent handedBack

private theorem stop_writes
    {env : Env} {world next : World} {channel : ChannelPtr}
    (returned : stop env world channel = some next) :
    Writes world [] next := by
  obtain ⟨middle, sids, rsids, pass, rxPass, _, _, passes, rxPasses,
    cleared, returned⟩ := stop_eq_some returned
  have stopped :=
    writes_modifyChannel world channel fun entry =>
      { entry with active := false }
  have detached : Writes world [] middle := by
    refine (stopped.trans_silent (writes_tick _)).trans_silent ?_
    refine Writes.foldlM_silent ?_ cleared
    intro before entry after passed
    exact clear_writes (passes before entry after passed).2
  refine (detached.trans_silent (writes_tick middle)).trans_silent ?_
  refine Writes.foldlM_silent ?_ returned
  intro before entry after passed
  exact rxClear_writes (rxPasses before entry after passed)

private theorem setAttaching_writes
    {world next : World} {stream : StreamPtr} {slot : Slot}
    {channel : ChannelPtr} {sid : LocalStreamId}
    (returned :
      setAttaching world stream slot channel sid = some next) :
    Writes world [] next := by
  obtain ⟨_, _, attached⟩ := setAttaching_eq_some returned
  rw [attached]
  exact
    (writes_setTxAttachment world stream slot _).trans_silent
      (writes_modifyChannel _ channel _)

private theorem setActive_writes
    {world next : World} {stream : StreamPtr} {slot : Slot}
    {rxseq : PacketSeq}
    (returned : setActive world stream slot rxseq = some next) :
    Writes world [] next := by
  obtain ⟨_, activated⟩ := setActive_eq_some returned
  rw [activated]
  exact writes_setTxAttachment world stream slot _

private theorem setCurrent_writes
    {world next : World} {stream : StreamPtr} {slot : Slot}
    (returned : setCurrent world stream slot = some next) :
    Writes world [] next := by
  obtain ⟨_, _, isCurrent⟩ := setCurrent_eq_some returned
  rw [isCurrent]
  exact writes_modifyStream world stream _ ⟨rfl, rfl, rfl, rfl⟩

private theorem rxSetActive_writes
    {world next : World} {stream : StreamPtr} {slot : Slot}
    {channel : ChannelPtr} {sid : LocalStreamId} {rxseq : PacketSeq}
    (returned :
      rxSetActive world stream slot channel sid rxseq = some next) :
    Writes world [] next := by
  obtain ⟨_, _, attached⟩ := rxSetActive_eq_some returned
  rw [attached]
  exact
    (writes_modifyStream world stream _
      ⟨rfl, rfl, rfl, rfl⟩).trans_silent
      (writes_modifyChannel _ channel _)

private theorem construct_writes
    {world next : World} {channel : ChannelPtr} {root : StreamPtr}
    (returned : construct world channel root = some next) :
    Writes world [] next := by
  obtain ⟨_, attaching, activated, current, attached, active, isCurrent,
    returned⟩ := construct_eq_some returned
  have rooted :=
    writes_modifyChannel world channel fun entry =>
      { entry with root := some root }
  have toActivated :=
    (setAttaching_writes attached).trans_silent (setActive_writes active)
  have toReceiving :=
    (setCurrent_writes isCurrent).trans_silent
      (rxSetActive_writes returned)
  exact rooted.trans_silent (toActivated.trans_silent toReceiving)

private theorem writeSegment_writes
    {env : Env} {world next : World} {stream : StreamPtr} {size : Nat}
    (returned : writeSegment env stream world size = some next) :
    Writes world [.segment stream size] next :=
  (Writes.single (Change.segment world stream size)).trans
    (TxSteps.writes (txEnqueueChannelNow_steps returned))

private theorem writeFragment_writes
    {env : Env} {world next : World} {stream : StreamPtr} {size : Nat}
    (returned : writeFragment env stream world size = some next) :
    Writes world [.fragment stream] next :=
  (Writes.single (Change.fragment world stream)).trans
    (TxSteps.writes (txEnqueueChannelNow_steps returned))

private theorem start_writes
    {env : Env} {world next : World} {channel : ChannelPtr}
    {initiate : Bool}
    (returned : start env world channel initiate = some next) :
    Writes world [] next := by
  obtain ⟨middle, root, usid, transmitted, _, named⟩ :=
    start_eq_some returned
  rw [named]
  have activated :=
    writes_modifyChannel world channel fun entry =>
      { entry with active := true }
  have transmits := (gotReadyTransmit_steps transmitted).writes
  exact
    (activated.trans_silent transmits).trans_silent
      (writes_modifyStream middle root _ ⟨rfl, rfl, rfl, rfl⟩)

private theorem recalculateTransmitWindow_writes
    {env : Env} {world next : World} {stream : StreamPtr}
    {windowByte : UInt8}
    (returned :
      recalculateTransmitWindow env world stream windowByte =
        some next) :
    Writes world [] next := by
  obtain ⟨window, reached⟩ := recalculateTransmitWindow_eq_some returned
  have changed :=
    writes_modifyStream world stream
      (fun entry => { entry with txWindow := window })
      ⟨rfl, rfl, rfl, rfl⟩
  rcases reached with same | transmitted
  · rw [same]
    exact changed
  · exact
      changed.trans_silent (txEnqueueChannelNow_steps transmitted).writes

private theorem setPriority_writes
    {world next : World} {stream : StreamPtr} {priority : Priority}
    (returned : world.setPriority stream priority = some next) :
    Writes world [] next := by
  have changed : Writes world [] (world.withPriority stream priority) :=
    writes_modifyStream world stream _ ⟨rfl, rfl, rfl, rfl⟩
  rcases setPriority_eq_some returned with
    unchanged | ⟨_, outOfLine⟩ | ⟨channel, _, _, inLine⟩
  · rw [unchanged]
    exact Writes.refl world
  · rw [outOfLine]
    exact changed
  · rw [inLine]
    unfold enqueueStream dequeueStream
    have dequeued :=
      changed.trans_silent
        (writes_modifyChannel _ channel fun entry =>
          { entry with
            sendingStreams := entry.sendingStreams.filter (· ≠ stream) })
    exact dequeued.trans_silent (writes_modifyChannel _ channel _)

/-- What a call writes: only the calls of the application write. -/
def Call.writes (env : Env) : Call → List Write
  | .writeData stream totalSize =>
      (segmentSizes env.mtu (totalSize + 1) totalSize).map
        (Write.segment stream)
  | .writeDatagram stream totalSize =>
      (segmentSizes env.mtu (totalSize + 1) totalSize).map fun _ =>
        Write.fragment stream
  | _ => []

private theorem writeData_writes
    {env : Env} {world next : World} {stream : StreamPtr}
    {totalSize : Nat}
    (returned : writeData env world stream totalSize = some next) :
    Writes world ((Call.writeData stream totalSize).writes env) next := by
  unfold World.writeData at returned
  rw [guard_bind_eq_some_iff] at returned
  exact Writes.foldlM (fun _ _ _ => writeSegment_writes) returned.2

private theorem writeDatagram_writes
    {env : Env} {world next : World} {stream : StreamPtr}
    {totalSize : Nat}
    (returned : writeDatagram env world stream totalSize = some next) :
    Writes world ((Call.writeDatagram stream totalSize).writes env)
      next := by
  unfold World.writeDatagram at returned
  rw [bind_eq_some_iff] at returned
  obtain ⟨middle, written, returned⟩ := returned
  have fragments :=
    Writes.foldlM (fun _ _ _ => writeFragment_writes) written
  have transmitted :=
    fragments.trans (TxSteps.writes (txEnqueueChannelNow_steps returned))
  rwa [List.append_nil] at transmitted

private theorem Call.run_writes
    {env : Env} {world next : World} {call : Call}
    (returned : call.run env world = some next) :
    Writes world (call.writes env) next := by
  cases call with
  | construct channel root =>
      exact construct_writes returned
  | start channel initiate =>
      exact start_writes returned
  | stop channel =>
      exact stop_writes returned
  | detachAll channel =>
      exact detachAll_writes returned
  | setAttaching stream slot channel sid =>
      exact setAttaching_writes returned
  | setActive stream slot rxseq =>
      exact setActive_writes returned
  | setCurrent stream slot =>
      exact setCurrent_writes returned
  | rxSetActive stream slot channel sid rxseq =>
      exact rxSetActive_writes returned
  | rxClear stream slot =>
      exact rxClear_writes returned
  | clear stream slot =>
      exact clear_writes returned
  | writeData stream totalSize =>
      exact writeData_writes returned
  | writeDatagram stream totalSize =>
      exact writeDatagram_writes returned
  | txEnqueueChannel stream immediately =>
      rw [Call.run] at returned
      split at returned
      · exact (TxSteps.writes (txEnqueueChannelNow_steps returned))
      · exact (txEnqueueChannel_steps returned).writes
  | recalculateTransmitWindow stream windowByte =>
      exact recalculateTransmitWindow_writes returned
  | setPriority stream priority =>
      exact setPriority_writes returned
  | gotReadyTransmit channel =>
      exact (gotReadyTransmit_steps returned).writes
  | acknowledged channel txseq npackets =>
      exact
        Writes.foldlM_silent (fun _ _ _ => acknowledgedOne_writes) returned
  | missed channel txseq npackets =>
      exact Writes.foldlM_silent (fun _ _ _ => missedOne_writes) returned
  | expire channel txseq npackets =>
      cases returned
      exact
        List.foldlRecOn _ _ (Writes.refl world)
          fun reached writes txseq _ =>
            writes.trans_silent (expireOne_writes channel reached txseq)

/-- A run writes what its calls write, one after the other. -/
theorem CallRun.writes
    {env : Env} {world next : World} {calls : List Call}
    (run : CallRun env world calls next) :
    Writes world (calls.flatMap (Call.writes env)) next := by
  induction run with
  | refl =>
      exact Writes.refl world
  | snoc call _ taken inductionHypothesis =>
      rw [List.flatMap_append, List.flatMap_singleton]
      exact inductionHypothesis.trans (Call.run_writes taken)

end StructuredStreams.Stream
