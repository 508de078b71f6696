import StructuredStreams.Foundation.Placement
import StructuredStreams.Stream.Steps

/-!
# The queue of sending streams and the flag that mirrors it

A stream stands in the sending queue of the channel of its current
attachment exactly while `tx_enqueued_channel_` is set, as long as no
attachment is cleared while its stream stands in the queue of another
channel: `stream_tx_attachment::clear` then resets the flag and takes the
stream out of the wrong queue.
-/

namespace StructuredStreams.Stream

open World

/-- The channel that the flag says the stream is enqueued on. -/
def World.enqueuedOn (world : World) (stream : StreamPtr) :
    Option ChannelPtr :=
  if (world.streams stream).txEnqueuedChannel then
    world.currentChannel stream
  else none

/-- The sending queues of all channels. -/
def World.sendingQueues (world : World) : ChannelPtr → List StreamPtr :=
  fun channel => (world.channels channel).sendingStreams

/-- The flags mirror the queues, and a current attachment is in use. -/
structure Coherent (world : World) : Prop where
  mirrors : Mirrors world.sendingQueues world.enqueuedOn
  currentInUse :
    ∀ stream slot,
      (world.streams stream).txCurrentAttachment = some slot →
      ((world.streams stream).txAttachments slot).channel ≠ none
  enqueuedAttached :
    ∀ stream,
      (world.streams stream).txEnqueuedChannel = true →
      (world.streams stream).txCurrentAttachment ≠ none

/-- An attachment was cleared while its stream was enqueued on another
channel. -/
def Event.ClearedElsewhere : Event → Prop
  | .cleared _ channel (some enqueuedOn) => enqueuedOn ≠ channel
  | _ => False

instance (event : Event) : Decidable event.ClearedElsewhere :=
  match event with
  | .cleared _ channel (some enqueuedOn) =>
      inferInstanceAs (Decidable (enqueuedOn ≠ channel))
  | .cleared _ _ none => inferInstanceAs (Decidable False)
  | .enqueued _ _ _ => inferInstanceAs (Decidable False)
  | .transmitted _ _ _ => inferInstanceAs (Decidable False)
  | .missed _ => inferInstanceAs (Decidable False)
  | .acknowledged _ => inferInstanceAs (Decidable False)
  | .expired _ => inferInstanceAs (Decidable False)

def NoneClearedElsewhere (log : List Event) : Prop :=
  ∀ event ∈ log, ¬ event.ClearedElsewhere

instance (log : List Event) : Decidable (NoneClearedElsewhere log) :=
  inferInstanceAs (Decidable (∀ event ∈ log, ¬ event.ClearedElsewhere))

theorem NoneClearedElsewhere.of_cons
    {event : Event} {log : List Event}
    (none : NoneClearedElsewhere (event :: log)) :
    NoneClearedElsewhere log :=
  fun other member => none other (List.mem_cons_of_mem event member)

/-- The flags, the attachments they depend on and the queues are the
same. -/
structure KeepsLines (world next : World) : Prop where
  txEnqueuedChannel :
    ∀ stream,
      (next.streams stream).txEnqueuedChannel =
        (world.streams stream).txEnqueuedChannel
  txCurrentAttachment :
    ∀ stream,
      (next.streams stream).txCurrentAttachment =
        (world.streams stream).txCurrentAttachment
  attachedChannel :
    ∀ stream slot,
      ((next.streams stream).txAttachments slot).channel =
        ((world.streams stream).txAttachments slot).channel
  sendingStreams :
    ∀ channel,
      (next.channels channel).sendingStreams =
        (world.channels channel).sendingStreams

theorem Coherent.keepsLines
    {world next : World} (coherent : Coherent world)
    (keeps : KeepsLines world next) :
    Coherent next where
  mirrors := by
    have queues : next.sendingQueues = world.sendingQueues :=
      funext keeps.sendingStreams
    have places : next.enqueuedOn = world.enqueuedOn := by
      funext stream
      rw [World.enqueuedOn, World.enqueuedOn,
        keeps.txEnqueuedChannel stream,
        currentChannel_congr (keeps.txCurrentAttachment stream)
          (keeps.attachedChannel stream)]
    rw [queues, places]
    exact coherent.mirrors
  currentInUse := by
    intro stream slot current
    rw [keeps.txCurrentAttachment] at current
    rw [keeps.attachedChannel]
    exact coherent.currentInUse stream slot current
  enqueuedAttached := by
    intro stream enqueued
    rw [keeps.txEnqueuedChannel] at enqueued
    rw [keeps.txCurrentAttachment]
    exact coherent.enqueuedAttached stream enqueued

theorem keepsLines_modifyStream
    (world : World) (stream : StreamPtr)
    (change : BaseStream → BaseStream)
    (txEnqueuedChannel :
      (change (world.streams stream)).txEnqueuedChannel =
        (world.streams stream).txEnqueuedChannel)
    (txCurrentAttachment :
      (change (world.streams stream)).txCurrentAttachment =
        (world.streams stream).txCurrentAttachment)
    (attachedChannel :
      ∀ slot,
        ((change (world.streams stream)).txAttachments slot).channel =
          ((world.streams stream).txAttachments slot).channel) :
    KeepsLines world (world.modifyStream stream change) where
  txEnqueuedChannel :=
    modifyStream_field world BaseStream.txEnqueuedChannel stream change
      txEnqueuedChannel
  txCurrentAttachment :=
    modifyStream_field world BaseStream.txCurrentAttachment stream change
      txCurrentAttachment
  attachedChannel := fun other slot =>
    modifyStream_field world
      (fun entry => (entry.txAttachments slot).channel) stream change
      (attachedChannel slot) other
  sendingStreams := fun _ => rfl

theorem keepsLines_modifyChannel
    (world : World) (channel : ChannelPtr)
    (change : StreamChannel → StreamChannel)
    (sendingStreams :
      (change (world.channels channel)).sendingStreams =
        (world.channels channel).sendingStreams) :
    KeepsLines world (world.modifyChannel channel change) where
  txEnqueuedChannel := fun _ => rfl
  txCurrentAttachment := fun _ => rfl
  attachedChannel := fun _ _ => rfl
  sendingStreams :=
    modifyChannel_field world StreamChannel.sendingStreams channel change
      sendingStreams

theorem KeepsLines.insertWaitingAck
    {world next : World} (keeps : KeepsLines world next)
    (channel : ChannelPtr) (pktseq : PacketSeq) (frame : TxFrame) :
    KeepsLines world (next.insertWaitingAck channel pktseq frame) where
  txEnqueuedChannel := keeps.txEnqueuedChannel
  txCurrentAttachment := keeps.txCurrentAttachment
  attachedChannel := keeps.attachedChannel
  sendingStreams := by
    intro other
    rw [← keeps.sendingStreams other, World.insertWaitingAck,
      tick_channels]
    exact
      modifyChannel_field next StreamChannel.sendingStreams channel _ rfl
        other

theorem KeepsLines.refl (world : World) : KeepsLines world world where
  txEnqueuedChannel := fun _ => rfl
  txCurrentAttachment := fun _ => rfl
  attachedChannel := fun _ _ => rfl
  sendingStreams := fun _ => rfl

theorem KeepsQueues.keepsLines
    {world next : World} (keeps : KeepsQueues world next) :
    KeepsLines world next where
  txEnqueuedChannel := keeps.txEnqueuedChannel
  txCurrentAttachment := keeps.txCurrentAttachment
  attachedChannel := keeps.attachedChannel
  sendingStreams := keeps.sendingStreams

private theorem sendingQueues_modifyChannel
    (world : World) (channel : ChannelPtr)
    (change : StreamChannel → StreamChannel) :
    (world.modifyChannel channel change).sendingQueues =
      Function.update world.sendingQueues channel
        (change (world.channels channel)).sendingStreams := by
  funext other
  by_cases same : other = channel
  · subst other
    rw [Function.update_self, World.sendingQueues,
      modifyChannel_channels_self]
  · rw [Function.update_of_ne same, World.sendingQueues,
      modifyChannel_channels_of_ne world same]
    rfl

/-- Setting the flag of a stream moves its place only. -/
theorem enqueuedOn_setTxEnqueuedChannel
    (world : World) (stream : StreamPtr) (enqueued : Bool) :
    (world.setTxEnqueuedChannel stream enqueued).enqueuedOn =
      Function.update world.enqueuedOn stream
        (if enqueued then world.currentChannel stream else none) := by
  funext other
  rw [World.enqueuedOn, currentChannel_setTxEnqueuedChannel]
  by_cases same : other = stream
  · subst other
    rw [Function.update_self, setTxEnqueuedChannel,
      modifyStream_streams_self]
  · rw [Function.update_of_ne same, setTxEnqueuedChannel,
      modifyStream_streams_of_ne world same, World.enqueuedOn]

private theorem enqueuedOn_eq_none
    {world : World} {stream : StreamPtr}
    (notEnqueued :
      (world.streams stream).txEnqueuedChannel = false) :
    world.enqueuedOn stream = none := by
  rw [World.enqueuedOn, notEnqueued]
  rfl

/-- A change of one queue and of one flag keeps the other two parts. -/
theorem Coherent.change_flag
    {world : World} (coherent : Coherent world)
    {stream : StreamPtr} {channel : ChannelPtr}
    {change : StreamChannel → StreamChannel} {enqueued : Bool}
    (mirrors :
      Mirrors
        (Function.update world.sendingQueues channel
          (change (world.channels channel)).sendingStreams)
        (Function.update world.enqueuedOn stream
          (if enqueued then world.currentChannel stream else none)))
    (attached :
      enqueued = true →
        (world.streams stream).txCurrentAttachment ≠ none) :
    Coherent
      ((world.modifyChannel channel change).setTxEnqueuedChannel
        stream enqueued) where
  mirrors := by
    rw [enqueuedOn_setTxEnqueuedChannel]
    have queues :
        ((world.modifyChannel channel change).setTxEnqueuedChannel
            stream enqueued).sendingQueues =
          (world.modifyChannel channel change).sendingQueues :=
      rfl
    rw [queues, sendingQueues_modifyChannel]
    exact mirrors
  currentInUse := by
    intro other slot current
    have sameCurrent :=
      modifyStream_field world BaseStream.txCurrentAttachment stream
        (fun entry => { entry with txEnqueuedChannel := enqueued }) rfl
        other
    have sameChannel :=
      modifyStream_field world
        (fun entry => (entry.txAttachments slot).channel) stream
        (fun entry => { entry with txEnqueuedChannel := enqueued }) rfl
        other
    have used :=
      coherent.currentInUse other slot (sameCurrent ▸ current)
    rw [← sameChannel] at used
    exact used
  enqueuedAttached := by
    intro other flagged
    have sameCurrent :=
      modifyStream_field world BaseStream.txCurrentAttachment stream
        (fun entry => { entry with txEnqueuedChannel := enqueued }) rfl
        other
    by_cases same : other = stream
    · subst other
      rw [setTxEnqueuedChannel, modifyStream_streams_self] at flagged ⊢
      exact attached flagged
    · rw [setTxEnqueuedChannel, modifyStream_streams_of_ne _ same]
        at flagged ⊢
      exact coherent.enqueuedAttached other flagged

theorem Coherent.txStep
    {world next : World} (coherent : Coherent world)
    (step : TxStep world next) :
    Coherent next := by
  cases step with
  | tick =>
      exact coherent.keepsLines (keepsQueues_tick world).keepsLines
  | join channel stream current notEnqueued =>
      refine coherent.change_flag ?_ ?_
      · rw [if_pos rfl, current]
        exact
          coherent.mirrors.join (enqueuedOn_eq_none notEnqueued)
            (insertUpperBound_perm _ stream _)
      · intro _ noCurrent
        rw [currentChannel, noCurrent] at current
        cases current
  | take channel stream rest sending enqueued current =>
      refine coherent.change_flag ?_ ?_
      · exact coherent.mirrors.leave_front sending
      · intro impossible
        cases impossible
  | collect stream =>
      unfold collectAcked setTxQueue
      exact
        coherent.keepsLines
          (keepsLines_modifyStream world stream _ rfl rfl fun _ => rfl)
  | charge stream amount =>
      exact
        coherent.keepsLines
          (keepsLines_modifyStream world stream _ rfl rfl fun _ => rfl)
  | adopt stream channel =>
      obtain ⟨parent, isAdopted⟩ := adoptRoot_eq world stream channel
      rw [isAdopted]
      exact
        coherent.keepsLines
          (keepsLines_modifyStream world stream _ rfl rfl fun _ => rfl)
  | send stream channel head rest pktseq queue =>
      have popped :
          KeepsLines world
            ((world.setTxQueue stream rest).record
              (.transmitted stream channel head)) := by
        have keeps :=
          keepsLines_modifyStream world stream
            (fun entry => { entry with txQueue := rest }) rfl rfl
            fun _ => rfl
        exact ⟨keeps.txEnqueuedChannel, keeps.txCurrentAttachment,
          keeps.attachedChannel, keeps.sendingStreams⟩
      exact coherent.keepsLines (popped.insertWaitingAck channel pktseq _)
  | attach stream channel pktseq =>
      exact
        coherent.keepsLines
          ((KeepsLines.refl world).insertWaitingAck channel pktseq _)

private theorem enqueuedOn_unregister
    {world : World} (stream : StreamPtr) (slot : Slot)
    (channel : ChannelPtr) (sid : LocalStreamId) :
    (world.unregister stream slot channel sid).enqueuedOn =
      Function.update world.enqueuedOn stream none := by
  funext other
  by_cases same : other = stream
  · subst other
    rw [Function.update_self]
    exact enqueuedOn_eq_none (by rw [unregister_streams_self])
  · rw [Function.update_of_ne same, World.enqueuedOn, World.enqueuedOn,
      currentChannel, currentChannel,
      unregister_streams_of_ne world same]

theorem Coherent.unregister
    {world : World} (coherent : Coherent world)
    (stream : StreamPtr) (slot : Slot)
    (channel : ChannelPtr) (sid : LocalStreamId)
    (notElsewhere :
      ¬ (Event.cleared stream channel
        (world.enqueuedOn stream)).ClearedElsewhere) :
    Coherent (world.unregister stream slot channel sid) where
  mirrors := by
    rw [enqueuedOn_unregister]
    have queues :
        (world.unregister stream slot channel sid).sendingQueues =
          Function.update world.sendingQueues channel
            ((world.sendingQueues channel).filter fun other =>
              other ≠ stream) := by
      funext other
      by_cases same : other = channel
      · subst other
        rw [Function.update_self, World.sendingQueues,
          unregister_channels_self]
        rfl
      · rw [Function.update_of_ne same, World.sendingQueues,
          unregister_channels_of_ne world stream slot same]
        rfl
    rw [queues]
    apply coherent.mirrors.leave
    intro other placed
    rw [placed] at notElsewhere
    exact not_not.mp notElsewhere
  currentInUse := by
    intro other otherSlot current
    by_cases same : other = stream
    · subst other
      rw [unregister_streams_self] at current ⊢
      dsimp only at current ⊢
      split at current
      · cases current
      · next notCurrent =>
          have different : otherSlot ≠ slot := by
            rintro rfl
            exact notCurrent current
          rw [Function.update_of_ne different]
          exact coherent.currentInUse stream otherSlot current
    · rw [unregister_streams_of_ne world same] at current ⊢
      exact coherent.currentInUse other otherSlot current
  enqueuedAttached := by
    intro other enqueued
    by_cases same : other = stream
    · subst other
      rw [unregister_streams_self] at enqueued
      cases enqueued
    · rw [unregister_streams_of_ne world same] at enqueued ⊢
      exact coherent.enqueuedAttached other enqueued

/-- Taking a stream out of its queue and putting it back in rearranges the
queue. -/
theorem requeue_perm
    {world : World} (coherent : Coherent world)
    {stream : StreamPtr} {channel : ChannelPtr}
    (enqueued : world.enqueuedOn stream = some channel)
    (follows : StreamPtr → Bool) :
    (insertUpperBound follows stream
      ((world.channels channel).sendingStreams.filter
        fun other => other ≠ stream)).Perm
      (world.channels channel).sendingStreams := by
  apply (insertUpperBound_perm follows stream _).trans
  rw [List.perm_iff_count]
  intro other
  have before := coherent.mirrors other channel
  by_cases same : other = stream
  · subst other
    rw [if_pos enqueued] at before
    rw [List.count_cons_self]
    have removed :
        ((world.channels channel).sendingStreams.filter
          fun item => item ≠ stream).count stream = 0 := by
      simp [List.count_eq_zero, List.mem_filter]
    rw [removed]
    exact before.symm
  · rw [List.count_cons_of_ne (Ne.symm same)]
    exact List.count_filter (by simpa using same)

theorem Coherent.reprioritise
    {world : World} (coherent : Coherent world)
    {stream : StreamPtr} {channel : ChannelPtr}
    (enqueued : (world.streams stream).txEnqueuedChannel = true)
    (current : world.currentChannel stream = some channel) :
    Coherent
      ((world.dequeueStream channel stream).enqueueStream
        channel stream) where
  mirrors := by
    have placed : world.enqueuedOn stream = some channel := by
      rw [World.enqueuedOn, if_pos enqueued, current]
    rw [enqueueStream, sendingQueues_modifyChannel, dequeueStream,
      sendingQueues_modifyChannel, Function.update_idem,
      modifyChannel_channels_self]
    exact coherent.mirrors.rearrange (requeue_perm coherent placed _)
  currentInUse := coherent.currentInUse
  enqueuedAttached := coherent.enqueuedAttached

theorem Coherent.setAttaching
    {world : World} (coherent : Coherent world)
    {stream : StreamPtr} {slot : Slot} (attachment : TxAttachment)
    (free :
      ((world.streams stream).txAttachments slot).channel = none) :
    Coherent (world.setTxAttachment stream slot fun _ => attachment) := by
  have notCurrent :
      (world.streams stream).txCurrentAttachment ≠ some slot := by
    intro current
    exact coherent.currentInUse stream slot current free
  have others :
      ∀ other otherSlot,
        (world.streams other).txCurrentAttachment = some otherSlot →
        ((world.setTxAttachment stream slot
            fun _ => attachment).streams other).txAttachments otherSlot =
          (world.streams other).txAttachments otherSlot := by
    intro other otherSlot current
    by_cases same : other = stream
    · subst other
      have different : otherSlot ≠ slot := by
        rintro rfl
        exact notCurrent current
      rw [setTxAttachment, modifyStream_streams_self]
      exact Function.update_of_ne different _ _
    · rw [setTxAttachment, modifyStream_streams_of_ne world same]
  have sameCurrent :=
    modifyStream_field world BaseStream.txCurrentAttachment stream
      (fun entry =>
        { entry with
          txAttachments :=
            Function.update entry.txAttachments slot attachment }) rfl
  have sameFlag :=
    modifyStream_field world BaseStream.txEnqueuedChannel stream
      (fun entry =>
        { entry with
          txAttachments :=
            Function.update entry.txAttachments slot attachment }) rfl
  refine ⟨?_, ?_, ?_⟩
  · have places :
        (world.setTxAttachment stream slot
          fun _ => attachment).enqueuedOn =
          world.enqueuedOn := by
      funext other
      rw [World.enqueuedOn, World.enqueuedOn, currentChannel,
        currentChannel, setTxAttachment, sameFlag, sameCurrent]
      cases current : (world.streams other).txCurrentAttachment with
      | none =>
          rfl
      | some otherSlot =>
          rw [Option.bind_eq_bind, Option.bind_some, Option.bind_some,
            ← others other otherSlot current]
          rfl
    rw [places]
    exact coherent.mirrors
  · intro other otherSlot current
    rw [setTxAttachment, sameCurrent] at current
    rw [others other otherSlot current]
    exact coherent.currentInUse other otherSlot current
  · intro other enqueued
    rw [setTxAttachment, sameFlag] at enqueued
    rw [setTxAttachment, sameCurrent]
    exact coherent.enqueuedAttached other enqueued

theorem Coherent.setCurrent
    {world : World} (coherent : Coherent world)
    {stream : StreamPtr} {slot : Slot}
    (noCurrent : (world.streams stream).txCurrentAttachment = none)
    (attached :
      ((world.streams stream).txAttachments slot).channel ≠ none) :
    Coherent
      (world.modifyStream stream fun entry =>
        { entry with txCurrentAttachment := some slot }) where
  mirrors := by
    have notEnqueued :
        (world.streams stream).txEnqueuedChannel = false := by
      rw [← Bool.not_eq_true]
      intro enqueued
      exact coherent.enqueuedAttached stream enqueued noCurrent
    have places :
        (world.modifyStream stream fun entry =>
          { entry with txCurrentAttachment := some slot }).enqueuedOn =
          world.enqueuedOn := by
      funext other
      by_cases same : other = stream
      · subst other
        rw [enqueuedOn_eq_none notEnqueued]
        exact
          enqueuedOn_eq_none (by
            rw [modifyStream_streams_self]
            exact notEnqueued)
      · rw [World.enqueuedOn, World.enqueuedOn, currentChannel,
          currentChannel, modifyStream_streams_of_ne world same]
    rw [places]
    exact coherent.mirrors
  currentInUse := by
    intro other otherSlot current
    by_cases same : other = stream
    · subst other
      rw [modifyStream_streams_self] at current ⊢
      injection current with sameSlot
      subst otherSlot
      exact attached
    · rw [modifyStream_streams_of_ne world same] at current ⊢
      exact coherent.currentInUse other otherSlot current
  enqueuedAttached := by
    intro other enqueued
    by_cases same : other = stream
    · subst other
      rw [modifyStream_streams_self]
      exact Option.some_ne_none slot
    · rw [modifyStream_streams_of_ne world same] at enqueued ⊢
      exact coherent.enqueuedAttached other enqueued

theorem keepsLines_insertPacket
    (world : World) (stream : StreamPtr) (frame : TxFrame) :
    KeepsLines world (world.insertPacket stream frame) := by
  have keeps :=
    keepsLines_modifyStream world stream
      (fun entry =>
        { entry with
          txQueue :=
            insertFrame { frame with stamp := world.clock }
              (world.streams stream).txQueue })
      rfl rfl fun _ => rfl
  exact ⟨keeps.txEnqueuedChannel, keeps.txCurrentAttachment,
    keeps.attachedChannel, keeps.sendingStreams⟩

/-! ## Runs -/

theorem Coherent.quietStep
    {world next : World} (coherent : Coherent world)
    (step : QuietStep world next) :
    Coherent next := by
  cases step with
  | transmit step =>
      exact coherent.txStep step
  | insertPacket stream frame owned =>
      exact
        coherent.keepsLines (keepsLines_insertPacket world stream frame)
  | reprioritise channel stream enqueued current =>
      exact coherent.reprioritise enqueued current
  | setAttaching stream slot channel attachment free unregistered =>
      exact
        (coherent.setAttaching attachment free).keepsLines
          (keepsLines_modifyChannel _ channel _ rfl)
  | setCurrent stream slot noCurrent attached =>
      exact coherent.setCurrent noCurrent attached
  | other keeps =>
      exact coherent.keepsLines keeps.keepsLines

private theorem coherent_step
    {world next : World} (step : Step world next)
    (coherent : NoneClearedElsewhere world.log → Coherent world) :
    NoneClearedElsewhere next.log → Coherent next := by
  intro none
  have earlier : NoneClearedElsewhere world.log := by
    rcases step.log_extends with same | ⟨event, longer⟩
    · rwa [same] at none
    · rw [longer] at none
      exact none.of_cons
  cases step with
  | quiet step =>
      exact (coherent earlier).quietStep step
  | unregister stream slot channel sid attached registered =>
      exact
        (coherent earlier).unregister stream slot channel sid
          (none _ List.mem_cons_self)
  | account keeps =>
      exact (coherent earlier).keepsLines keeps.keepsLines

theorem coherent_of_initial
    {world : World} (initial : world.Initial) :
    Coherent world where
  mirrors := by
    intro stream channel
    obtain ⟨_, _, _, notEnqueued, _, _⟩ := initial.streams stream
    rw [World.sendingQueues, initial.sendingStreams,
      enqueuedOn_eq_none notEnqueued]
    rfl
  currentInUse := by
    intro stream slot current
    obtain ⟨_, _, noCurrent, _, _, _⟩ := initial.streams stream
    rw [noCurrent] at current
    cases current
  enqueuedAttached := by
    intro stream enqueued
    obtain ⟨_, _, _, notEnqueued, _, _⟩ := initial.streams stream
    rw [notEnqueued] at enqueued
    cases enqueued

/-- In every run in which no attachment was cleared while its stream was
enqueued on another channel, a stream stands in the sending queue of a
channel exactly when its flag is set and its current attachment is on that
channel, and then once. -/
theorem sending_queue_coherent
    {env : Env} {start final : World} {calls : List Call}
    (initial : start.Initial)
    (run : CallRun env start calls final)
    (noneCleared : NoneClearedElsewhere final.log)
    (stream : StreamPtr) (channel : ChannelPtr) :
    (stream ∈ (final.channels channel).sendingStreams ↔
        (final.streams stream).txEnqueuedChannel = true ∧
          final.currentChannel stream = some channel) ∧
      (final.channels channel).sendingStreams.count stream ≤ 1 := by
  have coherent :=
    run.steps.preserves (fun _ _ => coherent_step)
      (fun _ => coherent_of_initial initial) noneCleared
  refine ⟨?_, coherent.mirrors.count_le_one stream channel⟩
  apply (coherent.mirrors.mem_iff stream channel).trans
  rw [World.enqueuedOn]
  by_cases enqueued : (final.streams stream).txEnqueuedChannel = true
  · simp [enqueued]
  · simp [enqueued]

/-- Two channels with their root streams, the first root stream also
attaching to the second channel and enqueued on the first. -/
def migratingCalls : List Call :=
  [.construct 0 0, .start 0 true, .construct 1 1, .start 1 true,
    .setAttaching 0 .second 1 5, .writeData 0 1]

theorem sending_queue_coherent_while_migrating :
    ∃ final,
      CallRun (Env.constant false) (World.create [1] [2])
          migratingCalls final ∧
        NoneClearedElsewhere final.log ∧
        (0 ∈ (final.channels 0).sendingStreams ↔
            (final.streams 0).txEnqueuedChannel = true ∧
              final.currentChannel 0 = some 0) ∧
        (final.channels 0).sendingStreams.count 0 ≤ 1 := by
  have run :
      CallRun (Env.constant false) (World.create [1] [2])
        migratingCalls _ :=
    CallRun.of_runAll rfl
  refine ⟨_, run, by decide, ?_⟩
  exact
    sending_queue_coherent (create_initial [1] [2]) run (by decide) 0 0

/-- Clearing the attachment to the second channel resets the flag of a stream
that is enqueued on the first. -/
theorem sending_queue_incoherent_after_clear :
    ∃ final,
      CallRun (Env.constant false) (World.create [1] [2])
          (migratingCalls ++ [.clear 0 .second]) final ∧
        0 ∈ (final.channels 0).sendingStreams ∧
        (final.streams 0).txEnqueuedChannel = false ∧
        final.currentChannel 0 = some 0 := by
  refine ⟨_, CallRun.of_runAll rfl, ?_, ?_, ?_⟩
  · decide
  · decide
  · decide

end StructuredStreams.Stream
