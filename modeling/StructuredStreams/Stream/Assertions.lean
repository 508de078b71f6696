import StructuredStreams.Stream.NoLoss
import StructuredStreams.Stream.SendingQueue
import StructuredStreams.Stream.Transmissions

/-!
# The assertions of `transmit_on` hold

Once the attach was acknowledged, `transmit_on` asserts that `init_` is
clear, and before that `tx_attach_data` asserts that the frame is a segment
of the first 2^16 bytes.  No function clears `init_`, and the test that kept
other frames from `tx_attach_data` is commented out.  The assertions hold in
every run in which frames are queued only where they can be carried: on a
stream without a current attachment, or on one whose current attachment was
acknowledged with `init_` clear or carries them with the attach packet.
-/

namespace StructuredStreams.Stream

open World

/-- A frame of the type and sequence number can go out on the attachment. -/
def BaseStream.CarriesOn
    (entry : BaseStream) (slot : Slot) (type : FrameType)
    (seq : ByteSeq) : Prop :=
  if (entry.txAttachments slot).isAcknowledged then entry.init = false
  else type = .stream ∧ seq ≤ 0xffff

instance (entry : BaseStream) (slot : Slot) (type : FrameType)
    (seq : ByteSeq) : Decidable (entry.CarriesOn slot type seq) :=
  inferInstanceAs (Decidable (ite _ _ _))

/-- The current attachment, where there is one, carries the frame. -/
def BaseStream.Carries
    (entry : BaseStream) (type : FrameType) (seq : ByteSeq) : Prop :=
  ∀ slot, entry.txCurrentAttachment = some slot →
    entry.CarriesOn slot type seq

private theorem BaseStream.carries_iff
    {entry : BaseStream} {slot : Slot} {type : FrameType} {seq : ByteSeq}
    (current : entry.txCurrentAttachment = some slot) :
    entry.Carries type seq ↔ entry.CarriesOn slot type seq := by
  constructor
  · intro carries
    exact carries slot current
  · intro carries other otherCurrent
    rw [current, Option.some.injEq] at otherCurrent
    subst other
    exact carries

/-- The stream can send a datagram again. -/
def BaseStream.SendsAgain (entry : BaseStream) (seq : ByteSeq) : Prop :=
  entry.txCurrentAttachment ≠ none ∧ entry.Carries .empty seq

/-- A stream that stands in line has something to send, its attachments are
active once they are acknowledged, and its frames are carried. -/
structure BaseStream.Fit (entry : BaseStream) : Prop where
  waiting : entry.txEnqueuedChannel = true → entry.txQueue ≠ []
  activated :
    ∀ slot,
      (entry.txAttachments slot).channel ≠ none →
      (entry.txAttachments slot).isAcknowledged = true →
      (entry.txAttachments slot).active = true
  carried :
    ∀ frame ∈ entry.txQueue, entry.Carries frame.type frame.txByteSeq

/-- All streams are fit to transmit, also the frames that may come back. -/
structure Ready (world : World) : Prop where
  sound : SoundTables world
  coherent : Coherent world
  owned : OwnedQueues world
  fit : ∀ stream, (world.streams stream).Fit
  sentAgain :
    ∀ channel, ∀ copied ∈ (world.channels channel).waitingAck,
      copied.2.frame.type = .empty →
      ∀ owner, copied.2.frame.owner = some owner →
        (world.streams owner).SendsAgain copied.2.frame.txByteSeq

/-- A stream that is taken out of line and drops the frames that were
acknowledged. -/
theorem collectAcked_streams_self
    (world : World) (stream : StreamPtr) :
    ((world.setTxEnqueuedChannel stream false).collectAcked
        stream).streams stream =
      { world.streams stream with
        txEnqueuedChannel := false
        txQueue :=
          (world.streams stream).txQueue.dropWhile
            (alreadyAcked (world.streams stream)) } := by
  rw [collectAcked, setTxQueue, modifyStream_streams_self,
    setTxEnqueuedChannel, modifyStream_streams_self]
  rfl

/-- The assertions hold for the stream at the front of the line. -/
theorem Ready.front
    {world : World} (ready : Ready world) {channel : ChannelPtr}
    {stream : StreamPtr} {rest : List StreamPtr}
    (line : (world.channels channel).sendingStreams = stream :: rest) :
    Transmission.AssertionsHold
      ⟨world.modifyChannel channel fun entry =>
          { entry with sendingStreams := rest },
        stream, channel⟩ := by
  have inLine : stream ∈ world.sendingQueues channel := by
    rw [World.sendingQueues, line]
    exact List.mem_cons_self
  have placed := (ready.coherent.mirrors.mem_iff stream channel).mp inLine
  rw [World.enqueuedOn] at placed
  split at placed
  · next enqueued =>
      have fit := ready.fit stream
      unfold Transmission.AssertionsHold World.HeadAssertionsHold
      dsimp only
      refine ⟨enqueued, ready.coherent.enqueuedAttached stream enqueued,
        placed, fit.waiting enqueued, ?_⟩
      intro slot head more current queue
      rw [collectAcked_streams_self, modifyChannel_streams]
        at current queue ⊢
      dsimp only at current queue ⊢
      have queued : head ∈ (world.streams stream).txQueue := by
        apply (List.dropWhile_sublist _).subset
        rw [queue]
        exact List.mem_cons_self
      have carried := fit.carried head queued slot current
      have inUse := ready.coherent.currentInUse stream slot current
      unfold BaseStream.CarriesOn at carried
      split at carried
      · next acknowledged =>
          rw [if_pos acknowledged]
          exact ⟨carried, fit.activated slot inUse acknowledged⟩
      · next unacknowledged =>
          rw [if_neg unacknowledged]
          exact fun _ => carried
  · cases placed

theorem TxStep.carries
    {world next : World} (step : TxStep world next) (stream : StreamPtr) :
    (next.streams stream).Carries = (world.streams stream).Carries :=
  step.stream_field (fun _ _ => rfl) (fun _ _ => rfl) (fun _ _ => rfl)
    (fun _ _ => rfl) stream

private theorem TxStep.sendsAgain
    {world next : World} (step : TxStep world next) (stream : StreamPtr) :
    (next.streams stream).SendsAgain =
      (world.streams stream).SendsAgain :=
  step.stream_field (fun _ _ => rfl) (fun _ _ => rfl) (fun _ _ => rfl)
    (fun _ _ => rfl) stream

/-- A stream joins the line with something to send, and loses frames only
out of line. -/
theorem TxStep.waiting
    {world next : World} (step : TxStep world next) {stream : StreamPtr}
    (waiting :
      (world.streams stream).txEnqueuedChannel = true →
        (world.streams stream).txQueue ≠ []) :
    (next.streams stream).txEnqueuedChannel = true →
      (next.streams stream).txQueue ≠ [] := by
  cases step with
  | tick | attach =>
      exact waiting
  | join channel joined current notEnqueued nonempty =>
      rw [setTxEnqueuedChannel]
      by_cases same : stream = joined
      · subst joined
        rw [modifyStream_streams_self]
        exact fun _ => nonempty
      · rw [modifyStream_streams_of_ne _ same]
        exact waiting
  | take channel taken rest sending enqueued current =>
      rw [setTxEnqueuedChannel]
      by_cases same : stream = taken
      · subst taken
        rw [modifyStream_streams_self]
        exact fun impossible => absurd impossible Bool.false_ne_true
      · rw [modifyStream_streams_of_ne _ same]
        exact waiting
  | collect collected notEnqueued =>
      rw [collectAcked, setTxQueue]
      by_cases same : stream = collected
      · subst collected
        rw [modifyStream_streams_self]
        exact fun enqueued =>
          absurd (notEnqueued.symm.trans enqueued) Bool.false_ne_true
      · rw [modifyStream_streams_of_ne _ same]
        exact waiting
  | charge payer amount =>
      rw [addTxInflight,
        modifyStream_field world BaseStream.txEnqueuedChannel payer _ rfl,
        modifyStream_field world BaseStream.txQueue payer _ rfl]
      exact waiting
  | adopt adopted channel =>
      rw [adoptRoot_txEnqueuedChannel,
        (adoptRoot_keeps world adopted channel).2.2 stream]
      exact waiting
  | send sender channel head rest pktseq queue notEnqueued current =>
      rw [insertWaitingAck, tick_streams, modifyChannel_streams,
        record_streams, setTxQueue]
      by_cases same : stream = sender
      · subst sender
        rw [modifyStream_streams_self]
        exact fun enqueued =>
          absurd (notEnqueued.symm.trans enqueued) Bool.false_ne_true
      · rw [modifyStream_streams_of_ne _ same]
        exact waiting

theorem BaseStream.Fit.txStep
    {world next : World} {stream : StreamPtr}
    (fit : (world.streams stream).Fit) (step : TxStep world next) :
    (next.streams stream).Fit where
  waiting := step.waiting fit.waiting
  activated := by
    rw [step.txAttachments stream]
    exact fit.activated
  carried := by
    intro frame member
    rw [step.carries stream]
    exact fit.carried frame ((step.onlyDrops stream).subset member)

theorem Ready.txStep
    {world next : World} (ready : Ready world)
    (step : TxStep world next) :
    Ready next where
  sound :=
    soundTables_step (Step.quiet (QuietStep.transmit step)) ready.sound
  coherent := ready.coherent.txStep step
  owned := ready.owned.onlyDrops step.onlyDrops
  fit := fun stream => (ready.fit stream).txStep step
  sentAgain := by
    intro channel copied member isEmpty owner owned
    rw [step.sendsAgain owner]
    rcases step.entry_cases ready.owned member with
      old | ⟨sender, isSender, current, isStream | queued⟩
    · exact ready.sentAgain channel copied old isEmpty owner owned
    · rw [isStream] at isEmpty
      cases isEmpty
    · obtain ⟨head, queued, isHead⟩ := queued
      rw [isSender, Option.some.injEq] at owned
      subst owner
      have carried := (ready.fit sender).carried head queued
      rw [isHead] at isEmpty ⊢
      dsimp only at isEmpty ⊢
      rw [isEmpty] at carried
      refine ⟨?_, carried⟩
      intro noCurrent
      rw [currentChannel, noCurrent] at current
      cases current

theorem Ready.txSteps
    {world next : World} (ready : Ready world)
    (steps : TxSteps world next) :
    Ready next := by
  induction steps with
  | refl =>
      exact ready
  | tail _ step inductionHypothesis =>
      exact inductionHypothesis.txStep step

/-- Changes that leave the queues and the line alone and take entries from
the tables. -/
theorem Ready.change
    {world next : World} (ready : Ready world) (coherent : Coherent next)
    (shorter :
      ∀ channel,
        (next.channels channel).waitingAck.Sublist
          (world.channels channel).waitingAck)
    (clock : world.clock ≤ next.clock)
    (queues :
      ∀ stream,
        (next.streams stream).txQueue = (world.streams stream).txQueue)
    (fit : ∀ stream, (next.streams stream).Fit)
    (sendsAgain :
      ∀ channel, ∀ copied ∈ (world.channels channel).waitingAck,
        ∀ owner, copied.2.frame.owner = some owner →
        (world.streams owner).SendsAgain copied.2.frame.txByteSeq →
        (next.streams owner).SendsAgain copied.2.frame.txByteSeq) :
    Ready next where
  sound := ready.sound.sublist shorter clock
  coherent := coherent
  owned := ready.owned.onlyDrops (onlyDrops_of_txQueue_eq queues)
  fit := fit
  sentAgain := by
    intro channel copied member isEmpty owner owned
    have earlier := (shorter channel).subset member
    exact
      sendsAgain channel copied earlier owner owned
        (ready.sentAgain channel copied earlier isEmpty owner owned)

theorem Ready.modifyChannel
    {world : World} (ready : Ready world) (channel : ChannelPtr)
    (change : StreamChannel → StreamChannel)
    (sendingStreams :
      (change (world.channels channel)).sendingStreams =
        (world.channels channel).sendingStreams)
    (shorter :
      (change (world.channels channel)).waitingAck.Sublist
        (world.channels channel).waitingAck) :
    Ready (world.modifyChannel channel change) := by
  refine
    ready.change
      (ready.coherent.keepsLines
        (keepsLines_modifyChannel world channel change sendingStreams))
      ?_ (Nat.le_refl _) (fun _ => rfl) ready.fit fun _ _ _ _ _ => id
  intro other
  by_cases same : other = channel
  · subst other
    rw [modifyChannel_channels_self]
    exact shorter
  · rw [modifyChannel_channels_of_ne world same]

theorem Ready.eraseWaitingAck
    {world : World} (ready : Ready world) (channel : ChannelPtr)
    (pktseq : PacketSeq) :
    Ready (world.eraseWaitingAck channel pktseq) :=
  ready.modifyChannel channel _ rfl List.filter_sublist

theorem Ready.record
    {world : World} (ready : Ready world) (event : Event) :
    Ready (world.record event) :=
  ready.change
    (ready.coherent.keepsLines (keepsQueues_record world event).keepsLines)
    (fun _ => List.Sublist.refl _) (Nat.le_refl _) (fun _ => rfl) ready.fit
    fun _ _ _ _ _ => id

theorem Ready.modifyStream
    {world : World} (ready : Ready world) (stream : StreamPtr)
    (change : BaseStream → BaseStream)
    (coherent : Coherent (world.modifyStream stream change))
    (queue :
      (change (world.streams stream)).txQueue =
        (world.streams stream).txQueue)
    (fit : (change (world.streams stream)).Fit)
    (sendsAgain :
      ∀ seq, (world.streams stream).SendsAgain seq →
        (change (world.streams stream)).SendsAgain seq) :
    Ready (world.modifyStream stream change) := by
  refine
    ready.change coherent (fun _ => List.Sublist.refl _) (Nat.le_refl _)
      (modifyStream_field world BaseStream.txQueue stream change queue)
      ?_ ?_
  · intro other
    by_cases same : other = stream
    · subst other
      rw [modifyStream_streams_self]
      exact fit
    · rw [modifyStream_streams_of_ne world same]
      exact ready.fit other
  · intro channel copied member owner owned again
    by_cases same : owner = stream
    · subst owner
      rw [modifyStream_streams_self]
      exact sendsAgain _ again
    · rw [modifyStream_streams_of_ne world same]
      exact again

theorem BaseStream.Carries.congr
    {entry next : BaseStream} {type : FrameType} {seq : ByteSeq}
    (carries : entry.Carries type seq)
    (current : next.txCurrentAttachment = entry.txCurrentAttachment)
    (init : next.init = entry.init)
    (acknowledged :
      ∀ slot, entry.txCurrentAttachment = some slot →
        (next.txAttachments slot).isAcknowledged =
          (entry.txAttachments slot).isAcknowledged) :
    next.Carries type seq := by
  intro slot isCurrent
  rw [current] at isCurrent
  unfold BaseStream.CarriesOn
  rw [acknowledged slot isCurrent, init]
  exact carries slot isCurrent

/-- What `transmit_on` reads of the state of a stream stays. -/
theorem Ready.modifyOther
    {world : World} (ready : Ready world) (stream : StreamPtr)
    (change : BaseStream → BaseStream)
    (enqueued :
      (change (world.streams stream)).txEnqueuedChannel =
        (world.streams stream).txEnqueuedChannel)
    (queue :
      (change (world.streams stream)).txQueue =
        (world.streams stream).txQueue)
    (current :
      (change (world.streams stream)).txCurrentAttachment =
        (world.streams stream).txCurrentAttachment)
    (attachments :
      (change (world.streams stream)).txAttachments =
        (world.streams stream).txAttachments)
    (init :
      (change (world.streams stream)).init =
        (world.streams stream).init) :
    Ready (world.modifyStream stream change) := by
  have carried :
      ∀ type seq, (world.streams stream).Carries type seq →
        (change (world.streams stream)).Carries type seq := by
    intro type seq carries
    refine carries.congr current init ?_
    intro slot _
    rw [attachments]
  have fit := ready.fit stream
  refine ready.modifyStream stream change ?_ queue ⟨?_, ?_, ?_⟩ ?_
  · refine
      ready.coherent.keepsLines
        (keepsLines_modifyStream world stream change enqueued current ?_)
    intro slot
    rw [attachments]
  · rw [enqueued, queue]
    exact fit.waiting
  · rw [attachments]
    exact fit.activated
  · rw [queue]
    intro frame member
    exact carried _ _ (fit.carried frame member)
  · intro seq again
    exact ⟨current ▸ again.1, carried _ _ again.2⟩

/-! ## Attaching -/

theorem Ready.setAttaching
    {world next : World} (ready : Ready world) {stream : StreamPtr}
    {slot : Slot} {channel : ChannelPtr} {sid : LocalStreamId}
    (returned :
      World.setAttaching world stream slot channel sid = some next) :
    Ready next := by
  obtain ⟨free, _, attaching⟩ := setAttaching_eq_some returned
  rw [attaching]
  have different :
      ∀ current,
        (world.streams stream).txCurrentAttachment = some current →
        current ≠ slot := by
    rintro current isCurrent rfl
    exact ready.coherent.currentInUse stream current isCurrent free
  have fit := ready.fit stream
  refine Ready.modifyChannel ?_ channel _ rfl (List.Sublist.refl _)
  refine
    ready.modifyStream stream _ (ready.coherent.setAttaching _ free) rfl
      ⟨fit.waiting, ?_, ?_⟩ ?_
  · intro other inUse acknowledged
    dsimp only at inUse acknowledged ⊢
    by_cases same : other = slot
    · subst other
      rw [Function.update_self] at acknowledged
      cases acknowledged
    · rw [Function.update_of_ne same] at inUse acknowledged ⊢
      exact fit.activated other inUse acknowledged
  · intro frame member
    refine (fit.carried frame member).congr rfl rfl ?_
    intro current isCurrent
    dsimp only
    rw [Function.update_of_ne (different current isCurrent)]
  · rintro seq ⟨attached, carries⟩
    refine ⟨attached, carries.congr rfl rfl ?_⟩
    intro current isCurrent
    dsimp only
    rw [Function.update_of_ne (different current isCurrent)]

private theorem BaseStream.carriesOn_of_clear
    {entry : BaseStream} {slot : Slot} {type : FrameType} {seq : ByteSeq}
    (clear : entry.init = false)
    (acknowledged : (entry.txAttachments slot).isAcknowledged = true) :
    entry.CarriesOn slot type seq := by
  unfold BaseStream.CarriesOn
  rw [if_pos acknowledged]
  exact clear

/-- The attachment gets acknowledged where it is the current one. -/
def BaseStream.Acknowledges
    (entry : BaseStream) (slot : Slot) (rxseq : PacketSeq) : Prop :=
  entry.txCurrentAttachment = some slot ∧ rxseq ≠ unacknowledgedSeq

/-- The stream after `set_active`. -/
def BaseStream.withActive
    (entry : BaseStream) (slot : Slot) (rxseq : PacketSeq) : BaseStream :=
  { entry with
    txAttachments :=
      Function.update entry.txAttachments slot
        { entry.txAttachments slot with sidSeq := rxseq, active := true } }

section Activating

variable {entry : BaseStream} {slot : Slot} {rxseq : PacketSeq}

/-- Where the current attachment stays as it is, so does what it carries. -/
theorem BaseStream.Carries.withActive
    {type : FrameType} {seq : ByteSeq} (carries : entry.Carries type seq)
    (unacknowledged :
      ¬ (entry.txAttachments slot).isAcknowledged = true)
    (unchanged : ¬ entry.Acknowledges slot rxseq) :
    (entry.withActive slot rxseq).Carries type seq := by
  refine carries.congr rfl rfl ?_
  intro current isCurrent
  dsimp only [BaseStream.withActive]
  by_cases same : current = slot
  · subst current
    have stillNot : rxseq = unacknowledgedSeq := by
      by_contra acknowledging
      exact unchanged ⟨isCurrent, acknowledging⟩
    rw [Function.update_self, Bool.eq_false_iff.mpr unacknowledged]
    simp [TxAttachment.isAcknowledged, stillNot]
  · rw [Function.update_of_ne same]

/-- No datagram was sent on an attachment that was not acknowledged. -/
theorem BaseStream.SendsAgain.withActive
    {seq : ByteSeq} (again : entry.SendsAgain seq)
    (unacknowledged :
      ¬ (entry.txAttachments slot).isAcknowledged = true) :
    (entry.withActive slot rxseq).SendsAgain seq := by
  refine ⟨again.1, again.2.withActive unacknowledged ?_⟩
  rintro ⟨isSlot, _⟩
  have impossible := again.2 slot isSlot
  unfold BaseStream.CarriesOn at impossible
  rw [if_neg unacknowledged] at impossible
  cases impossible.1

private theorem BaseStream.Fit.withActive
    (fit : entry.Fit)
    (unacknowledged :
      ¬ (entry.txAttachments slot).isAcknowledged = true)
    (meets :
      entry.Acknowledges slot rxseq →
        entry.init = false ∨ entry.txQueue = []) :
    (entry.withActive slot rxseq).Fit where
  waiting := fit.waiting
  activated := by
    intro other inUse acknowledged
    dsimp only [BaseStream.withActive] at inUse acknowledged ⊢
    by_cases same : other = slot
    · subst other
      rw [Function.update_self]
    · rw [Function.update_of_ne same] at inUse acknowledged ⊢
      exact fit.activated other inUse acknowledged
  carried := by
    intro frame member
    by_cases acknowledges : entry.Acknowledges slot rxseq
    · rcases meets acknowledges with clear | empty
      · obtain ⟨isSlot, acknowledging⟩ := acknowledges
        rw [BaseStream.carries_iff (by exact isSlot)]
        refine BaseStream.carriesOn_of_clear clear ?_
        dsimp only [BaseStream.withActive]
        rw [Function.update_self]
        simpa [TxAttachment.isAcknowledged] using acknowledging
      · dsimp only [BaseStream.withActive] at member
        rw [empty] at member
        cases member
    · exact
        (fit.carried frame member).withActive unacknowledged acknowledges

end Activating

theorem Ready.setActive
    {world next : World} (ready : Ready world) {stream : StreamPtr}
    {slot : Slot} {rxseq : PacketSeq}
    (meets :
      (world.streams stream).Acknowledges slot rxseq →
        (world.streams stream).init = false ∨
          (world.streams stream).txQueue = [])
    (returned : World.setActive world stream slot rxseq = some next) :
    Ready next := by
  obtain ⟨unacknowledged, activated⟩ := setActive_eq_some returned
  rw [activated]
  refine
    ready.modifyStream stream (fun entry => entry.withActive slot rxseq) ?_
      rfl ((ready.fit stream).withActive unacknowledged meets)
      fun _ again => again.withActive unacknowledged
  refine ready.coherent.keepsLines ?_
  refine keepsLines_modifyStream world stream _ rfl rfl ?_
  intro other
  dsimp only [BaseStream.withActive]
  by_cases same : other = slot
  · subst other
    rw [Function.update_self]
  · rw [Function.update_of_ne same]

theorem Ready.setCurrent
    {world next : World} (ready : Ready world) {stream : StreamPtr}
    {slot : Slot}
    (meets :
      ∀ frame ∈ (world.streams stream).txQueue,
        (world.streams stream).CarriesOn slot frame.type frame.txByteSeq)
    (returned : World.setCurrent world stream slot = some next) :
    Ready next := by
  obtain ⟨noCurrent, attached, isCurrent⟩ := setCurrent_eq_some returned
  rw [isCurrent]
  have fit := ready.fit stream
  refine
    ready.modifyStream stream _
      (ready.coherent.setCurrent noCurrent attached) rfl
      ⟨fit.waiting, fit.activated, ?_⟩ ?_
  · intro frame member
    exact (BaseStream.carries_iff rfl).mpr (meets frame member)
  · intro seq again
    exact absurd noCurrent again.1

theorem Ready.rxSetActive
    {world next : World} (ready : Ready world) {stream : StreamPtr}
    {slot : Slot} {channel : ChannelPtr} {sid : LocalStreamId}
    {rxseq : PacketSeq}
    (returned :
      World.rxSetActive world stream slot channel sid rxseq =
        some next) :
    Ready next := by
  obtain ⟨_, _, attaching⟩ := rxSetActive_eq_some returned
  rw [attaching]
  refine Ready.modifyChannel ?_ channel _ rfl (List.Sublist.refl _)
  exact ready.modifyOther stream _ rfl rfl rfl rfl rfl

theorem Ready.rxClear
    {world next : World} (ready : Ready world) {stream : StreamPtr}
    {slot : Slot}
    (returned : World.rxClear world stream slot = some next) :
    Ready next := by
  rcases rxClear_eq_some returned with
    ⟨_, unchanged⟩ | ⟨channel, _, cleared⟩
  · rw [unchanged]
    exact ready
  · rw [cleared]
    refine Ready.modifyOther ?_ stream _ rfl rfl rfl rfl rfl
    exact ready.modifyChannel channel _ rfl (List.Sublist.refl _)

/-- Attaching a stream leaves its queue and its current attachment alone. -/
theorem setAttaching_keeps
    {world next : World} {stream : StreamPtr} {slot : Slot}
    {channel : ChannelPtr} {sid : LocalStreamId}
    (returned :
      World.setAttaching world stream slot channel sid = some next) :
    (next.streams stream).txQueue = (world.streams stream).txQueue ∧
      (next.streams stream).txCurrentAttachment =
        (world.streams stream).txCurrentAttachment := by
  obtain ⟨_, _, attaching⟩ := setAttaching_eq_some returned
  rw [attaching, modifyChannel_streams, setTxAttachment,
    modifyStream_streams_self]
  exact ⟨rfl, rfl⟩

private theorem setActive_txQueue
    {world next : World} {stream : StreamPtr} {slot : Slot}
    {rxseq : PacketSeq}
    (returned : World.setActive world stream slot rxseq = some next) :
    (next.streams stream).txQueue = (world.streams stream).txQueue := by
  obtain ⟨_, activated⟩ := setActive_eq_some returned
  rw [activated, setTxAttachment, modifyStream_streams_self]

/-- The root stream has no current attachment while it is attached, and then
nothing to send. -/
theorem Ready.construct
    {world next : World} (ready : Ready world) {channel : ChannelPtr}
    {root : StreamPtr}
    (returned : World.construct world channel root = some next) :
    Ready next := by
  obtain ⟨isNew, attaching, activated, current, attached, active,
    isCurrent, returned⟩ := construct_eq_some returned
  obtain ⟨_, _, noCurrent, _, _, empty⟩ := isNew
  have rooted :=
    ready.modifyChannel channel
      (fun entry => { entry with root := some root }) rfl
      (List.Sublist.refl _)
  obtain ⟨sameQueue, sameCurrent⟩ := setAttaching_keeps attached
  have readyActivated : Ready activated := by
    refine (rooted.setAttaching attached).setActive ?_ active
    rintro ⟨isSlot, _⟩
    rw [sameCurrent, modifyChannel_streams, noCurrent] at isSlot
    cases isSlot
  have readyCurrent : Ready current := by
    refine readyActivated.setCurrent ?_ isCurrent
    intro frame member
    rw [setActive_txQueue active, sameQueue, modifyChannel_streams,
      empty] at member
    cases member
  exact readyCurrent.rxSetActive returned

private theorem insertPacket_streams_of_ne
    (world : World) {stream other : StreamPtr}
    (different : other ≠ stream) (frame : TxFrame) :
    (world.insertPacket stream frame).streams other =
      world.streams other := by
  rw [insertPacket, tick_streams, setTxQueue,
    modifyStream_streams_of_ne _ different, record_streams]

/-- An insertion changes no other field of a stream. -/
theorem insertPacket_field
    {β : Type} (field : BaseStream → β)
    (queued :
      ∀ entry queue, field { entry with txQueue := queue } = field entry)
    (world : World) (stream : StreamPtr) (frame : TxFrame)
    (other : StreamPtr) :
    field ((world.insertPacket stream frame).streams other) =
      field (world.streams other) := by
  rw [insertPacket, tick_streams, setTxQueue]
  exact modifyStream_field _ field stream _ (queued _ _) other

theorem Ready.insertPacket
    {world : World} (ready : Ready world) {stream : StreamPtr}
    {frame : TxFrame} (owned : frame.owner = some stream)
    (carries :
      (world.streams stream).Carries frame.type frame.txByteSeq) :
    Ready (world.insertPacket stream frame) where
  sound :=
    soundTables_step
      (Step.quiet (QuietStep.insertPacket world stream frame owned))
      ready.sound
  coherent :=
    ready.coherent.keepsLines (keepsLines_insertPacket world stream frame)
  owned := ready.owned.insertPacket owned
  fit := by
    intro other
    by_cases same : other = stream
    · subst other
      have sameCarries :=
        insertPacket_field BaseStream.Carries (fun _ _ => rfl) world stream
          frame stream
      refine ⟨fun _ => ?_, ?_, ?_⟩
      · rw [insertPacket_txQueue]
        exact List.ne_nil_of_mem (mem_insertFrame.mpr (Or.inl rfl))
      · rw [insertPacket_field BaseStream.txAttachments fun _ _ => rfl]
        exact (ready.fit stream).activated
      · intro queued member
        rw [sameCarries]
        rw [insertPacket_txQueue, mem_insertFrame] at member
        rcases member with inserted | old
        · rw [inserted]
          exact carries
        · exact (ready.fit stream).carried queued old
    · rw [insertPacket_streams_of_ne world same]
      exact ready.fit other
  sentAgain := by
    intro channel copied member isEmpty owner isOwner
    rw [insertPacket_field BaseStream.SendsAgain fun _ _ => rfl]
    exact ready.sentAgain channel copied member isEmpty owner isOwner

/-- The assertions hold in every pass of the loop. -/
theorem Ready.readyTransmitLoop
    {env : Env} {channel : ChannelPtr} {fuel : Nat} {world : World}
    (ready : Ready world) :
    ∀ transmission ∈
      readyTransmitLoopTransmissions env channel fuel world,
      transmission.AssertionsHold := by
  induction fuel generalizing world with
  | zero =>
      intro transmission member
      cases member
  | succ fuel inductionHypothesis =>
      intro transmission member
      unfold readyTransmitLoopTransmissions at member
      split at member
      · cases member
      · next stream rest line =>
          dsimp only at member
          rcases List.mem_cons.mp member with front | later
          · rw [front]
            exact ready.front line
          · split at later
            · cases later
            · next passed transmitted =>
                obtain ⟨enqueued, current, steps⟩ :=
                  transmitOn_eq_some transmitted
                have taken :=
                  TxStep.take world channel stream rest line enqueued
                    current
                have readyPassed := (ready.txStep taken).txSteps steps
                split at later
                · cases later
                · split at later
                  · exact
                      inductionHypothesis
                        (readyPassed.txStep (TxStep.tick passed))
                        transmission later
                  · cases later

theorem Ready.txEnqueueChannelNow
    {env : Env} {world : World} (ready : Ready world)
    (stream : StreamPtr) :
    ∀ transmission ∈ world.txEnqueueChannelNowTransmissions env stream,
      transmission.AssertionsHold := by
  intro transmission member
  unfold txEnqueueChannelNowTransmissions at member
  split at member
  · cases member
  · next joined enqueued =>
      have readyJoined := ready.txSteps (txEnqueueChannel_steps enqueued)
      split at member
      · cases member
      · split at member
        · exact
            (readyJoined.txStep (TxStep.tick joined)).readyTransmitLoop
              transmission member
        · cases member

/-! ## Writing -/

theorem TxSteps.carries
    {world next : World} (steps : TxSteps world next)
    (stream : StreamPtr) :
    (next.streams stream).Carries = (world.streams stream).Carries := by
  induction steps with
  | refl =>
      rfl
  | tail _ step inductionHypothesis =>
      rw [step.carries stream]
      exact inductionHypothesis

private theorem txEnqueuePacket_carries
    {env : Env} {world next : World} {stream : StreamPtr}
    {frame : TxFrame}
    (returned : txEnqueuePacket env world stream frame = some next) :
    (next.streams stream).Carries = (world.streams stream).Carries := by
  rw [txEnqueuePacket] at returned
  rw [(txEnqueueChannelNow_steps returned).carries stream]
  exact
    insertPacket_field BaseStream.Carries (fun _ _ => rfl) world stream
      frame stream

/-- The sequence numbers of the segments that are cut. -/
def segmentStarts : (seq : ByteSeq) → (sizes : List Nat) → List ByteSeq
  | _, [] => []
  | seq, size :: sizes =>
      seq :: segmentStarts (seq + UInt64.ofNat size) sizes

/-- The segments that are left to write are carried. -/
def CarriesSegments
    (stream : StreamPtr) (sizes : List Nat) (world : World) : Prop :=
  ∀ seq ∈ segmentStarts (world.streams stream).txByteSeq sizes,
    (world.streams stream).Carries .stream seq

theorem Ready.holdSegment
    {world : World} (ready : Ready world) {stream : StreamPtr}
    {size : Nat}
    (carries :
      (world.streams stream).Carries .stream
        (world.streams stream).txByteSeq) :
    Ready
      ((world.holdSegment stream size).insertPacket stream
        { TxFrame.create stream .stream with
          txByteSeq := (world.streams stream).txByteSeq }) := by
  have held : Ready (world.holdSegment stream size) :=
    ready.modifyOther stream _ rfl rfl rfl rfl rfl
  refine held.insertPacket rfl ?_
  rw [World.holdSegment, modifyStream_streams_self]
  exact carries

private theorem writeSegment_carriesSegments
    {env : Env} {world next : World} {stream : StreamPtr} {size : Nat}
    {sizes : List Nat}
    (carries : CarriesSegments stream (size :: sizes) world)
    (returned : writeSegment env stream world size = some next) :
    CarriesSegments stream sizes next := by
  intro seq member
  rw [writeSegment_txByteSeq returned] at member
  rw [writeSegment] at returned
  have sameHeld :
      ((world.holdSegment stream size).streams stream).Carries =
        (world.streams stream).Carries :=
    modifyStream_field world BaseStream.Carries stream _ rfl stream
  rw [txEnqueuePacket_carries returned, sameHeld]
  exact carries seq (List.mem_cons_of_mem _ member)

theorem Ready.writeSegment
    {env : Env} {world next : World} (ready : Ready world)
    {stream : StreamPtr} {size : Nat} {sizes : List Nat}
    (carries : CarriesSegments stream (size :: sizes) world)
    (returned : World.writeSegment env stream world size = some next) :
    Ready next := by
  rw [World.writeSegment, txEnqueuePacket] at returned
  exact
    (ready.holdSegment (carries _ List.mem_cons_self)).txSteps
      (txEnqueueChannelNow_steps returned)

private theorem Ready.writeSegments
    {env : Env} {world next : World} (ready : Ready world)
    {stream : StreamPtr} {sizes : List Nat}
    (carries : CarriesSegments stream sizes world)
    (returned :
      sizes.foldlM (World.writeSegment env stream) world = some next) :
    Ready next := by
  induction sizes generalizing world with
  | nil =>
      cases returned
      exact ready
  | cons size sizes inductionHypothesis =>
      rw [List.foldlM_cons, bind_eq_some_iff] at returned
      obtain ⟨middle, written, returned⟩ := returned
      exact
        inductionHypothesis (ready.writeSegment carries written)
          (writeSegment_carriesSegments carries written) returned

private theorem Ready.writeSegments_transmissions
    {env : Env} {world : World} (ready : Ready world)
    {stream : StreamPtr} {sizes : List Nat}
    (carries : CarriesSegments stream sizes world) :
    ∀ transmission ∈
      foldTrace (World.writeSegment env stream)
        (writeSegmentTransmissions env stream) sizes world,
      transmission.AssertionsHold := by
  refine
    foldTrace_invariant
      (fun sizes world => Ready world ∧ CarriesSegments stream sizes world)
      _ ?_ ?_ ⟨ready, carries⟩
  · rintro size sizes before after ⟨ready, carries⟩ written
    exact ⟨ready.writeSegment carries written,
      writeSegment_carriesSegments carries written⟩
  · rintro size sizes before ⟨ready, carries⟩
    exact
      (ready.holdSegment (carries _ List.mem_cons_self)).txEnqueueChannelNow
        stream

/-- The fragments of a datagram all have the current sequence number. -/
def CarriesDatagram (stream : StreamPtr) (world : World) : Prop :=
  (world.streams stream).Carries .empty (world.streams stream).txByteSeq

private theorem writeFragment_carriesDatagram
    {env : Env} {world next : World} {stream : StreamPtr} {size : Nat}
    (carries : CarriesDatagram stream world)
    (returned : writeFragment env stream world size = some next) :
    CarriesDatagram stream next := by
  rw [writeFragment] at returned
  have sameCarries := txEnqueuePacket_carries returned
  rw [txEnqueuePacket] at returned
  have sameSeq :
      (next.streams stream).txByteSeq =
        (world.streams stream).txByteSeq := by
    rw [TxSteps.txByteSeq (txEnqueueChannelNow_steps returned)]
    exact
      insertPacket_field BaseStream.txByteSeq (fun _ _ => rfl) world stream
        _ stream
  unfold CarriesDatagram
  rw [sameCarries, sameSeq]
  exact carries

private theorem Ready.holdFragment
    {world : World} (ready : Ready world) {stream : StreamPtr}
    (carries : CarriesDatagram stream world) :
    Ready
      (world.insertPacket stream
        { TxFrame.create stream .empty with
          txByteSeq := (world.streams stream).txByteSeq }) :=
  ready.insertPacket rfl carries

theorem Ready.writeFragment
    {env : Env} {world next : World} (ready : Ready world)
    {stream : StreamPtr} {size : Nat}
    (carries : CarriesDatagram stream world)
    (returned : World.writeFragment env stream world size = some next) :
    Ready next := by
  rw [World.writeFragment, txEnqueuePacket] at returned
  exact
    (ready.holdFragment carries).txSteps
      (txEnqueueChannelNow_steps returned)

private theorem Ready.writeFragments
    {env : Env} {world next : World} (ready : Ready world)
    {stream : StreamPtr} {sizes : List Nat}
    (carries : CarriesDatagram stream world)
    (returned :
      sizes.foldlM (World.writeFragment env stream) world = some next) :
    Ready next := by
  refine
    (foldlM_invariant
      (fun reached => Ready reached ∧ CarriesDatagram stream reached)
      ?_ ⟨ready, carries⟩ returned).1
  rintro size _ before after ⟨ready, carries⟩ written
  exact ⟨ready.writeFragment carries written,
    writeFragment_carriesDatagram carries written⟩

theorem Ready.writeDatagram
    {env : Env} {world : World} (ready : Ready world)
    {stream : StreamPtr} (carries : CarriesDatagram stream world)
    (totalSize : Nat) :
    ∀ transmission ∈
      world.writeDatagramTransmissions env stream totalSize,
      transmission.AssertionsHold := by
  intro transmission member
  unfold writeDatagramTransmissions at member
  rcases List.mem_append.mp member with during | after
  · refine
      foldTrace_invariant
        (fun _ reached => Ready reached ∧ CarriesDatagram stream reached)
        _ ?_ ?_ ⟨ready, carries⟩ transmission during
    · rintro size sizes before after ⟨ready, carries⟩ written
      exact ⟨ready.writeFragment carries written,
        writeFragment_carriesDatagram carries written⟩
    · rintro size sizes before ⟨ready, carries⟩
      exact (ready.holdFragment carries).txEnqueueChannelNow stream
  · split at after
    · cases after
    · next written returned =>
        exact
          (ready.writeFragments carries returned).txEnqueueChannelNow
            stream transmission after

/-- A datagram goes back to a queue from which it can be sent again. -/
theorem Ready.returnDatagram
    {world : World} (ready : Ready world) {channel : ChannelPtr}
    {copied : PacketSeq × WaitingFrame} {owner : StreamPtr}
    (member : copied ∈ (world.channels channel).waitingAck)
    (isEmpty : copied.2.frame.type = .empty)
    (owned : copied.2.frame.owner = some owner) :
    Ready
      ((world.record (.missed copied.2.id)).insertPacket owner
        { copied.2.frame with late := true }) := by
  have again := ready.sentAgain channel copied member isEmpty owner owned
  refine (ready.record (.missed copied.2.id)).insertPacket owned ?_
  dsimp only
  rw [isEmpty]
  exact again.2

theorem Ready.missedOne
    {env : Env} {world next : World} (ready : Ready world)
    {channel : ChannelPtr} {txseq : PacketSeq}
    (returned : World.missedOne env channel world txseq = some next) :
    Ready next := by
  rcases missedOne_cases ready.sound returned with
    ⟨_, unchanged⟩ | ⟨entry, owner, middle, member, owned, handed, ends⟩
  · rw [unchanged]
    exact ready
  · have readyMiddle : Ready middle := by
      unfold Returned at handed
      split at handed
      · next isEmpty =>
          exact (ready.returnDatagram member isEmpty owned).txSteps handed
      · exact (ready.record (.missed entry.id)).txSteps handed
    rcases ends with same | erased
    · rw [same]
      exact readyMiddle
    · rw [erased]
      exact readyMiddle.eraseWaitingAck channel txseq

private theorem Ready.missedOne_transmissions
    {env : Env} {world : World} (ready : Ready world)
    (channel : ChannelPtr) (txseq : PacketSeq) :
    ∀ transmission ∈ missedOneTransmissions env channel world txseq,
      transmission.AssertionsHold := by
  intro transmission member
  unfold missedOneTransmissions at member
  split at member
  · cases member
  · next entry found =>
      split at member
      · cases member
      · split at member
        · cases member
        · next owner owned =>
            unfold baseMissedTransmissions at member
            split at member
            · next isEmpty =>
                have returned :=
                  ready.returnDatagram (mem_of_lookup_eq_some found)
                    isEmpty owned
                exact
                  returned.txEnqueueChannelNow owner transmission member
            · cases member

theorem Ready.missed
    {env : Env} {world : World} (ready : Ready world)
    (channel : ChannelPtr) (seqs : List PacketSeq) :
    ∀ transmission ∈
      foldTrace (World.missedOne env channel)
        (missedOneTransmissions env channel) seqs world,
      transmission.AssertionsHold :=
  foldTrace_invariant (fun _ => Ready) _
    (fun _ _ _ _ ready missed => ready.missedOne missed)
    (fun txseq _ _ ready => ready.missedOne_transmissions channel txseq)
    ready

theorem Ready.acknowledgedOne
    {world next : World} (ready : Ready world) {channel : ChannelPtr}
    {txseq : PacketSeq}
    (returned : World.acknowledgedOne channel world txseq = some next) :
    Ready next := by
  rcases acknowledgedOne_eq_some returned with
    unchanged | ⟨entry, _, erased⟩
  · rw [unchanged]
    exact ready
  · rw [erased]
    exact (ready.eraseWaitingAck channel txseq).record _

theorem Ready.expireOne
    {world : World} (ready : Ready world) (channel : ChannelPtr)
    (txseq : PacketSeq) :
    Ready (World.expireOne channel world txseq) := by
  rcases expireOne_cases channel world txseq with
    unchanged | erased | ⟨entry, _, erased⟩
  · rw [unchanged]
    exact ready
  · rw [erased]
    exact ready.eraseWaitingAck channel txseq
  · rw [erased]
    exact (ready.eraseWaitingAck channel txseq).record _

/-! ## Calls -/

theorem Ready.start
    {env : Env} {world next : World} (ready : Ready world)
    {channel : ChannelPtr} {initiate : Bool}
    (returned : World.start env world channel initiate = some next) :
    Ready next := by
  obtain ⟨middle, root, usid, transmitted, _, named⟩ :=
    start_eq_some returned
  rw [named]
  have activated :=
    ready.modifyChannel channel (fun entry => { entry with active := true })
      rfl (List.Sublist.refl _)
  have readyMiddle := activated.txSteps (gotReadyTransmit_steps transmitted)
  exact readyMiddle.modifyOther root _ rfl rfl rfl rfl rfl

theorem Ready.recalculateTransmitWindow
    {env : Env} {world next : World} (ready : Ready world)
    {stream : StreamPtr} {windowByte : UInt8}
    (returned :
      World.recalculateTransmitWindow env world stream windowByte =
        some next) :
    Ready next := by
  obtain ⟨window, reached⟩ := recalculateTransmitWindow_eq_some returned
  have changed :=
    ready.modifyOther stream
      (fun entry => { entry with txWindow := window }) rfl rfl rfl rfl rfl
  rcases reached with same | transmitted
  · rw [same]
    exact changed
  · exact changed.txSteps (txEnqueueChannelNow_steps transmitted)

private theorem Ready.recalculateTransmitWindow_transmissions
    {env : Env} {world : World} (ready : Ready world)
    (stream : StreamPtr) (windowByte : UInt8) :
    ∀ transmission ∈
      world.recalculateTransmitWindowTransmissions env stream windowByte,
      transmission.AssertionsHold := by
  intro transmission member
  unfold recalculateTransmitWindowTransmissions at member
  dsimp only at member
  generalize
    (2 : Int) ^ ((if 158 < windowByte then 158 else windowByte) &&&
      0x1f).toNat - 1 = window at member
  split at member
  · refine Ready.txEnqueueChannelNow ?_ stream transmission member
    exact ready.modifyOther stream _ rfl rfl rfl rfl rfl
  · cases member

theorem Ready.setPriority
    {world next : World} (ready : Ready world) {stream : StreamPtr}
    {priority : Priority}
    (returned : World.setPriority world stream priority = some next) :
    Ready next := by
  have changed : Ready (world.withPriority stream priority) :=
    ready.modifyOther stream _ rfl rfl rfl rfl rfl
  rcases setPriority_eq_some returned with
    unchanged | ⟨_, outOfLine⟩ | ⟨channel, current, enqueued, inLine⟩
  · rw [unchanged]
    exact ready
  · rw [outOfLine]
    exact changed
  · rw [← flag_withPriority world stream priority] at enqueued
    rw [← currentChannel_withPriority world stream priority] at current
    rw [inLine]
    refine
      changed.change (changed.coherent.reprioritise enqueued current) ?_
        (Nat.le_refl _) (fun _ => rfl) changed.fit fun _ _ _ _ _ => id
    intro other
    rw [enqueueStream, dequeueStream,
      modifyChannel_field _ StreamChannel.waitingAck channel _ rfl,
      modifyChannel_field _ StreamChannel.waitingAck channel _ rfl]

/-- The calls that clear attachments. -/
def Call.Detaches : Call → Prop
  | .stop _ => True
  | .detachAll _ => True
  | .clear _ _ => True
  | _ => False

/-- Frames are queued only on streams whose current attachment carries them,
and an attachment is acknowledged or made the current one only where it
carries the frames that are queued already. -/
def Call.QueuesCarried (env : Env) (world : World) : Call → Prop
  | .writeData stream totalSize =>
      CarriesSegments stream
        (segmentSizes env.mtu (totalSize + 1) totalSize) world
  | .writeDatagram stream _ => CarriesDatagram stream world
  | .setActive stream slot rxseq =>
      (world.streams stream).Acknowledges slot rxseq →
        (world.streams stream).init = false ∨
          (world.streams stream).txQueue = []
  | .setCurrent stream slot =>
      ∀ frame ∈ (world.streams stream).txQueue,
        (world.streams stream).CarriesOn slot frame.type frame.txByteSeq
  | _ => True

/-- A call that clears no attachment and queues only frames that are
carried. -/
structure CarriedStep
    (env : Env) (world : World) (call : Call) (next : World) : Prop where
  attached : ¬ call.Detaches
  carried : call.QueuesCarried env world
  taken : CallStep env world call next

abbrev CarriedRun (env : Env) : World → List Call → World → Prop :=
  Run (CarriedStep env)

theorem Ready.call
    {env : Env} {world next : World} {call : Call} (ready : Ready world)
    (step : CarriedStep env world call next) :
    Ready next := by
  obtain ⟨attached, carried, returned⟩ := step
  unfold CallStep at returned
  cases call with
  | construct channel root =>
      exact ready.construct returned
  | start channel initiate =>
      exact ready.start returned
  | setAttaching stream slot channel sid =>
      exact ready.setAttaching returned
  | setActive stream slot rxseq =>
      exact ready.setActive carried returned
  | setCurrent stream slot =>
      exact ready.setCurrent carried returned
  | rxSetActive stream slot channel sid rxseq =>
      exact ready.rxSetActive returned
  | rxClear stream slot =>
      exact ready.rxClear returned
  | writeData stream totalSize =>
      rw [Call.run, writeData, guard_bind_eq_some_iff] at returned
      exact ready.writeSegments carried returned.2
  | writeDatagram stream totalSize =>
      rw [Call.run, World.writeDatagram, bind_eq_some_iff] at returned
      obtain ⟨written, fragments, returned⟩ := returned
      exact
        (ready.writeFragments carried fragments).txSteps
          (txEnqueueChannelNow_steps returned)
  | txEnqueueChannel stream immediately =>
      rw [Call.run] at returned
      split at returned
      · exact ready.txSteps (txEnqueueChannelNow_steps returned)
      · exact ready.txSteps (txEnqueueChannel_steps returned)
  | recalculateTransmitWindow stream windowByte =>
      exact ready.recalculateTransmitWindow returned
  | setPriority stream priority =>
      exact ready.setPriority returned
  | gotReadyTransmit channel =>
      exact ready.txSteps (gotReadyTransmit_steps returned)
  | acknowledged channel txseq npackets =>
      exact
        foldlM_invariant Ready
          (fun _ _ _ _ ready acknowledged =>
            ready.acknowledgedOne acknowledged)
          ready returned
  | missed channel txseq npackets =>
      exact
        foldlM_invariant Ready
          (fun _ _ _ _ ready missed => ready.missedOne missed)
          ready returned
  | expire channel txseq npackets =>
      cases returned
      exact
        List.foldlRecOn _ _ ready
          fun _ ready txseq _ => ready.expireOne channel txseq
  | stop | detachAll | clear =>
      exact absurd trivial attached

theorem Ready.transmissions
    {env : Env} {world : World} {call : Call} (ready : Ready world)
    (attached : ¬ call.Detaches) (carried : call.QueuesCarried env world) :
    ∀ transmission ∈ call.transmissions env world,
      transmission.AssertionsHold := by
  intro transmission member
  cases call with
  | start channel initiate =>
      refine Ready.readyTransmitLoop ?_ transmission member
      exact ready.modifyChannel channel _ rfl (List.Sublist.refl _)
  | writeData stream totalSize =>
      rw [Call.transmissions] at member
      split at member
      · cases member
      · exact
          ready.writeSegments_transmissions carried transmission member
  | writeDatagram stream totalSize =>
      exact ready.writeDatagram carried totalSize transmission member
  | txEnqueueChannel stream immediately =>
      rw [Call.transmissions] at member
      split at member
      · exact ready.txEnqueueChannelNow stream transmission member
      · cases member
  | recalculateTransmitWindow stream windowByte =>
      exact
        ready.recalculateTransmitWindow_transmissions stream windowByte
          transmission member
  | gotReadyTransmit channel =>
      exact ready.readyTransmitLoop transmission member
  | missed channel txseq npackets =>
      exact ready.missed channel _ transmission member
  | stop | detachAll | clear =>
      exact absurd trivial attached
  | _ =>
      cases member

private theorem ready_of_initial
    {world : World} (initial : world.Initial) :
    Ready world where
  sound := soundTables_of_initial initial
  coherent := coherent_of_initial initial
  owned := ownedQueues_of_initial initial
  fit := by
    intro stream
    obtain ⟨unattached, _, _, notEnqueued, _, empty⟩ :=
      initial.streams stream
    refine ⟨?_, ?_, ?_⟩
    · intro enqueued
      rw [notEnqueued] at enqueued
      cases enqueued
    · intro slot inUse
      exact absurd (unattached slot) inUse
    · intro frame member
      rw [empty] at member
      cases member
  sentAgain := by
    intro channel copied member
    rw [initial.waitingAck] at member
    cases member

/-- In every run in which frames are queued only where they are carried, no
assertion of `transmit_on` or `tx_attach_data` fails. -/
theorem transmit_on_assertions_hold
    {env : Env} {start final : World} {calls : List Call} {call : Call}
    (initial : start.Initial)
    (run : CarriedRun env start calls final)
    (attached : ¬ call.Detaches)
    (carried : call.QueuesCarried env final) :
    ∀ transmission ∈ call.transmissions env final,
      transmission.AssertionsHold := by
  have ready : Ready final :=
    run.induct (fun _ => Ready) (ready_of_initial initial)
      fun _ _ _ _ _ ready step => ready.call step
  exact ready.transmissions attached carried

/-- The calls that attach a stream on which the peer is heard. -/
def replyingCalls : List Call :=
  [.construct 0 0, .start 0 true, .rxSetActive 1 .first 0 3 1,
    .setAttaching 1 .first 0 3, .setCurrent 1 .first]

theorem transmit_on_assertions_hold_of_reply :
    ∃ final,
      CarriedRun (Env.constant true) (World.create [1] [2])
          replyingCalls final ∧
        ((Call.writeData 1 1).transmissions (Env.constant true)
          final).length = 1 ∧
        ∀ transmission ∈
          (Call.writeData 1 1).transmissions (Env.constant true) final,
          transmission.AssertionsHold := by
  have constructed :
      CarriedRun (Env.constant true) (World.create [1] [2])
        [.construct 0 0] _ :=
    Run.single ⟨not_false, trivial, rfl⟩
  have started :=
    constructed.snoc (Call.start 0 true) ⟨not_false, trivial, rfl⟩
  have heard :=
    started.snoc (Call.rxSetActive 1 .first 0 3 1)
      ⟨not_false, trivial, rfl⟩
  have attached :=
    heard.snoc (Call.setAttaching 1 .first 0 3)
      ⟨not_false, trivial, rfl⟩
  have run :=
    attached.snoc (Call.setCurrent 1 .first)
      ⟨not_false, fun _ queued => absurd queued List.not_mem_nil, rfl⟩
  refine ⟨_, run, rfl, ?_⟩
  refine
    transmit_on_assertions_hold (create_initial [1] [2]) run not_false ?_
  intro seq start
  rw [List.mem_singleton.mp start, BaseStream.carries_iff rfl]
  decide

/-- A write to the root stream, whose attachment is acknowledged from the
start, meets the assertion that `init_` is clear. -/
theorem transmit_on_assertion_fails_on_root_stream :
    ∃ final,
      CallRun (Env.constant true) (World.create [1] [2])
          [.construct 0 0, .start 0 true] final ∧
        ∃ transmission ∈
          (Call.writeData 0 1).transmissions (Env.constant true) final,
          ¬ transmission.AssertionsHold := by
  refine ⟨_, CallRun.of_runAll rfl, _, List.mem_cons_self, ?_⟩
  rintro ⟨_, _, _, _, holds⟩
  obtain ⟨clear, _⟩ := holds .first _ _ rfl rfl
  cases clear

end StructuredStreams.Stream
