import StructuredStreams.Stream.Fairness
import StructuredStreams.Stream.TransmitQueue
import StructuredStreams.Stream.Transmissions

/-!
# The end of the scheduling loop

`got_ready_transmit` lets the streams in line transmit until the line is empty
or the channel may not transmit.  Where the streams in line stand there once
and their frames meet the assertions of `transmit_on`, the loop comes to its
end whatever `may_transmit` answers, after no more invocations of
`transmit_on` than there are frames and streams, and sends no frame twice.
-/

namespace StructuredStreams.Stream

open World

/-- The frame that an event sends for the stream. -/
def Event.sentFor (stream : StreamPtr) : Event → Option TxFrame
  | .transmitted sender _ frame =>
      if sender = stream then some frame else none
  | _ => none

/-- The frames that a part of the history sends for a stream, in their
order. -/
def framesSent (stream : StreamPtr) (events : List Event) : List TxFrame :=
  events.reverse.filterMap (Event.sentFor stream)

/-- Between two worlds, what was sent for a stream and what is still queued
are different frames of its queue, in their order. -/
def SentOnce (world next : World) : Prop :=
  ∃ events,
    next.log = events ++ world.log ∧
      ∀ stream,
        (framesSent stream events ++
            (next.streams stream).txQueue).Sublist
          (world.streams stream).txQueue

private theorem framesSent_cons
    (stream : StreamPtr) (event : Event) (events : List Event) :
    framesSent stream (event :: events) =
      framesSent stream events ++ (event.sentFor stream).toList := by
  cases sent : event.sentFor stream <;>
    simp [framesSent, List.filterMap_append, sent]

theorem SentOnce.refl (world : World) : SentOnce world world :=
  ⟨[], rfl, fun _ => List.Sublist.refl _⟩

/-- A step either sends the frame at the front of a queue or only drops
frames. -/
theorem TxStep.sends_or_drops
    {world next : World} (step : TxStep world next) :
    (next.log = world.log ∧ OnlyDrops world next) ∨
      ∃ event,
        next.log = event :: world.log ∧
          ∀ stream,
            (event.sentFor stream).toList ++
                (next.streams stream).txQueue =
              (world.streams stream).txQueue := by
  have drops := step.onlyDrops
  cases step with
  | send sender channel head rest pktseq queue =>
      refine
        Or.inr ⟨.transmitted sender channel head, rfl, fun stream => ?_⟩
      rw [insertWaitingAck, tick_streams, modifyChannel_streams,
        record_streams, setTxQueue, Event.sentFor]
      by_cases same : sender = stream
      · subst stream
        rw [if_pos rfl, modifyStream_streams_self, queue]
        rfl
      · rw [if_neg same, modifyStream_streams_of_ne world (Ne.symm same)]
        rfl
  | adopt stream channel =>
      refine Or.inl ⟨?_, drops⟩
      obtain ⟨parent, isAdopted⟩ := adoptRoot_eq world stream channel
      rw [isAdopted, modifyStream_log]
  | tick | join | take | collect | charge | attach =>
      exact Or.inl ⟨rfl, drops⟩

theorem SentOnce.step
    {world middle next : World} (sent : SentOnce world middle)
    (step : TxStep middle next) :
    SentOnce world next := by
  obtain ⟨events, log, queues⟩ := sent
  rcases step.sends_or_drops with ⟨sameLog, drops⟩ | ⟨event, more, queued⟩
  · refine ⟨events, sameLog.trans log, fun stream => ?_⟩
    exact
      ((List.Sublist.refl _).append (drops stream)).trans (queues stream)
  · refine ⟨event :: events, ?_, fun stream => ?_⟩
    · rw [more, log, List.cons_append]
    · rw [framesSent_cons, List.append_assoc, queued stream]
      exact queues stream

private theorem TxSteps.sentOnce
    {world next : World} (steps : TxSteps world next) :
    SentOnce world next := by
  induction steps with
  | refl =>
      exact SentOnce.refl world
  | tail _ step inductionHypothesis =>
      exact inductionHypothesis.step step

private theorem readyTransmitLoopTransmissions_length_le
    (env : Env) (channel : ChannelPtr) (fuel : Nat) (world : World) :
    (readyTransmitLoopTransmissions env channel fuel world).length ≤
      fuel := by
  induction fuel generalizing world with
  | zero =>
      exact Nat.le_refl 0
  | succ fuel inductionHypothesis =>
      rw [readyTransmitLoopTransmissions]
      split
      · exact Nat.zero_le _
      · refine Nat.succ_le_succ ?_
        split
        · exact Nat.zero_le _
        · next middle _ =>
            split
            · exact Nat.zero_le _
            · split
              · exact inductionHypothesis middle.tick
              · exact Nat.zero_le _

private theorem readyTransmitFuel_eq (world : World) (channel : ChannelPtr) :
    world.readyTransmitFuel channel =
      ((world.channels channel).sendingStreams.map fun stream =>
        (world.streams stream).txQueue.length).sum +
      (world.channels channel).sendingStreams.length := by
  rw [readyTransmitFuel]
  induction (world.channels channel).sendingStreams with
  | nil =>
      rfl
  | cons stream line inductionHypothesis =>
      simp only [List.map_cons, List.sum_cons, List.length_cons]
      omega

/-- What `transmit_on` asserts of a stream on its own account. -/
structure World.StandsInLine
    (world : World) (channel : ChannelPtr) (stream : StreamPtr) :
    Prop where
  enqueued : (world.streams stream).txEnqueuedChannel = true
  current : world.currentChannel stream = some channel
  waiting : (world.streams stream).txQueue ≠ []

/-- The streams in line stand there once. -/
structure World.LineStands
    (world : World) (channel : ChannelPtr) : Prop where
  once : (world.channels channel).sendingStreams.Nodup
  stands :
    ∀ stream ∈ (world.channels channel).sendingStreams,
      world.StandsInLine channel stream

section Line

variable {world : World} {channel : ChannelPtr}

/-- A stream that does not change keeps standing in line. -/
theorem World.StandsInLine.of_same
    {next : World} {stream : StreamPtr}
    (stands : world.StandsInLine channel stream)
    (same : next.streams stream = world.streams stream) :
    next.StandsInLine channel stream where
  enqueued := by
    rw [same]
    exact stands.enqueued
  current := by
    rw [World.currentChannel, same]
    exact stands.current
  waiting := by
    rw [same]
    exact stands.waiting

theorem World.LineStands.keeps
    {next : World} (line : world.LineStands channel)
    (sameLine :
      (next.channels channel).sendingStreams =
        (world.channels channel).sendingStreams)
    (keeps :
      ∀ stream ∈ (world.channels channel).sendingStreams,
        world.StandsInLine channel stream →
          next.StandsInLine channel stream) :
    next.LineStands channel where
  once := by
    rw [sameLine]
    exact line.once
  stands := by
    rw [sameLine]
    intro stream inLine
    exact keeps stream inLine (line.stands stream inLine)

/-- A change of a stream that keeps standing in line when it did. -/
theorem World.LineStands.modifyStream
    (line : world.LineStands channel) (changed : StreamPtr)
    (change : BaseStream → BaseStream)
    (keeps :
      world.StandsInLine channel changed →
        (world.modifyStream changed change).StandsInLine channel changed) :
    (world.modifyStream changed change).LineStands channel := by
  refine line.keeps rfl fun stream _ stands => ?_
  by_cases same : stream = changed
  · subst stream
    exact keeps stands
  · exact stands.of_same (modifyStream_streams_of_ne world same change)

/-- A change of fields that `transmit_on` does not assert anything of. -/
theorem World.LineStands.otherFields
    (line : world.LineStands channel) (changed : StreamPtr)
    (change : BaseStream → BaseStream)
    (enqueued :
      (change (world.streams changed)).txEnqueuedChannel =
        (world.streams changed).txEnqueuedChannel)
    (queue :
      (change (world.streams changed)).txQueue =
        (world.streams changed).txQueue)
    (current :
      (change (world.streams changed)).txCurrentAttachment =
        (world.streams changed).txCurrentAttachment)
    (attachments :
      (change (world.streams changed)).txAttachments =
        (world.streams changed).txAttachments) :
    (world.modifyStream changed change).LineStands channel := by
  refine line.modifyStream changed change fun stands => ?_
  have sameCurrent :=
    currentChannel_modifyStream world changed change current attachments
      changed
  refine ⟨?_, sameCurrent.trans stands.current, ?_⟩
  · rw [modifyStream_streams_self, enqueued]
    exact stands.enqueued
  · rw [modifyStream_streams_self, queue]
    exact stands.waiting

theorem World.LineStands.setTxQueue
    (line : world.LineStands channel) {stream : StreamPtr}
    (notEnqueued : (world.streams stream).txEnqueuedChannel = false)
    (queue : List TxFrame) :
    (world.setTxQueue stream queue).LineStands channel := by
  refine line.modifyStream stream _ fun stands => ?_
  exact absurd (notEnqueued.symm.trans stands.enqueued) Bool.false_ne_true

theorem World.LineStands.insertWaitingAck
    (line : world.LineStands channel) (used : ChannelPtr)
    (pktseq : PacketSeq) (frame : TxFrame) :
    (world.insertWaitingAck used pktseq frame).LineStands channel :=
  line.keeps
    (insertWaitingAck_sendingStreams world used pktseq frame channel)
    fun _ _ stands => ⟨stands.enqueued, stands.current, stands.waiting⟩

/-- A stream without the flag does not stand in line. -/
theorem World.LineStands.ne_of_not_enqueued
    (line : world.LineStands channel) {stream other : StreamPtr}
    (notEnqueued : (world.streams stream).txEnqueuedChannel = false)
    (inLine : other ∈ (world.channels channel).sendingStreams) :
    other ≠ stream := by
  rintro rfl
  exact
    absurd (notEnqueued.symm.trans (line.stands other inLine).enqueued)
      Bool.false_ne_true

/-- A stream gets in line on a channel. -/
theorem World.LineStands.join
    (line : world.LineStands channel) {joined : ChannelPtr}
    {stream : StreamPtr}
    (current : world.currentChannel stream = some joined)
    (notEnqueued : (world.streams stream).txEnqueuedChannel = false)
    (waiting : (world.streams stream).txQueue ≠ []) :
    ((world.enqueueStream joined stream).setTxEnqueuedChannel
      stream true).LineStands channel := by
  generalize joinedEq :
    (world.enqueueStream joined stream).setTxEnqueuedChannel stream true =
      next
  have others (other : StreamPtr)
      (inLine : other ∈ (world.channels channel).sendingStreams) :
      next.StandsInLine channel other := by
    apply (line.stands other inLine).of_same
    rw [← joinedEq, setTxEnqueuedChannel,
      modifyStream_streams_of_ne _
        (line.ne_of_not_enqueued notEnqueued inLine)]
    rfl
  by_cases here : joined = channel
  · subst joined
    have perm :
        (next.channels channel).sendingStreams.Perm
          (stream :: (world.channels channel).sendingStreams) := by
      rw [← joinedEq, setTxEnqueuedChannel, modifyStream_channels,
        enqueueStream, modifyChannel_channels_self]
      exact insertUpperBound_perm _ stream _
    have itself : next.StandsInLine channel stream := by
      rw [← joinedEq]
      refine ⟨?_, ?_, ?_⟩
      · rw [setTxEnqueuedChannel, modifyStream_streams_self]
      · rw [currentChannel_setTxEnqueuedChannel]
        exact current
      · rw [setTxEnqueuedChannel, modifyStream_streams_self]
        exact waiting
    constructor
    · rw [perm.nodup_iff, List.nodup_cons]
      exact
        ⟨fun inLine =>
          line.ne_of_not_enqueued notEnqueued inLine rfl, line.once⟩
    · intro other inLine
      rcases List.mem_cons.mp (perm.mem_iff.mp inLine) with rfl | before
      · exact itself
      · exact others other before
  · have sameLine :
        (next.channels channel).sendingStreams =
          (world.channels channel).sendingStreams := by
      rw [← joinedEq, setTxEnqueuedChannel, modifyStream_channels,
        enqueueStream, modifyChannel_channels_of_ne world (Ne.symm here)]
    exact line.keeps sameLine fun other inLine _ => others other inLine

/-- The stream at the front of the line of a channel is taken out. -/
theorem World.LineStands.take
    (line : world.LineStands channel) {taken : ChannelPtr}
    {stream : StreamPtr} {rest : List StreamPtr}
    (sending : (world.channels taken).sendingStreams = stream :: rest)
    (current : world.currentChannel stream = some taken) :
    ((world.modifyChannel taken fun entry =>
        { entry with sendingStreams := rest }).setTxEnqueuedChannel
      stream false).LineStands channel := by
  generalize takenEq :
    (world.modifyChannel taken fun entry =>
        { entry with sendingStreams := rest }).setTxEnqueuedChannel
      stream false = next
  have others (other : StreamPtr)
      (inLine : other ∈ (world.channels channel).sendingStreams)
      (different : other ≠ stream) :
      next.StandsInLine channel other := by
    apply (line.stands other inLine).of_same
    rw [← takenEq, setTxEnqueuedChannel,
      modifyStream_streams_of_ne _ different, modifyChannel_streams]
  by_cases here : taken = channel
  · subst taken
    have once := line.once
    rw [sending] at once
    have sameLine : (next.channels channel).sendingStreams = rest := by
      rw [← takenEq, setTxEnqueuedChannel, modifyStream_channels,
        modifyChannel_channels_self]
    constructor
    · rw [sameLine]
      exact once.of_cons
    · rw [sameLine]
      intro other inRest
      refine others other ?_ ?_
      · rw [sending]
        exact List.mem_cons_of_mem stream inRest
      · rintro rfl
        exact (List.nodup_cons.mp once).1 inRest
  · have sameLine :
        (next.channels channel).sendingStreams =
          (world.channels channel).sendingStreams := by
      rw [← takenEq, setTxEnqueuedChannel, modifyStream_channels,
        modifyChannel_channels_of_ne world (Ne.symm here)]
    refine line.keeps sameLine fun other inLine stands => ?_
    apply others other inLine
    rintro rfl
    have elsewhere := stands.current
    rw [current, Option.some.injEq] at elsewhere
    exact here elsewhere

/-- The streams in line keep standing there through every transmission. -/
theorem World.LineStands.txStep
    {next : World} (line : world.LineStands channel)
    (step : TxStep world next) :
    next.LineStands channel := by
  cases step with
  | tick =>
      exact
        line.keeps rfl fun _ _ stands =>
          ⟨stands.enqueued, stands.current, stands.waiting⟩
  | join joined stream current notEnqueued waiting =>
      exact line.join current notEnqueued waiting
  | take taken stream rest sending enqueued current =>
      exact line.take sending current
  | collect stream notEnqueued =>
      exact line.setTxQueue notEnqueued _
  | charge stream amount =>
      exact line.otherFields stream _ rfl rfl rfl rfl
  | adopt stream used =>
      obtain ⟨parent, isAdopted⟩ := adoptRoot_eq world stream used
      rw [isAdopted]
      exact line.otherFields stream _ rfl rfl rfl rfl
  | send stream used head rest pktseq queue notEnqueued =>
      refine World.LineStands.insertWaitingAck ?_ used pktseq _
      exact
        (line.setTxQueue notEnqueued rest).keeps rfl fun _ _ stands =>
          ⟨stands.enqueued, stands.current, stands.waiting⟩
  | attach stream used pktseq =>
      exact line.insertWaitingAck used pktseq _

theorem World.LineStands.txSteps
    {next : World} (line : world.LineStands channel)
    (steps : TxSteps world next) :
    next.LineStands channel := by
  induction steps with
  | refl =>
      exact line
  | tail _ step inductionHypothesis =>
      exact inductionHypothesis.txStep step

end Line

/-! ## A pass of the loop -/

/-- What a pass does that lets `stream` transmit: no other stream gets in
line, and no in-flight count goes down. -/
structure PassFor
    (channel : ChannelPtr) (stream : StreamPtr) (world next : World) :
    Prop where
  line :
    ∀ other ∈ (next.channels channel).sendingStreams,
      other = stream ∨ other ∈ (world.channels channel).sendingStreams
  inflight :
    ∀ other,
      (world.streams other).txInflight ≤ (next.streams other).txInflight

section Pass

variable {env : Env} {channel : ChannelPtr} {stream : StreamPtr}
variable {world middle next : World}

theorem PassFor.trans
    (first : PassFor channel stream world middle)
    (second : PassFor channel stream middle next) :
    PassFor channel stream world next where
  line other inLine := by
    rcases second.line other inLine with isStream | inMiddle
    · exact Or.inl isStream
    · exact first.line other inMiddle
  inflight other := (first.inflight other).trans (second.inflight other)

/-- The line and the in-flight counts stay. -/
theorem PassFor.of_same
    (sameLine :
      (next.channels channel).sendingStreams =
        (world.channels channel).sendingStreams)
    (sameInflight :
      ∀ other,
        (next.streams other).txInflight =
          (world.streams other).txInflight) :
    PassFor channel stream world next where
  line other inLine := by
    rw [sameLine] at inLine
    exact Or.inr inLine
  inflight other := (sameInflight other).ge

private theorem passFor_setTxQueue (queue : List TxFrame) :
    PassFor channel stream world (world.setTxQueue stream queue) :=
  PassFor.of_same rfl
    (modifyStream_field world BaseStream.txInflight stream _ rfl)

private theorem passFor_addTxInflight (payer : StreamPtr) (amount : Nat) :
    PassFor channel stream world (world.addTxInflight payer amount) where
  line _ inLine := Or.inr inLine
  inflight other := by
    by_cases same : other = payer
    · subst other
      rw [addTxInflight, modifyStream_streams_self]
      exact Int.le_add_of_nonneg_right (Int.natCast_nonneg amount)
    · rw [addTxInflight, modifyStream_streams_of_ne world same]

private theorem passFor_adoptRoot :
    PassFor channel stream world (world.adoptRoot stream channel) := by
  obtain ⟨parent, isAdopted⟩ := adoptRoot_eq world stream channel
  rw [isAdopted]
  exact
    PassFor.of_same rfl
      (modifyStream_field world BaseStream.txInflight stream _ rfl)

private theorem passFor_insertWaitingAck
    (used : ChannelPtr) (pktseq : PacketSeq) (frame : TxFrame) :
    PassFor channel stream world
      (world.insertWaitingAck used pktseq frame) :=
  PassFor.of_same
    (insertWaitingAck_sendingStreams world used pktseq frame channel)
    fun _ => rfl

private theorem passFor_joinSendingStreams (current : ChannelPtr) :
    PassFor channel stream world
      (world.joinSendingStreams current stream) := by
  have same : PassFor channel stream world world :=
    PassFor.of_same rfl fun _ => rfl
  unfold joinSendingStreams
  split
  · exact same
  split
  · exact same
  refine ⟨fun other inLine => ?_, fun other => ?_⟩
  · rw [setTxEnqueuedChannel, modifyStream_channels, enqueueStream]
      at inLine
    by_cases here : channel = current
    · subst current
      rw [modifyChannel_channels_self] at inLine
      exact
        List.mem_cons.mp
          ((insertUpperBound_perm _ stream _).mem_iff.mp inLine)
    · rw [modifyChannel_channels_of_ne world here] at inLine
      exact Or.inr inLine
  · rw [setTxEnqueuedChannel]
    exact
      (modifyStream_field (world.enqueueStream current stream)
        BaseStream.txInflight stream _ rfl other).ge

private theorem passFor_txData
    {frame : TxFrame}
    (returned : txData env world stream frame = some next) :
    PassFor channel stream world next := by
  unfold txData at returned
  rw [bind_eq_some_iff] at returned
  obtain ⟨current, _, returned⟩ := returned
  rw [guard_bind_eq_some_iff] at returned
  obtain ⟨_, returned⟩ := returned
  have recorded :
      PassFor channel stream world
        (world.record (.transmitted stream current frame)) :=
    PassFor.of_same rfl fun _ => rfl
  have entered :=
    recorded.trans
      (passFor_insertWaitingAck current (env.packetSeq world.clock)
        { frame with late := false })
  dsimp only at returned
  split at returned
  · cases returned
    exact entered
  · unfold txEnqueueChannel at returned
    split at returned
    · cases returned
      exact entered
    · rw [bind_eq_some_iff] at returned
      obtain ⟨joined, _, returned⟩ := returned
      rw [guard_bind_eq_some_iff] at returned
      obtain ⟨_, returned⟩ := returned
      cases returned
      exact entered.trans (passFor_joinSendingStreams joined)

private theorem passFor_txAttachData
    (returned : txAttachData env world stream = some next) :
    PassFor channel stream world next := by
  unfold txAttachData at returned
  split at returned
  · cases returned
  · next head rest _ =>
      rw [guard_bind_eq_some_iff, guard_bind_eq_some_iff] at returned
      exact (passFor_setTxQueue rest).trans (passFor_txData returned.2.2)

private theorem passFor_transmitHead
    {slot : Slot}
    (returned : transmitHead env world stream channel slot = some next) :
    PassFor channel stream world next := by
  unfold transmitHead at returned
  split at returned
  · cases returned
    exact PassFor.of_same rfl fun _ => rfl
  · next head rest _ =>
      dsimp only at returned
      split at returned
      · rw [guard_bind_eq_some_iff, guard_bind_eq_some_iff] at returned
        exact
          ((passFor_addTxInflight stream head.payloadSize).trans
            (passFor_setTxQueue rest)).trans
            (passFor_txData returned.2.2)
      · refine passFor_adoptRoot.trans ?_
        split at returned
        · next parent _ =>
            exact
              (passFor_addTxInflight parent head.payloadSize).trans
                (passFor_txAttachData returned)
        · split at returned
          · exact
              (passFor_addTxInflight stream head.payloadSize).trans
                (passFor_txAttachData returned)
          · unfold txAttach at returned
            rw [bind_eq_some_iff] at returned
            obtain ⟨current, _, returned⟩ := returned
            cases returned
            exact passFor_insertWaitingAck current _ _

private theorem passFor_transmitOn
    (returned : transmitOn env world stream channel = some next) :
    PassFor channel stream world next := by
  unfold transmitOn at returned
  rw [guard_bind_eq_some_iff, bind_eq_some_iff] at returned
  obtain ⟨_, slot, _, returned⟩ := returned
  rw [guard_bind_eq_some_iff, guard_bind_eq_some_iff] at returned
  obtain ⟨_, _, returned⟩ := returned
  have left :
      PassFor channel stream world
        (world.setTxEnqueuedChannel stream false) :=
    PassFor.of_same rfl
      (modifyStream_field world BaseStream.txInflight stream _ rfl)
  exact
    (left.trans (passFor_setTxQueue _)).trans
      (passFor_transmitHead returned)

end Pass

theorem TxStep.parent
    {world next : World} (step : TxStep world next) {stream : StreamPtr}
    (notTop : (world.streams stream).topLevel = false) :
    (next.streams stream).parent = (world.streams stream).parent := by
  cases step with
  | tick | attach =>
      rfl
  | join joined other =>
      exact modifyStream_field _ BaseStream.parent other _ rfl stream
  | take taken other =>
      exact modifyStream_field _ BaseStream.parent other _ rfl stream
  | collect other =>
      rw [collectAcked, setTxQueue]
      exact modifyStream_field world BaseStream.parent other _ rfl stream
  | charge other amount =>
      exact modifyStream_field world BaseStream.parent other _ rfl stream
  | adopt other used =>
      unfold adoptRoot
      split
      · next isTop =>
          have different : stream ≠ other := by
            rintro rfl
            exact absurd (notTop.symm.trans isTop) Bool.false_ne_true
          rw [modifyStream_streams_of_ne world different]
      · rfl
  | send sender used head rest pktseq =>
      rw [insertWaitingAck, tick_streams, modifyChannel_streams,
        record_streams, setTxQueue]
      exact modifyStream_field world BaseStream.parent sender _ rfl stream

/-- The fields of a stream that no transmission changes. -/
structure SameSettings (entry next : BaseStream) : Prop where
  init : next.init = entry.init
  topLevel : next.topLevel = entry.topLevel
  usid : next.usid = entry.usid
  txAttachments : next.txAttachments = entry.txAttachments
  rxAttachments : next.rxAttachments = entry.rxAttachments
  txCurrentAttachment :
    next.txCurrentAttachment = entry.txCurrentAttachment
  txWindow : next.txWindow = entry.txWindow

/-- The fields of a channel that no transmission changes. -/
structure SameChannel (entry next : StreamChannel) : Prop where
  root : next.root = entry.root
  active : next.active = entry.active
  txChannelId : next.txChannelId = entry.txChannelId

section Later

variable {start world : World} {channel : ChannelPtr} {stream : StreamPtr}

private theorem TxSteps.sameSettings
    (steps : TxSteps start world) (stream : StreamPtr) :
    SameSettings (start.streams stream) (world.streams stream) := by
  constructor <;>
    exact
      steps.stream_field (fun _ _ => rfl) (fun _ _ => rfl) (fun _ _ => rfl)
        (fun _ _ => rfl) stream

theorem TxSteps.sameChannel
    (steps : TxSteps start world) (channel : ChannelPtr) :
    SameChannel (start.channels channel) (world.channels channel) := by
  constructor <;>
    exact
      steps.channel_field (fun _ _ => rfl) (fun _ _ => rfl) channel

theorem TxSteps.parent
    (steps : TxSteps start world)
    (notTop : (start.streams stream).topLevel = false) :
    (world.streams stream).parent = (start.streams stream).parent := by
  induction steps with
  | refl =>
      rfl
  | tail before step inductionHypothesis =>
      have sameTop := (TxSteps.sameSettings before stream).topLevel
      exact (step.parent (sameTop.trans notTop)).trans inductionHypothesis

private theorem adoptRoot_parent (world : World) :
    ((world.adoptRoot stream channel).streams stream).parent =
      if (world.streams stream).topLevel then (world.channels channel).root
      else (world.streams stream).parent := by
  unfold adoptRoot
  split
  · rw [modifyStream_streams_self]
  · rfl

theorem TxSteps.adopt (steps : TxSteps start world) :
    TxSteps start (world.adoptRoot stream channel) :=
  steps.tail (TxStep.adopt world stream channel)

private theorem TxSteps.adopted_parent (steps : TxSteps start world) :
    ((world.adoptRoot stream channel).streams stream).parent =
      ((start.adoptRoot stream channel).streams stream).parent := by
  rw [adoptRoot_parent, adoptRoot_parent,
    (steps.sameSettings stream).topLevel, (steps.sameChannel channel).root]
  cases top : (start.streams stream).topLevel with
  | true =>
      rfl
  | false =>
      exact steps.parent top

/-- No transmission changes which parent an init packet can refer to. -/
theorem TxSteps.initParent
    (steps : TxSteps start world) (attachment : TxAttachment) :
    (world.adoptRoot stream channel).initParent stream channel attachment =
      (start.adoptRoot stream channel).initParent stream channel
        attachment := by
  have none : TxSteps start start := Relation.ReflTransGen.refl
  have after (other : StreamPtr) :
      SameSettings (start.streams other)
        ((world.adoptRoot stream channel).streams other) :=
    TxSteps.sameSettings steps.adopt other
  have before (other : StreamPtr) :
      SameSettings (start.streams other)
        ((start.adoptRoot stream channel).streams other) :=
    TxSteps.sameSettings none.adopt other
  simp only [World.initParent, steps.adopted_parent, (after _).init,
    (before _).init, (after _).usid, (before _).usid,
    (after _).txCurrentAttachment, (before _).txCurrentAttachment,
    (after _).txAttachments, (before _).txAttachments,
    (adoptRoot_keeps _ stream channel).1,
    (steps.sameChannel channel).txChannelId]

private theorem adoptRoot_txInflight (world : World) :
    ((world.adoptRoot stream channel).streams stream).txInflight =
      (world.streams stream).txInflight := by
  obtain ⟨parent, isAdopted⟩ := adoptRoot_eq world stream channel
  rw [isAdopted, modifyStream_streams_self]

theorem TxSteps.canReply
    (steps : TxSteps start world)
    (inflight :
      (start.streams stream).txInflight ≤
        (world.streams stream).txInflight)
    {segSize : Nat}
    (replies :
      (world.adoptRoot stream channel).canReply stream channel segSize =
        true) :
    (start.adoptRoot stream channel).canReply stream channel segSize =
      true := by
  have none : TxSteps start start := Relation.ReflTransGen.refl
  have after :
      SameSettings (start.streams stream)
        ((world.adoptRoot stream channel).streams stream) :=
    TxSteps.sameSettings steps.adopt stream
  have before :
      SameSettings (start.streams stream)
        ((start.adoptRoot stream channel).streams stream) :=
    TxSteps.sameSettings none.adopt stream
  simp only [World.canReply, decide_eq_true_eq, after.txWindow,
    before.txWindow, after.rxAttachments, before.rxAttachments,
    adoptRoot_txInflight] at replies ⊢
  exact ⟨by omega, replies.2⟩

/-- A frame that met the assertions meets them after transmissions, which
charge streams more and credit none. -/
theorem World.HeadAssertionsHold.later
    {slot : Slot} {head : TxFrame} (steps : TxSteps start world)
    (inflight :
      (start.streams stream).txInflight ≤
        (world.streams stream).txInflight)
    (holds : start.HeadAssertionsHold stream channel slot head) :
    world.HeadAssertionsHold stream channel slot head := by
  have same := steps.sameSettings stream
  unfold World.HeadAssertionsHold at holds ⊢
  dsimp only at holds ⊢
  rw [same.txAttachments, same.init]
  split at holds
  · next acknowledged =>
      rw [if_pos acknowledged]
      exact holds
  · next unacknowledged =>
      rw [if_neg unacknowledged]
      intro attaches
      apply holds
      unfold attachesData at attaches ⊢
      dsimp only at attaches ⊢
      rw [steps.initParent, Bool.or_eq_true] at attaches
      rw [Bool.or_eq_true]
      exact attaches.imp_right (steps.canReply inflight)

end Later

/-! ## The whole loop -/

/-- An active channel with the streams in line, all of whose frames meet the
assertions of `transmit_on`. -/
structure World.Schedulable
    (world : World) (channel : ChannelPtr) : Prop where
  active : (world.channels channel).active = true
  line : world.LineStands channel
  meets :
    ∀ stream ∈ (world.channels channel).sendingStreams,
      ∀ slot, (world.streams stream).txCurrentAttachment = some slot →
        ∀ frame ∈ (world.streams stream).txQueue,
          world.HeadAssertionsHold stream channel slot frame

section Loop

variable {world next : World} {channel : ChannelPtr}

/-- Transmissions after which nobody else stands in line. -/
theorem World.Schedulable.later
    (schedulable : world.Schedulable channel) (steps : TxSteps world next)
    (noneElse :
      ∀ other ∈ (next.channels channel).sendingStreams,
        other ∈ (world.channels channel).sendingStreams)
    (inflight :
      ∀ other,
        (world.streams other).txInflight ≤
          (next.streams other).txInflight) :
    next.Schedulable channel where
  active := (steps.sameChannel channel).active.trans schedulable.active
  line := schedulable.line.txSteps steps
  meets := by
    intro stream inLine slot current frame queued
    have sameCurrent := (steps.sameSettings stream).txCurrentAttachment
    obtain ⟨events, _, queues⟩ := TxSteps.sentOnce steps
    have stillQueued : frame ∈ (world.streams stream).txQueue :=
      (queues stream).subset (List.mem_append_right _ queued)
    rw [sameCurrent] at current
    exact
      (schedulable.meets stream (noneElse stream inLine) slot current frame
        stillQueued).later steps (inflight stream)

/-- The assertions hold for the stream at the front of the line. -/
theorem World.Schedulable.front
    (schedulable : world.Schedulable channel) {stream : StreamPtr}
    {rest : List StreamPtr}
    (sending : (world.channels channel).sendingStreams = stream :: rest) :
    Transmission.AssertionsHold
      ⟨world.modifyChannel channel fun entry =>
          { entry with sendingStreams := rest },
        stream, channel⟩ := by
  have inLine : stream ∈ (world.channels channel).sendingStreams := by
    rw [sending]
    exact List.mem_cons_self
  have stood := schedulable.line.stands stream inLine
  unfold Transmission.AssertionsHold
  dsimp only
  refine ⟨stood.enqueued, ?_, stood.current, stood.waiting, ?_⟩
  · intro noCurrent
    rw [modifyChannel_streams] at noCurrent
    have current := stood.current
    rw [World.currentChannel, noCurrent] at current
    cases current
  · have taken :=
      TxStep.take world channel stream rest sending stood.enqueued
        stood.current
    generalize leftEq :
      (world.modifyChannel channel fun entry =>
          { entry with sendingStreams := rest }).setTxEnqueuedChannel
        stream false = left at taken
    have notEnqueued : (left.streams stream).txEnqueuedChannel = false := by
      rw [← leftEq, setTxEnqueuedChannel, modifyStream_streams_self]
    have steps : TxSteps world (left.collectAcked stream) :=
      (Relation.ReflTransGen.single taken).tail
        (TxStep.collect left stream notEnqueued)
    have inflight :
        ((left.collectAcked stream).streams stream).txInflight =
          (world.streams stream).txInflight := by
      rw [← leftEq, collectAcked, setTxQueue, modifyStream_streams_self,
        setTxEnqueuedChannel, modifyStream_streams_self]
      rfl
    have sameCurrent := (steps.sameSettings stream).txCurrentAttachment
    obtain ⟨events, _, queues⟩ := TxSteps.sentOnce steps
    intro slot head more current queue
    rw [sameCurrent] at current
    have queued : head ∈ (world.streams stream).txQueue := by
      apply (queues stream).subset
      rw [queue]
      exact List.mem_append_right _ List.mem_cons_self
    exact
      (schedulable.meets stream inLine slot current head queued).later steps
        inflight.ge

/-- A pass leaves the channel schedulable. -/
theorem World.Schedulable.pass
    {env : Env} (schedulable : world.Schedulable channel)
    {stream : StreamPtr} {rest : List StreamPtr}
    (sending : (world.channels channel).sendingStreams = stream :: rest)
    (returned :
      transmitOn env
        (world.modifyChannel channel fun entry =>
          { entry with sendingStreams := rest })
        stream channel = some next) :
    next.tick.Schedulable channel := by
  obtain ⟨enqueued, current, steps⟩ := transmitOn_eq_some returned
  have passed := passFor_transmitOn returned
  have taken := TxStep.take world channel stream rest sending enqueued current
  refine
    schedulable.later
      (((Relation.ReflTransGen.single taken).trans steps).tail
        (TxStep.tick next))
      ?_ passed.inflight
  intro other inLine
  rw [sending]
  rcases passed.line other inLine with rfl | inRest
  · exact List.mem_cons_self
  · rw [modifyChannel_channels_self] at inRest
    exact List.mem_cons_of_mem stream inRest

theorem World.Schedulable.transmissions
    {env : Env} (schedulable : world.Schedulable channel) (fuel : Nat) :
    ∀ transmission ∈
      readyTransmitLoopTransmissions env channel fuel world,
      transmission.AssertionsHold := by
  induction fuel generalizing world with
  | zero =>
      intro transmission made
      cases made
  | succ fuel inductionHypothesis =>
      rw [readyTransmitLoopTransmissions]
      split
      · exact List.forall_mem_nil _
      · next stream rest sending =>
          refine List.forall_mem_cons.mpr ⟨schedulable.front sending, ?_⟩
          split
          · exact List.forall_mem_nil _
          · next middle transmitted =>
              split
              · exact List.forall_mem_nil _
              · split
                · exact
                    inductionHypothesis
                      (schedulable.pass sending transmitted)
                · exact List.forall_mem_nil _

end Loop

/-- From a schedulable channel the loop comes to its end, whatever
`may_transmit` answers, and no application writes meanwhile. -/
theorem got_ready_transmit_ends
    (env : Env) (world : World) (channel : ChannelPtr)
    (schedulable : world.Schedulable channel) :
    ∃ next,
      gotReadyTransmit env world channel = some next ∧
        (world.gotReadyTransmitTransmissions env channel).length ≤
          ((world.channels channel).sendingStreams.map fun stream =>
            (world.streams stream).txQueue.length).sum +
          (world.channels channel).sendingStreams.length ∧
        SentOnce world next := by
  have completes : (gotReadyTransmit env world channel).isSome :=
    (gotReadyTransmit_isSome_iff schedulable.active).mpr
      (schedulable.transmissions _)
  obtain ⟨next, returned⟩ := Option.isSome_iff_exists.mp completes
  refine ⟨next, returned, ?_, (gotReadyTransmit_steps returned).sentOnce⟩
  rw [← readyTransmitFuel_eq]
  exact readyTransmitLoopTransmissions_length_le env channel _ world

/-- Two streams with two segments each, on a channel that may always
transmit. -/
theorem got_ready_transmit_ends_of_two_in_line :
    ∃ next,
      gotReadyTransmit (Env.constant true) (segmentsInLine false [1, 2]) 0 =
          some next ∧
        ((segmentsInLine false [1, 2]).gotReadyTransmitTransmissions
          (Env.constant true) 0).length ≤ 2 + 2 + 2 ∧
        SentOnce (segmentsInLine false [1, 2]) next := by
  refine got_ready_transmit_ends (Env.constant true) _ 0 ⟨rfl, ?_, ?_⟩
  · refine ⟨by decide, ?_⟩
    intro stream _
    exact ⟨rfl, rfl, List.cons_ne_nil _ _⟩
  · intro stream _ slot current frame _
    cases current
    exact ⟨rfl, rfl⟩

end StructuredStreams.Stream
