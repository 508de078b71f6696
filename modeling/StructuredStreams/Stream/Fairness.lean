import StructuredStreams.Stream.TransmitLoop

/-!
# Streams of equal priority

A stream that has more to send gets back in line through
`tx_enqueue_channel`, and `enqueue_stream` puts it in front of the first
stream of at least its priority: in front of its equals, not behind them.
The stream at the front of the line is served again and again, until it has
nothing left to send.
-/

namespace StructuredStreams.Stream

open World

namespace World

/-- One pass of the loop of `got_ready_transmit`. -/
def transmitPass
    (env : Env) (channel : ChannelPtr) (world : World) : Option World :=
  match (world.channels channel).sendingStreams with
  | [] => none
  | stream :: rest =>
      transmitOn env
        (world.modifyChannel channel fun entry =>
          { entry with sendingStreams := rest })
        stream channel

/-- Consecutive passes of the loop, which asks after each of them whether
the channel may transmit. -/
def transmitPasses
    (env : Env) (channel : ChannelPtr) : Nat → World → Option World
  | 0, world => some world
  | passes + 1, world => do
      let world ← transmitPass env channel world
      transmitPasses env channel passes world.tick

end World

/-- The loop is made of such passes. -/
theorem readyTransmitLoop_succ
    (env : Env) (channel : ChannelPtr) (fuel : Nat) (world : World) :
    readyTransmitLoop env channel (fuel + 1) world =
      transmitPass env channel world >>= fun next =>
        if (next.channels channel).sendingStreams.isEmpty then some next
        else if env.mayTransmit next.clock channel then
          readyTransmitLoop env channel fuel next.tick
        else some next.tick := by
  rw [readyTransmitLoop, transmitPass]
  cases (world.channels channel).sendingStreams with
  | nil =>
      rfl
  | cons stream rest =>
      rfl

/-- A stream that waits in line for the channel, with an acknowledged
attachment. -/
structure CanTransmit
    (world : World) (channel : ChannelPtr) (stream : StreamPtr) : Prop where
  enqueued : (world.streams stream).txEnqueuedChannel = true
  attached :
    ∃ slot,
      (world.streams stream).txCurrentAttachment = some slot ∧
        ((world.streams stream).txAttachments slot).channel =
          some channel ∧
        ((world.streams stream).txAttachments slot).isAcknowledged = true ∧
        ((world.streams stream).txAttachments slot).active = true
  queue : (world.streams stream).txQueue ≠ []

/-- The line of the channel consists of streams of one priority. -/
structure EqualsInLine
    (world : World) (channel : ChannelPtr) (line : List StreamPtr)
    (priority : Priority) : Prop where
  sendingStreams : (world.channels channel).sendingStreams = line
  active : (world.channels channel).active = true
  nodup : line.Nodup
  priority : ∀ stream ∈ line, (world.streams stream).priority = priority
  canTransmit : ∀ stream ∈ line, CanTransmit world channel stream

/-- The frames of a stream that are left after the garbage collection. -/
def liveFrames (world : World) (stream : StreamPtr) : List TxFrame :=
  (world.streams stream).txQueue.dropWhile
    (alreadyAcked (world.streams stream))

private theorem insertUpperBound_front
    {α : Type} {follows : α → Bool} {items : List α}
    (all : ∀ item ∈ items, follows item = true) (item : α) :
    insertUpperBound follows item items = item :: items := by
  have front :
      insertUpperBound follows item ([] ++ items) = [] ++ item :: items :=
    insertUpperBound_of_partitioned (by simp) all item
  simpa using front

/-! ## What one pass does -/

section Pass

variable {env : Env} {world : World} {channel : ChannelPtr}
variable {stream : StreamPtr} {rest : List StreamPtr} {priority : Priority}

/-- What is left of the world by a pass that served the stream, which has
the given frames left. -/
structure Served
    (world next : World) (channel : ChannelPtr) (stream : StreamPtr)
    (rest : List StreamPtr) (left : List TxFrame) : Prop where
  others :
    ∀ other, other ≠ stream → next.streams other = world.streams other
  queue : (next.streams stream).txQueue = left
  enqueued : (next.streams stream).txEnqueuedChannel = !left.isEmpty
  priority :
    (next.streams stream).priority = (world.streams stream).priority
  txCurrentAttachment :
    (next.streams stream).txCurrentAttachment =
      (world.streams stream).txCurrentAttachment
  txAttachments :
    (next.streams stream).txAttachments =
      (world.streams stream).txAttachments
  sendingStreams :
    (next.channels channel).sendingStreams =
      if left.isEmpty then rest else stream :: rest
  active :
    (next.channels channel).active = (world.channels channel).active

/-- `tx_data` puts a stream with more to send in front of its equals. -/
theorem txData_equals
    {frame : TxFrame}
    (current : world.currentChannel stream = some channel)
    (isActive : (world.channels channel).active = true)
    (notEnqueued : (world.streams stream).txEnqueuedChannel = false)
    (line : (world.channels channel).sendingStreams = rest)
    (equal :
      ∀ other ∈ rest,
        (world.streams other).priority = (world.streams stream).priority) :
    ∃ next,
      txData env world stream frame = some next ∧
        next.log = .transmitted stream channel frame :: world.log ∧
        Served world next channel stream rest
          (world.streams stream).txQueue := by
  let sent :=
    (world.record (.transmitted stream channel frame)).insertWaitingAck
      channel (env.packetSeq world.clock) { frame with late := false }
  have sentStreams : sent.streams = world.streams := rfl
  have sentLine : (sent.channels channel).sendingStreams = rest := by
    rw [← line]
    exact insertWaitingAck_sendingStreams _ _ _ _ channel
  have sentActive : (sent.channels channel).active = true := by
    simp only [sent, insertWaitingAck, tick_channels,
      modifyChannel_channels_self]
    exact isActive
  have data :
      txData env world stream frame =
        if (world.streams stream).txQueue.isEmpty then some sent
        else sent.txEnqueueChannel stream := by
    rw [txData, current, Option.bind_eq_bind, Option.bind_some, isActive]
    rfl
  rw [data]
  cases queue : (world.streams stream).txQueue with
  | nil =>
      refine ⟨sent, rfl, rfl, ?_⟩
      refine ⟨fun _ _ => rfl, queue, notEnqueued, rfl, rfl, rfl,
        sentLine, ?_⟩
      rw [sentActive, isActive]
  | cons head tail =>
      have sentCurrent : sent.currentChannel stream = some channel :=
        current
      obtain ⟨slot, slotEq, _⟩ := Option.bind_eq_some_iff.mp current
      have joined :
          sent.txEnqueueChannel stream =
            some
              ((sent.enqueueStream channel stream).setTxEnqueuedChannel
                stream true) := by
        rw [txEnqueueChannel, sentStreams, slotEq]
        dsimp only
        rw [sentCurrent, Option.bind_eq_bind, Option.bind_some, sentActive,
          joinSendingStreams, sentStreams, notEnqueued, queue]
        rfl
      rw [joined]
      refine ⟨_, rfl, rfl, ?_⟩
      have joinedStream :
          (((sent.enqueueStream channel stream).setTxEnqueuedChannel stream
              true).streams stream) =
            { world.streams stream with txEnqueuedChannel := true } :=
        modifyStream_streams_self _ stream _
      refine ⟨?_, ?_, ?_, ?_, ?_, ?_, ?_, ?_⟩
      · intro other different
        rw [setTxEnqueuedChannel,
          modifyStream_streams_of_ne _ different]
        rfl
      · rw [joinedStream]
        exact queue
      · rw [joinedStream]
        rfl
      · rw [joinedStream]
      · rw [joinedStream]
      · rw [joinedStream]
      · rw [setTxEnqueuedChannel, modifyStream_channels, enqueueStream,
          modifyChannel_channels_self, sentLine]
        apply insertUpperBound_front
        intro other member
        rw [sentStreams, equal other member]
        exact decide_eq_true (UInt32.le_refl _)
      · rw [setTxEnqueuedChannel, modifyStream_channels, enqueueStream,
          modifyChannel_channels_self, isActive]
        exact sentActive

/-- The assertions of `transmit_on` hold. -/
theorem CanTransmit.transmitOn_eq
    (can : CanTransmit world channel stream) {slot : Slot}
    (slotEq : (world.streams stream).txCurrentAttachment = some slot)
    (onChannel :
      ((world.streams stream).txAttachments slot).channel =
        some channel) :
    transmitOn env world stream channel =
      transmitHead env
        ((world.setTxEnqueuedChannel stream false).collectAcked stream)
        stream channel slot := by
  have current : world.currentChannel stream = some channel := by
    rw [currentChannel, slotEq]
    exact onChannel
  have queued : (world.streams stream).txQueue ≠ [] := can.queue
  simp [transmitOn, guard, can.enqueued, slotEq, current, queued]

/-- The world that a pass sends from: the stream is out of line, and the
frames of its queue that were acknowledged are dropped. -/
def collectedFront
    (world : World) (channel : ChannelPtr) (stream : StreamPtr)
    (rest : List StreamPtr) : World :=
  ((world.modifyChannel channel fun entry =>
      { entry with sendingStreams := rest }).setTxEnqueuedChannel stream
    false).collectAcked stream

private theorem collectedFront_stream :
    (collectedFront world channel stream rest).streams stream =
      { world.streams stream with
        txEnqueuedChannel := false
        txQueue := liveFrames world stream } := by
  have takenStream :
      ((world.modifyChannel channel fun entry =>
          { entry with sendingStreams := rest }).setTxEnqueuedChannel stream
        false).streams stream =
        { world.streams stream with txEnqueuedChannel := false } :=
    modifyStream_streams_self _ stream _
  rw [collectedFront, collectAcked, setTxQueue, modifyStream_streams_self,
    takenStream]
  rfl

private theorem collectedFront_others
    {other : StreamPtr} (different : other ≠ stream) :
    (collectedFront world channel stream rest).streams other =
      world.streams other := by
  rw [collectedFront, collectAcked, setTxQueue,
    modifyStream_streams_of_ne _ different, setTxEnqueuedChannel,
    modifyStream_streams_of_ne _ different]
  rfl

private theorem collectedFront_channel :
    (collectedFront world channel stream rest).channels channel =
      { world.channels channel with sendingStreams := rest } :=
  modifyChannel_channels_self world channel fun entry =>
    { entry with sendingStreams := rest }

private theorem transmitPass_eq_transmitHead
    (env : Env)
    (equals : EqualsInLine world channel (stream :: rest) priority)
    {slot : Slot}
    (slotEq : (world.streams stream).txCurrentAttachment = some slot)
    (onChannel :
      ((world.streams stream).txAttachments slot).channel =
        some channel) :
    transmitPass env channel world =
      transmitHead env (collectedFront world channel stream rest) stream
        channel slot := by
  have front := equals.canTransmit stream List.mem_cons_self
  have stillCan :
      CanTransmit
        (world.modifyChannel channel fun entry =>
          { entry with sendingStreams := rest })
        channel stream :=
    ⟨front.enqueued, front.attached, front.queue⟩
  rw [transmitPass, equals.sendingStreams]
  exact stillCan.transmitOn_eq slotEq onChannel

/-- The assertion on `init_` fails as soon as there is a frame to send. -/
theorem transmitPass_eq_none
    (env : Env)
    (equals : EqualsInLine world channel (stream :: rest) priority)
    (live : liveFrames world stream ≠ [])
    (init : (world.streams stream).init = true) :
    transmitPass env channel world = none := by
  obtain ⟨slot, slotEq, onChannel, acknowledged, _⟩ :=
    (equals.canTransmit stream List.mem_cons_self).attached
  rw [transmitPass_eq_transmitHead env equals slotEq onChannel,
    transmitHead, collectedFront_stream]
  cases frames : liveFrames world stream with
  | nil =>
      exact absurd frames live
  | cons head tail =>
      dsimp only
      rw [if_pos acknowledged, init]
      rfl

/-- Where no frame is left, the pass ends there. -/
theorem collectedFront_served
    (nothing : liveFrames world stream = []) :
    Served world (collectedFront world channel stream rest) channel stream
      rest [] := by
  refine ⟨fun _ => collectedFront_others, ?_, ?_, ?_, ?_, ?_, ?_, ?_⟩
  · rw [collectedFront_stream, nothing]
  · rw [collectedFront_stream]
    rfl
  · rw [collectedFront_stream]
  · rw [collectedFront_stream]
  · rw [collectedFront_stream]
  · rw [collectedFront_channel]
    rfl
  · rw [collectedFront_channel]

/-- The world in which a pass hands the next frame to `tx_data`. -/
def poppedFront
    (world : World) (channel : ChannelPtr) (stream : StreamPtr)
    (rest : List StreamPtr) (head : TxFrame) (tail : List TxFrame) :
    World :=
  ((collectedFront world channel stream rest).addTxInflight stream
    head.payloadSize).setTxQueue stream tail

section Popped

variable {head : TxFrame} {tail : List TxFrame}

private theorem poppedFront_stream :
    (poppedFront world channel stream rest head tail).streams stream =
      { world.streams stream with
        txEnqueuedChannel := false
        txQueue := tail
        txInflight :=
          (world.streams stream).txInflight + head.payloadSize } := by
  simp only [poppedFront, setTxQueue, addTxInflight,
    modifyStream_streams_self, collectedFront_stream]

private theorem poppedFront_others
    {other : StreamPtr} (different : other ≠ stream) :
    (poppedFront world channel stream rest head tail).streams other =
      world.streams other := by
  rw [poppedFront, setTxQueue, modifyStream_streams_of_ne _ different,
    addTxInflight, modifyStream_streams_of_ne _ different]
  exact collectedFront_others different

private theorem poppedFront_channel :
    (poppedFront world channel stream rest head tail).channels channel =
      { world.channels channel with sendingStreams := rest } := by
  have collected :
      (collectedFront world channel stream rest).channels channel =
        { world.channels channel with sendingStreams := rest } :=
    collectedFront_channel
  exact collected

private theorem poppedFront_equal
    (equals : EqualsInLine world channel (stream :: rest) priority) :
    ∀ other ∈ rest,
      ((poppedFront world channel stream rest head tail).streams
          other).priority =
        ((poppedFront world channel stream rest head tail).streams
          stream).priority := by
  intro other member
  have different : other ≠ stream := by
    rintro rfl
    exact (List.nodup_cons.mp equals.nodup).1 member
  rw [poppedFront_stream, poppedFront_others different]
  rw [equals.priority other (List.mem_cons_of_mem stream member)]
  exact (equals.priority stream List.mem_cons_self).symm

/-- What was served after the frame was taken was served from the start. -/
theorem Served.of_poppedFront
    {next : World}
    (served :
      Served (poppedFront world channel stream rest head tail) next channel
        stream rest tail) :
    Served world next channel stream rest tail := by
  refine ⟨?_, served.queue, served.enqueued, ?_, ?_, ?_,
    served.sendingStreams, ?_⟩
  · intro other different
    rw [served.others other different, poppedFront_others different]
  · rw [served.priority, poppedFront_stream]
  · rw [served.txCurrentAttachment, poppedFront_stream]
  · rw [served.txAttachments, poppedFront_stream]
  · rw [served.active, poppedFront_channel]

end Popped

/-- A pass takes the stream out of line and drops the frames that were
acknowledged; then it sends the next frame, if there is one left. -/
theorem transmitPass_equals
    (env : Env)
    (equals : EqualsInLine world channel (stream :: rest) priority)
    (notInit :
      liveFrames world stream ≠ [] →
        (world.streams stream).init = false) :
    ∃ next,
      transmitPass env channel world = some next ∧
        Served world next channel stream rest
          (liveFrames world stream).tail ∧
        next.log =
          (match liveFrames world stream with
            | [] => []
            | head :: _ => [.transmitted stream channel head]) ++
            world.log := by
  obtain ⟨slot, slotEq, onChannel, acknowledged, isActive⟩ :=
    (equals.canTransmit stream List.mem_cons_self).attached
  rw [transmitPass_eq_transmitHead env equals slotEq onChannel,
    transmitHead, collectedFront_stream]
  cases live : liveFrames world stream with
  | nil =>
      exact ⟨collectedFront world channel stream rest, rfl,
        collectedFront_served live, rfl⟩
  | cons head tail =>
      dsimp only
      let popped := poppedFront world channel stream rest head tail
      have current : popped.currentChannel stream = some channel := by
        rw [currentChannel, poppedFront_stream, slotEq]
        exact onChannel
      have poppedActive : (popped.channels channel).active = true := by
        rw [poppedFront_channel]
        exact equals.active
      have poppedLine :
          (popped.channels channel).sendingStreams = rest := by
        rw [poppedFront_channel]
      have poppedFlag :
          (popped.streams stream).txEnqueuedChannel = false := by
        rw [poppedFront_stream]
      obtain ⟨next, returned, logged, served⟩ :=
        txData_equals current poppedActive poppedFlag poppedLine
          (poppedFront_equal equals)
      refine ⟨next, ?_, ?_, logged⟩
      · have notSet := notInit (live ▸ List.cons_ne_nil head tail)
        rw [if_pos acknowledged, notSet, isActive]
        exact returned
      · rw [poppedFront_stream] at served
        exact served.of_poppedFront

end Pass

/-! ## Who is served -/

/-- The number of frames that the stream transmitted on the channel. -/
def transmissions
    (world : World) (channel : ChannelPtr) (stream : StreamPtr) : Nat :=
  world.log.countP fun event =>
    match event with
    | .transmitted sender used _ => sender = stream ∧ used = channel
    | _ => false

/-- As many passes as there are streams in line transmit one frame from each
of them. -/
def ServesAll
    (env : Env) (world : World) (channel : ChannelPtr)
    (line : List StreamPtr) : Prop :=
  ∃ next,
    transmitPasses env channel line.length world = some next ∧
      ∀ stream ∈ line,
        transmissions next channel stream =
          transmissions world channel stream + 1

section Passes

variable {env : Env} {world next : World} {channel : ChannelPtr}
variable {stream : StreamPtr} {rest line : List StreamPtr}
variable {priority : Priority}

theorem EqualsInLine.tick
    (equals : EqualsInLine world channel line priority) :
    EqualsInLine world.tick channel line priority := by
  refine ⟨equals.sendingStreams, equals.active, equals.nodup,
    equals.priority, ?_⟩
  intro stream member
  have can := equals.canTransmit stream member
  exact ⟨can.enqueued, can.attached, can.queue⟩

/-- The streams that are in line after a pass are still equals that can
transmit. -/
theorem Served.equalsInLine
    {left : List TxFrame}
    (equals : EqualsInLine world channel (stream :: rest) priority)
    (served : Served world next channel stream rest left) :
    EqualsInLine next channel
      (if left.isEmpty then rest else stream :: rest) priority := by
  have restNodup := (List.nodup_cons.mp equals.nodup).2
  have others :
      ∀ other ∈ rest, next.streams other = world.streams other := by
    intro other member
    apply served.others
    rintro rfl
    exact (List.nodup_cons.mp equals.nodup).1 member
  have restCan :
      ∀ other ∈ rest,
        (next.streams other).priority = priority ∧
          CanTransmit next channel other := by
    intro other member
    have inLine := List.mem_cons_of_mem stream member
    have can := equals.canTransmit other inLine
    have same := others other member
    refine ⟨?_, ?_⟩
    · rw [same]
      exact equals.priority other inLine
    · refine ⟨?_, ?_, ?_⟩
      · rw [same]
        exact can.enqueued
      · rw [same]
        exact can.attached
      · rw [same]
        exact can.queue
  have isActive : (next.channels channel).active = true := by
    rw [served.active]
    exact equals.active
  cases left with
  | nil =>
      refine ⟨served.sendingStreams, isActive, restNodup, ?_, ?_⟩
      · intro other member
        exact (restCan other member).1
      · intro other member
        exact (restCan other member).2
  | cons head tail =>
      have can := equals.canTransmit stream List.mem_cons_self
      refine ⟨served.sendingStreams, isActive, equals.nodup, ?_, ?_⟩
      · intro other member
        rcases List.mem_cons.mp member with rfl | later
        · rw [served.priority]
          exact equals.priority other List.mem_cons_self
        · exact (restCan other later).1
      · intro other member
        rcases List.mem_cons.mp member with rfl | later
        · refine ⟨served.enqueued, ?_, ?_⟩
          · rw [served.txCurrentAttachment, served.txAttachments]
            exact can.attached
          · rw [served.queue]
            exact List.cons_ne_nil head tail
        · exact (restCan other later).2

/-- One pass: the stream at the front transmits its next frame, if there is
one left, and no other stream transmits. -/
theorem transmitPass_spec
    (equals : EqualsInLine world channel (stream :: rest) priority)
    (passed : transmitPass env channel world = some next) :
    EqualsInLine next.tick channel
        (if (liveFrames world stream).tail.isEmpty then rest
          else stream :: rest)
        priority ∧
      (∀ other, other ≠ stream →
        next.tick.streams other = world.streams other) ∧
      (∀ other, other ≠ stream →
        transmissions next.tick channel other =
          transmissions world channel other) ∧
      transmissions next.tick channel stream =
        transmissions world channel stream +
          (if (liveFrames world stream).isEmpty then 0 else 1) := by
  have notInit :
      liveFrames world stream ≠ [] →
        (world.streams stream).init = false := by
    intro live
    cases init : (world.streams stream).init with
    | false =>
        rfl
    | true =>
        rw [transmitPass_eq_none env equals live init] at passed
        cases passed
  obtain ⟨other, returned, served, logged⟩ :=
    transmitPass_equals env equals notInit
  rw [passed] at returned
  cases returned
  refine ⟨(served.equalsInLine equals).tick, served.others, ?_, ?_⟩
  · intro other different
    rw [transmissions, tick_log, logged]
    cases liveFrames world stream with
    | nil =>
        rfl
    | cons head tail =>
        have notOther : ¬ stream = other := Ne.symm different
        simp [transmissions, notOther]
  · rw [transmissions, tick_log, logged]
    cases liveFrames world stream with
    | nil =>
        rfl
    | cons head tail =>
        simp [transmissions]

/-- Only streams in line transmit. -/
theorem transmitPasses_absent
    {passes : Nat}
    (equals : EqualsInLine world channel line priority)
    (returned : transmitPasses env channel passes world = some next)
    (absent : stream ∉ line) :
    transmissions next channel stream =
      transmissions world channel stream := by
  induction passes generalizing world line with
  | zero =>
      cases returned
      rfl
  | succ passes inductionHypothesis =>
      rw [transmitPasses, bind_eq_some_iff] at returned
      obtain ⟨middle, passed, returned⟩ := returned
      cases line with
      | nil =>
          rw [transmitPass, equals.sendingStreams] at passed
          cases passed
      | cons front rest =>
          obtain ⟨servedEquals, _, sameOthers, _⟩ :=
            transmitPass_spec equals passed
          have different : stream ≠ front := by
            rintro rfl
            exact absent List.mem_cons_self
          rw [inductionHypothesis servedEquals returned,
            sameOthers stream different]
          split
          · exact fun member => absent (List.mem_cons_of_mem front member)
          · exact absent

/-- Every pass serves one stream, so that serving several takes as many
passes. -/
theorem length_le_of_transmitPasses
    {passes : Nat} {targets : List StreamPtr}
    (equals : EqualsInLine world channel line priority)
    (returned : transmitPasses env channel passes world = some next)
    (distinct : targets.Nodup)
    (served :
      ∀ target ∈ targets,
        transmissions world channel target <
          transmissions next channel target) :
    targets.length ≤ passes := by
  induction passes generalizing world line targets with
  | zero =>
      cases returned
      cases targets with
      | nil =>
          exact Nat.le_refl 0
      | cons target targets =>
          exact absurd (served target List.mem_cons_self) (Nat.lt_irrefl _)
  | succ passes inductionHypothesis =>
      rw [transmitPasses, bind_eq_some_iff] at returned
      obtain ⟨middle, passed, returned⟩ := returned
      cases line with
      | nil =>
          rw [transmitPass, equals.sendingStreams] at passed
          cases passed
      | cons front rest =>
          obtain ⟨servedEquals, _, sameOthers, _⟩ :=
            transmitPass_spec equals passed
          have others :
              ∀ target ∈ targets.erase front,
                transmissions middle.tick channel target <
                  transmissions next channel target := by
            intro target member
            have different : target ≠ front :=
              (distinct.mem_erase_iff.mp member).1
            rw [sameOthers target different]
            exact served target (List.mem_of_mem_erase member)
          have shorter :=
            inductionHypothesis servedEquals returned
              (distinct.erase front) others
          have erased :
              targets.length ≤ (targets.erase front).length + 1 := by
            rw [List.length_erase]
            split <;> omega
          omega

/-- Every stream in line but the last one has a single frame to send, and the
last one has a frame to send. -/
def SingleFrames (world : World) (line : List StreamPtr) : Prop :=
  (∀ stream ∈ line.dropLast, (liveFrames world stream).length = 1) ∧
    ∀ last ∈ line.getLast?, liveFrames world last ≠ []

private theorem singleFrames_cons_cons
    (world : World) (first second : StreamPtr) (rest : List StreamPtr) :
    SingleFrames world (first :: second :: rest) ↔
      (liveFrames world first).length = 1 ∧
        SingleFrames world (second :: rest) := by
  rw [SingleFrames, SingleFrames, List.dropLast_cons_cons,
    List.getLast?_cons_cons, List.forall_mem_cons, and_assoc]

theorem SingleFrames.congr
    (same :
      ∀ stream ∈ line, next.streams stream = world.streams stream)
    (single : SingleFrames world line) :
    SingleFrames next line := by
  have live :
      ∀ stream ∈ line, liveFrames next stream = liveFrames world stream := by
    intro stream member
    rw [liveFrames, liveFrames, same stream member]
  refine ⟨?_, ?_⟩
  · intro stream member
    rw [live stream (line.dropLast_subset member)]
    exact single.1 stream member
  · intro stream member
    rw [live stream (List.mem_of_getLast? member)]
    exact single.2 stream member

/-- Who has to be served is known from the streams in line. -/
theorem singleFrames_cons_iff
    {front : StreamPtr}
    (single : (liveFrames world front).length = 1)
    (same :
      ∀ stream ∈ rest, next.streams stream = world.streams stream) :
    SingleFrames world (front :: rest) ↔ SingleFrames next rest := by
  cases rest with
  | nil =>
      refine iff_of_true ?_ ?_
      · refine ⟨?_, ?_⟩
        · intro stream member
          cases member
        · intro last isLast
          obtain rfl : front = last := by
            simpa using isLast
          intro nothing
          rw [nothing] at single
          cases single
      · refine ⟨?_, ?_⟩ <;> intro stream member <;> cases member
  | cons second rest =>
      rw [singleFrames_cons_cons]
      constructor
      · intro both
        exact both.2.congr same
      · intro rest
        refine ⟨single, rest.congr ?_⟩
        intro stream member
        exact (same stream member).symm

/-- A stream without a frame to send leaves the line unserved. -/
theorem not_servesAll_of_nothing
    {front : StreamPtr}
    (equals : EqualsInLine world channel (front :: rest) priority)
    (nothing : liveFrames world front = []) :
    ¬ ServesAll env world channel (front :: rest) := by
  rintro ⟨final, returned, served⟩
  rw [List.length_cons, transmitPasses, bind_eq_some_iff] at returned
  obtain ⟨middle, passed, returned⟩ := returned
  obtain ⟨middleEquals, _, _, unserved⟩ := transmitPass_spec equals passed
  rw [nothing] at middleEquals unserved
  have absent := (List.nodup_cons.mp equals.nodup).1
  have servedFront := served front List.mem_cons_self
  rw [transmitPasses_absent middleEquals returned absent, unserved]
    at servedFront
  simp at servedFront

/-- The assertion on `init_` ends the passes. -/
theorem not_servesAll_of_init
    {front : StreamPtr}
    (equals : EqualsInLine world channel (front :: rest) priority)
    (live : liveFrames world front ≠ [])
    (init : (world.streams front).init = true) :
    ¬ ServesAll env world channel (front :: rest) := by
  rintro ⟨final, returned, _⟩
  rw [List.length_cons, transmitPasses,
    transmitPass_eq_none env equals live init] at returned
  cases returned

/-- When the stream at the front has one frame to send, the others are
served as they would be without it. -/
theorem servesAll_cons_of_single
    (env : Env) {front : StreamPtr} {head : TxFrame}
    (equals : EqualsInLine world channel (front :: rest) priority)
    (live : liveFrames world front = [head])
    (init : (world.streams front).init = false) :
    ∃ middle,
      EqualsInLine middle channel rest priority ∧
        (∀ other ∈ rest, middle.streams other = world.streams other) ∧
        (ServesAll env world channel (front :: rest) ↔
          ServesAll env middle channel rest) := by
  obtain ⟨middle, passed, _⟩ :=
    transmitPass_equals env equals fun _ => init
  obtain ⟨middleEquals, sameStreams, sameOthers, servedFront⟩ :=
    transmitPass_spec equals passed
  rw [live] at middleEquals servedFront
  have restEquals : EqualsInLine middle.tick channel rest priority :=
    middleEquals
  have absent := (List.nodup_cons.mp equals.nodup).1
  have different : ∀ other ∈ rest, other ≠ front := by
    rintro other member rfl
    exact absent member
  have passes :
      transmitPasses env channel (front :: rest).length world =
        transmitPasses env channel rest.length middle.tick := by
    rw [List.length_cons, transmitPasses, passed]
    rfl
  refine ⟨middle.tick, restEquals, ?_, ?_⟩
  · intro other member
    exact sameStreams other (different other member)
  rw [ServesAll, ServesAll, passes]
  constructor
  · rintro ⟨final, returned, served⟩
    refine ⟨final, returned, ?_⟩
    intro other member
    rw [sameOthers other (different other member)]
    exact served other (List.mem_cons_of_mem front member)
  · rintro ⟨final, returned, served⟩
    refine ⟨final, returned, ?_⟩
    intro other member
    rcases List.mem_cons.mp member with rfl | later
    · rw [transmitPasses_absent restEquals returned absent]
      exact servedFront
    · rw [served other later, sameOthers other (different other later)]

/-- Two passes in a row go to a stream that has more than one frame, and if
there are others they are too many for the passes that are left. -/
theorem servesAll_cons_of_more
    (env : Env) {front : StreamPtr} {head more : TxFrame}
    {tail : List TxFrame}
    (equals : EqualsInLine world channel (front :: rest) priority)
    (live : liveFrames world front = head :: more :: tail)
    (init : (world.streams front).init = false) :
    ServesAll env world channel (front :: rest) ↔ rest = [] := by
  obtain ⟨middle, passed, _⟩ :=
    transmitPass_equals env equals fun _ => init
  obtain ⟨middleEquals, _, sameOthers, servedFront⟩ :=
    transmitPass_spec equals passed
  rw [live] at middleEquals servedFront
  have againEquals :
      EqualsInLine middle.tick channel (front :: rest) priority :=
    middleEquals
  obtain ⟨absent, distinct⟩ := List.nodup_cons.mp equals.nodup
  constructor
  · rintro ⟨final, returned, served⟩
    rw [List.length_cons, transmitPasses, passed, Option.bind_eq_bind,
      Option.bind_some] at returned
    cases rest with
    | nil =>
        rfl
    | cons second others =>
        rw [List.length_cons, transmitPasses, bind_eq_some_iff]
          at returned
        obtain ⟨again, againPassed, returned⟩ := returned
        obtain ⟨leftEquals, _, againOthers, _⟩ :=
          transmitPass_spec againEquals againPassed
        have tooMany :=
          length_le_of_transmitPasses leftEquals returned distinct
            (fun target member => by
              have different : target ≠ front := by
                rintro rfl
                exact absent member
              rw [againOthers target different,
                sameOthers target different,
                served target (List.mem_cons_of_mem front member)]
              exact Nat.lt_succ_self _)
        rw [List.length_cons] at tooMany
        omega
  · rintro rfl
    refine ⟨middle.tick, ?_, ?_⟩
    · rw [List.length_singleton, transmitPasses, passed]
      rfl
    · intro stream member
      rw [List.mem_singleton.mp member]
      exact servedFront

/-- Equals take turns exactly when none of them is marked as new and all but
the last of them have a single frame to send. -/
theorem servesAll_iff
    (equals : EqualsInLine world channel line priority) :
    ServesAll env world channel line ↔
      (∀ stream ∈ line, (world.streams stream).init = false) ∧
        SingleFrames world line := by
  induction line generalizing world with
  | nil =>
      refine iff_of_true ?_ ?_
      · refine ⟨world, rfl, ?_⟩
        intro stream member
        cases member
      · refine ⟨?_, ?_, ?_⟩ <;> intro stream member <;> cases member
  | cons front rest inductionHypothesis =>
      cases live : liveFrames world front with
      | nil =>
          refine iff_of_false (not_servesAll_of_nothing equals live) ?_
          rintro ⟨_, single, last⟩
          cases rest with
          | nil =>
              exact last front rfl live
          | cons second rest =>
              have one := single front List.mem_cons_self
              rw [live] at one
              cases one
      | cons head tail =>
          have hasFrame : liveFrames world front ≠ [] := by
            rw [live]
            exact List.cons_ne_nil head tail
          rw [List.forall_mem_cons]
          cases init : (world.streams front).init with
          | true =>
              refine
                iff_of_false (not_servesAll_of_init equals hasFrame init) ?_
              rintro ⟨⟨notSet, _⟩, _⟩
              cases notSet
          | false =>
              cases tail with
              | nil =>
                  obtain ⟨middle, restEquals, sameRest, served⟩ :=
                    servesAll_cons_of_single env equals live init
                  have one : (liveFrames world front).length = 1 := by
                    rw [live]
                    rfl
                  have sameInit :
                      (∀ stream ∈ rest,
                          (middle.streams stream).init = false) ↔
                        ∀ stream ∈ rest,
                          (world.streams stream).init = false := by
                    refine forall₂_congr ?_
                    intro stream member
                    rw [sameRest stream member]
                  rw [served, inductionHypothesis restEquals, sameInit,
                    singleFrames_cons_iff one sameRest]
                  simp
              | cons more tail =>
                  rw [servesAll_cons_of_more env equals live init]
                  constructor
                  · rintro rfl
                    refine ⟨⟨rfl, ?_⟩, ?_, ?_⟩
                    · intro stream member
                      cases member
                    · intro stream member
                      cases member
                    · intro last isLast
                      obtain rfl : front = last := by
                        simpa using isLast
                      exact hasFrame
                  · rintro ⟨_, single, _⟩
                    cases rest with
                    | nil =>
                        rfl
                    | cons second rest =>
                        have one := single front List.mem_cons_self
                        rw [live] at one
                        simp at one

end Passes

/-- A stream in line for channel 0 with two segments to send. -/
def twoSegments (init : Bool) (stream : StreamPtr) : BaseStream :=
  { BaseStream.create with
    init := init
    txAttachments := fun _ =>
      ⟨some 0, UInt16.ofNat stream, 1, true, false⟩
    txCurrentAttachment := some Slot.first
    txByteSeq := 2
    txEnqueuedChannel := true
    txWaitingAck := [0, 1]
    txQueue :=
      [TxFrame.create stream .stream,
        { TxFrame.create stream .stream with txByteSeq := 1 }]
    txWaitingSize := 2 }

/-- Channel 0 with such streams in line. -/
def segmentsInLine (init : Bool) (line : List StreamPtr) : World :=
  { World.create [1] [2] with
    streams := twoSegments init
    channels := fun _ =>
      { StreamChannel.create [1] [2] with
        active := true
        sendingStreams := line } }

private theorem segmentsInLine_equals
    (init : Bool) {line : List StreamPtr} (nodup : line.Nodup) :
    EqualsInLine (segmentsInLine init line) 0 line 0 := by
  refine ⟨rfl, rfl, nodup, fun _ _ => rfl, ?_⟩
  intro stream _
  exact ⟨rfl, ⟨Slot.first, rfl, rfl, rfl, rfl⟩, List.cons_ne_nil _ _⟩

/-- Streams 1 and 2 in line, the first segment of stream 1 acknowledged. -/
def firstAcknowledged : World :=
  { segmentsInLine false [1, 2] with
    streams :=
      Function.update (twoSegments false) 1
        { twoSegments false 1 with
          txWaitingAck := [1]
          txWaitingSize := 1 } }

private theorem firstAcknowledged_equals :
    EqualsInLine firstAcknowledged 0 [1, 2] 0 := by
  refine ⟨rfl, rfl, by decide, ?_, ?_⟩
  · intro stream member
    rcases List.mem_pair.mp member with rfl | rfl <;> rfl
  · intro stream member
    rcases List.mem_pair.mp member with rfl | rfl <;>
      exact
        ⟨rfl, ⟨Slot.first, rfl, rfl, rfl, rfl⟩, List.cons_ne_nil _ _⟩

/-- Stream 1 sends its last segment and makes way for stream 2. -/
theorem servesAll_firstAcknowledged :
    ServesAll (Env.constant true) firstAcknowledged 0 [1, 2] := by
  refine (servesAll_iff firstAcknowledged_equals).mpr ⟨?_, ?_, ?_⟩
  · intro stream member
    rcases List.mem_pair.mp member with rfl | rfl <;> rfl
  · intro stream member
    rw [List.mem_singleton.mp member]
    rfl
  · intro last isLast nothing
    cases isLast
    cases nothing

/-- Of two equals the first one is served twice, and with the mark of a new
stream neither is. -/
theorem equal_passed_over :
    EqualsInLine (segmentsInLine false [1, 2]) 0 [1, 2] 0 ∧
      (transmitPasses (Env.constant true) 0 2
            (segmentsInLine false [1, 2])).map
          (fun next =>
            [transmissions next 0 1, transmissions next 0 2]) =
        some [2, 0] ∧
      ¬ ServesAll (Env.constant true) (segmentsInLine false [1, 2]) 0
        [1, 2] ∧
      transmitPass (Env.constant true) 0 (segmentsInLine true [1, 2]) =
        none := by
  have counted :
      (transmitPasses (Env.constant true) 0 2
            (segmentsInLine false [1, 2])).map
          (fun next =>
            [transmissions next 0 1, transmissions next 0 2]) =
        some [2, 0] := by
    rfl
  refine ⟨segmentsInLine_equals false (by decide), counted, ?_, rfl⟩
  rintro ⟨next, returned, served⟩
  have passes :
      transmitPasses (Env.constant true) 0 2
          (segmentsInLine false [1, 2]) =
        some next :=
    returned
  rw [passes] at counted
  have second := served 2 (by simp)
  have none : transmissions next 0 2 = 0 := by
    have lists := Option.some.inj counted
    exact (List.cons.inj (List.cons.inj lists).2).1
  rw [none] at second
  cases second

end StructuredStreams.Stream
