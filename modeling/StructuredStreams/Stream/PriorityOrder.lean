import StructuredStreams.Stream.Steps

/-!
# The order of the sending queue

`enqueue_stream` puts a stream in front of the first one of at least its
priority, so that the queue of a channel is in ascending order and the stream
that is taken from its front has the lowest priority in it.
-/

namespace StructuredStreams.Stream

open World

/-- The operations on the queue of a channel. -/
inductive QueueCall where
  | enqueueStream (stream : StreamPtr)
  | dequeueStream (stream : StreamPtr)
  | setPriority (stream : StreamPtr) (priority : Priority)
  | popFront
  deriving DecidableEq, Repr

/-- The operations as their callers make them: `tx_enqueue_channel` enqueues
a stream that is not enqueued, `clear` and `transmit_on` reset the flag of a
stream that left the queue. -/
def QueueCall.run (channel : ChannelPtr) (world : World) :
    QueueCall → Option World
  | .enqueueStream stream => do
      guard (world.currentChannel stream = some channel)
      guard (¬ (world.streams stream).txEnqueuedChannel)
      return (world.enqueueStream channel stream).setTxEnqueuedChannel
        stream true
  | .dequeueStream stream =>
      some
        ((world.dequeueStream channel stream).setTxEnqueuedChannel
          stream false)
  | .setPriority stream priority => world.setPriority stream priority
  | .popFront =>
      match (world.channels channel).sendingStreams with
      | [] => none
      | front :: rest =>
          some
            ((world.modifyChannel channel fun entry =>
                { entry with sendingStreams := rest }).setTxEnqueuedChannel
              front false)

def QueueStep
    (channel : ChannelPtr) (world : World) (call : QueueCall)
    (next : World) : Prop :=
  call.run channel world = some next

abbrev QueueRun (channel : ChannelPtr) :
    World → List QueueCall → World → Prop :=
  Run (QueueStep channel)

def QueueCall.runAll
    (channel : ChannelPtr) (world : World) (calls : List QueueCall) :
    Option World :=
  calls.foldlM (fun world call => call.run channel world) world

theorem QueueRun.of_runAll
    {channel : ChannelPtr} {world next : World} {calls : List QueueCall}
    (returned : QueueCall.runAll channel world calls = some next) :
    QueueRun channel world calls next :=
  Run.of_foldlM (fun _ _ _ taken => taken) returned

/-- The queue is in ascending order of the priorities. -/
def Ascending (world : World) (queue : List StreamPtr) : Prop :=
  queue.Pairwise fun earlier later =>
    (world.streams earlier).priority ≤ (world.streams later).priority

/-- Every stream in the queue is there once, has its flag set and its current
attachment on the channel, and the queue is in ascending order. -/
structure QueueInOrder (channel : ChannelPtr) (world : World) : Prop where
  nodup : (world.channels channel).sendingStreams.Nodup
  flagged :
    ∀ stream ∈ (world.channels channel).sendingStreams,
      (world.streams stream).txEnqueuedChannel = true ∧
        world.currentChannel stream = some channel
  ascending : Ascending world (world.channels channel).sendingStreams

theorem ascending_split
    {world : World} {queue : List StreamPtr} (prio : Priority)
    (ascending : Ascending world queue) :
    ∃ before after,
      queue = before ++ after ∧
        (∀ stream ∈ before, (world.streams stream).priority < prio) ∧
        ∀ stream ∈ after, prio ≤ (world.streams stream).priority := by
  induction queue with
  | nil =>
      exact ⟨[], [], rfl, by simp, by simp⟩
  | cons front rest inductionHypothesis =>
      obtain ⟨frontLowest, restAscending⟩ := List.pairwise_cons.mp ascending
      by_cases lower : (world.streams front).priority < prio
      · obtain ⟨before, after, split, allLower, allHigher⟩ :=
          inductionHypothesis restAscending
        refine ⟨front :: before, after, by rw [split]; rfl, ?_, allHigher⟩
        intro stream member
        rcases List.mem_cons.mp member with rfl | later
        · exact lower
        · exact allLower stream later
      · have higher : prio ≤ (world.streams front).priority :=
          UInt32.not_lt.mp lower
        refine ⟨[], front :: rest, rfl, by simp, ?_⟩
        intro stream member
        rcases List.mem_cons.mp member with rfl | later
        · exact higher
        · exact UInt32.le_trans higher (frontLowest stream later)

/-- Enqueueing keeps the ascending order. -/
theorem Ascending.insert
    {world : World} {queue : List StreamPtr}
    (ascending : Ascending world queue) (stream : StreamPtr) :
    Ascending world
      (insertUpperBound
        (fun other =>
          decide
            ((world.streams stream).priority ≤
              (world.streams other).priority))
        stream queue) := by
  obtain ⟨before, after, rfl, allLower, allHigher⟩ :=
    ascending_split (world.streams stream).priority ascending
  obtain ⟨beforeAscending, afterAscending, across⟩ :=
    List.pairwise_append.mp ascending
  rw [insertUpperBound_of_partitioned
    (fun other member => by simpa using allLower other member)
    (fun other member => by simpa using allHigher other member)]
  refine
    List.pairwise_append.mpr
      ⟨beforeAscending,
        List.pairwise_cons.mpr ⟨allHigher, afterAscending⟩, ?_⟩
  intro earlier earlierMember later laterMember
  rcases List.mem_cons.mp laterMember with rfl | laterMember
  · exact UInt32.le_of_lt (allLower earlier earlierMember)
  · exact across earlier earlierMember later laterMember

theorem Ascending.congr
    {world next : World} {queue : List StreamPtr}
    (ascending : Ascending world queue)
    (same :
      ∀ stream ∈ queue,
        (next.streams stream).priority =
          (world.streams stream).priority) :
    Ascending next queue := by
  refine List.Pairwise.imp_of_mem ?_ ascending
  intro earlier later earlierMember laterMember ordered
  rw [same earlier earlierMember, same later laterMember]
  exact ordered

private theorem setTxEnqueuedChannel_priority
    (world : World) (stream : StreamPtr) (enqueued : Bool)
    (other : StreamPtr) :
    ((world.setTxEnqueuedChannel stream enqueued).streams other).priority =
      (world.streams other).priority :=
  modifyStream_field world BaseStream.priority stream _ rfl other

theorem QueueInOrder.not_mem
    {channel : ChannelPtr} {world : World}
    (inOrder : QueueInOrder channel world) {stream : StreamPtr}
    (elsewhere :
      ¬ ((world.streams stream).txEnqueuedChannel = true ∧
        world.currentChannel stream = some channel)) :
    stream ∉ (world.channels channel).sendingStreams :=
  fun member => elsewhere (inOrder.flagged stream member)

theorem QueueInOrder.enqueueStream
    {channel : ChannelPtr} {world : World}
    (inOrder : QueueInOrder channel world) {stream : StreamPtr}
    (current : world.currentChannel stream = some channel)
    (notEnqueued : ¬ (world.streams stream).txEnqueuedChannel) :
    QueueInOrder channel
      ((world.enqueueStream channel stream).setTxEnqueuedChannel
        stream true) := by
  have absent : stream ∉ (world.channels channel).sendingStreams :=
    inOrder.not_mem fun both => notEnqueued both.1
  have queue :
      (((world.enqueueStream channel stream).setTxEnqueuedChannel
          stream true).channels channel).sendingStreams =
        insertUpperBound
          (fun other =>
            decide
              ((world.streams stream).priority ≤
                (world.streams other).priority))
          stream (world.channels channel).sendingStreams := by
    simp [setTxEnqueuedChannel, World.enqueueStream]
  have perm :=
    insertUpperBound_perm
      (fun other =>
        decide
          ((world.streams stream).priority ≤
            (world.streams other).priority))
      stream (world.channels channel).sendingStreams
  refine ⟨?_, ?_, ?_⟩
  · rw [queue, perm.nodup_iff]
    exact List.nodup_cons.mpr ⟨absent, inOrder.nodup⟩
  · intro other member
    rw [queue, perm.mem_iff] at member
    rw [currentChannel_setTxEnqueuedChannel]
    rcases List.mem_cons.mp member with rfl | earlier
    · exact ⟨by simp [setTxEnqueuedChannel], current⟩
    · have different : other ≠ stream := by
        rintro rfl
        exact absent earlier
      rw [setTxEnqueuedChannel, modifyStream_streams_of_ne _ different]
      exact inOrder.flagged other earlier
  · rw [queue]
    apply (inOrder.ascending.insert stream).congr
    intro other _
    exact setTxEnqueuedChannel_priority _ stream true other

/-- Streams other than one that is taken out stay as they were. -/
theorem QueueInOrder.remove
    {channel : ChannelPtr} {world : World}
    (inOrder : QueueInOrder channel world) {stream : StreamPtr}
    {change : StreamChannel → StreamChannel}
    (shorter :
      (change (world.channels channel)).sendingStreams.Sublist
        (world.channels channel).sendingStreams)
    (removed :
      stream ∉ (change (world.channels channel)).sendingStreams) :
    QueueInOrder channel
      ((world.modifyChannel channel change).setTxEnqueuedChannel
        stream false) := by
  have queue :
      (((world.modifyChannel channel change).setTxEnqueuedChannel
          stream false).channels channel).sendingStreams =
        (change (world.channels channel)).sendingStreams := by
    simp [setTxEnqueuedChannel]
  refine ⟨?_, ?_, ?_⟩
  · rw [queue]
    exact inOrder.nodup.sublist shorter
  · intro other member
    rw [queue] at member
    have different : other ≠ stream := by
      rintro rfl
      exact removed member
    rw [currentChannel_setTxEnqueuedChannel, setTxEnqueuedChannel,
      modifyStream_streams_of_ne _ different]
    exact inOrder.flagged other (shorter.subset member)
  · rw [queue]
    apply Ascending.congr (inOrder.ascending.sublist shorter)
    intro other _
    exact setTxEnqueuedChannel_priority _ stream false other

theorem QueueInOrder.dequeueStream
    {channel : ChannelPtr} {world : World}
    (inOrder : QueueInOrder channel world) (stream : StreamPtr) :
    QueueInOrder channel
      ((world.dequeueStream channel stream).setTxEnqueuedChannel
        stream false) := by
  apply inOrder.remove List.filter_sublist
  simp

theorem QueueInOrder.popFront
    {channel : ChannelPtr} {world : World}
    (inOrder : QueueInOrder channel world)
    {front : StreamPtr} {rest : List StreamPtr}
    (queue :
      (world.channels channel).sendingStreams = front :: rest) :
    QueueInOrder channel
      ((world.modifyChannel channel fun entry =>
          { entry with sendingStreams := rest }).setTxEnqueuedChannel
        front false) := by
  have nodup := inOrder.nodup
  rw [queue] at nodup
  refine inOrder.remove ?_ (List.nodup_cons.mp nodup).1
  rw [queue]
  exact List.sublist_cons_self front rest

/-- A queue that the stream does not stand in is not affected by its
priority. -/
theorem QueueInOrder.withPriority
    {channel : ChannelPtr} {world next : World}
    (inOrder : QueueInOrder channel world)
    {stream : StreamPtr} {priority : Priority}
    (absent : stream ∉ (world.channels channel).sendingStreams)
    (streams :
      next.streams = (world.withPriority stream priority).streams)
    (queue :
      (next.channels channel).sendingStreams =
        (world.channels channel).sendingStreams) :
    QueueInOrder channel next := by
  have currentChannels :
      ∀ other,
        next.currentChannel other = world.currentChannel other := by
    intro other
    rw [← currentChannel_withPriority world stream priority other,
      currentChannel, currentChannel, streams]
  refine ⟨?_, ?_, ?_⟩
  · rw [queue]
    exact inOrder.nodup
  · intro other member
    rw [queue] at member
    rw [currentChannels, streams, flag_withPriority]
    exact inOrder.flagged other member
  · rw [queue]
    apply inOrder.ascending.congr
    intro other member
    have different : other ≠ stream := by
      rintro rfl
      exact absent member
    rw [streams, World.withPriority,
      modifyStream_streams_of_ne world different]

private theorem QueueInOrder.requeue
    {channel : ChannelPtr} {world : World}
    (inOrder : QueueInOrder channel world)
    {stream : StreamPtr} (priority : Priority)
    (current : world.currentChannel stream = some channel)
    (enqueued : (world.streams stream).txEnqueuedChannel = true) :
    QueueInOrder channel
      (((world.withPriority stream priority).dequeueStream channel
        stream).enqueueStream channel stream) := by
  have queue :
      ((((world.withPriority stream priority).dequeueStream channel
          stream).enqueueStream channel stream).channels
            channel).sendingStreams =
        insertUpperBound
          (fun other =>
            decide
              (((world.withPriority stream priority).streams
                  stream).priority ≤
                ((world.withPriority stream priority).streams
                  other).priority))
          stream
          ((world.channels channel).sendingStreams.filter
            fun other => other ≠ stream) := by
    simp [World.enqueueStream, World.dequeueStream, World.withPriority]
  have perm :=
    insertUpperBound_perm
      (fun other =>
        decide
          (((world.withPriority stream priority).streams
              stream).priority ≤
            ((world.withPriority stream priority).streams
              other).priority))
      stream
      ((world.channels channel).sendingStreams.filter
        fun other => other ≠ stream)
  refine ⟨?_, ?_, ?_⟩
  · rw [queue, perm.nodup_iff]
    refine List.nodup_cons.mpr ⟨?_, inOrder.nodup.filter _⟩
    simp
  · intro other member
    rw [queue, perm.mem_iff] at member
    change
      ((world.withPriority stream priority).streams
          other).txEnqueuedChannel = true ∧
        (world.withPriority stream priority).currentChannel other =
          some channel
    rw [currentChannel_withPriority, flag_withPriority]
    rcases List.mem_cons.mp member with rfl | others
    · exact ⟨enqueued, current⟩
    · exact inOrder.flagged other (List.mem_filter.mp others).1
  · rw [queue]
    have others :
        Ascending (world.withPriority stream priority)
          ((world.channels channel).sendingStreams.filter
            fun other => other ≠ stream) := by
      refine
        Ascending.congr
          (inOrder.ascending.sublist List.filter_sublist) ?_
      intro other member
      have different : other ≠ stream := by
        simpa using (List.mem_filter.mp member).2
      rw [World.withPriority, modifyStream_streams_of_ne world different]
    exact others.insert stream

theorem QueueInOrder.setPriority
    {channel : ChannelPtr} {world next : World}
    (inOrder : QueueInOrder channel world)
    {stream : StreamPtr} {priority : Priority}
    (returned : world.setPriority stream priority = some next) :
    QueueInOrder channel next := by
  rcases setPriority_eq_some returned with
    rfl | ⟨notEnqueued, rfl⟩ | ⟨other, current, enqueued, rfl⟩
  · exact inOrder
  · refine inOrder.withPriority ?_ rfl rfl
    apply inOrder.not_mem
    rw [notEnqueued]
    simp
  · by_cases same : other = channel
    · subst other
      exact inOrder.requeue priority current enqueued
    · refine inOrder.withPriority ?_ rfl ?_
      · apply inOrder.not_mem
        rw [current]
        intro found
        rcases found with ⟨_, alsoHere⟩
        injection alsoHere with here
        exact same here
      · rw [World.enqueueStream, World.dequeueStream,
          modifyChannel_channels_of_ne _ (Ne.symm same),
          modifyChannel_channels_of_ne _ (Ne.symm same)]
        rfl

theorem QueueInOrder.step
    {channel : ChannelPtr} {world next : World} {call : QueueCall}
    (inOrder : QueueInOrder channel world)
    (taken : QueueStep channel world call next) :
    QueueInOrder channel next := by
  unfold QueueStep QueueCall.run at taken
  cases call with
  | enqueueStream stream =>
      dsimp only at taken
      rw [guard_bind_eq_some_iff, guard_bind_eq_some_iff] at taken
      obtain ⟨current, notEnqueued, taken⟩ := taken
      cases taken
      exact inOrder.enqueueStream current notEnqueued
  | dequeueStream stream =>
      cases taken
      exact inOrder.dequeueStream stream
  | setPriority stream priority =>
      exact inOrder.setPriority taken
  | popFront =>
      dsimp only at taken
      split at taken
      · cases taken
      · next front rest queue =>
          cases taken
          exact inOrder.popFront queue

theorem QueueInOrder.of_run
    {channel : ChannelPtr} {start final : World} {calls : List QueueCall}
    (empty : (start.channels channel).sendingStreams = [])
    (run : QueueRun channel start calls final) :
    QueueInOrder channel final := by
  refine run.induct (fun _ world => QueueInOrder channel world) ?_ ?_
  · refine ⟨?_, ?_, ?_⟩
    · rw [empty]
      exact List.nodup_nil
    · rw [empty]
      intro stream member
      cases member
    · rw [empty]
      exact List.Pairwise.nil
  · intro _ world call next _ inOrder taken
    exact inOrder.step taken

/-- In every run of the queue of a channel, the stream at the front has the
highest priority in the queue exactly when all streams in it have the same
priority. -/
theorem front_has_highest_priority_iff
    {channel : ChannelPtr} {start final : World} {calls : List QueueCall}
    (empty : (start.channels channel).sendingStreams = [])
    (run : QueueRun channel start calls final)
    {front : StreamPtr} {rest : List StreamPtr}
    (queue :
      (final.channels channel).sendingStreams = front :: rest) :
    (∀ other ∈ rest,
        (final.streams other).priority ≤
          (final.streams front).priority) ↔
      ∀ other ∈ rest,
        (final.streams other).priority =
          (final.streams front).priority := by
  have ascending := (QueueInOrder.of_run empty run).ascending
  rw [queue] at ascending
  have lowest := (List.pairwise_cons.mp ascending).1
  constructor
  · intro highest other member
    exact UInt32.le_antisymm (highest other member) (lowest other member)
  · intro same other member
    exact UInt32.le_of_eq (same other member)

/-- The calls that attach a second stream to a started channel. -/
def attachingCalls : List Call :=
  [.construct 0 0, .start 0 true, .setAttaching 1 .first 0 7,
    .setCurrent 1 .first]

/-- Two streams attached to a channel. -/
def twoAttached : World :=
  (Call.runAll (Env.constant false) (World.create [1] [2])
    attachingCalls).getD (World.create [1] [2])

theorem front_has_highest_priority_among_equals :
    ∃ final,
      QueueRun 0 twoAttached [.enqueueStream 0, .enqueueStream 1] final ∧
        (final.channels 0).sendingStreams = [1, 0] ∧
        ((∀ other ∈ [0],
            (final.streams other).priority ≤
              (final.streams 1).priority) ↔
          ∀ other ∈ [0],
            (final.streams other).priority =
              (final.streams 1).priority) := by
  have run :
      QueueRun 0 twoAttached [.enqueueStream 0, .enqueueStream 1] _ :=
    QueueRun.of_runAll rfl
  refine ⟨_, run, rfl, ?_⟩
  exact front_has_highest_priority_iff rfl run rfl

/-- Of two queued streams the one of the lower priority is taken first. -/
theorem lower_priority_taken_first :
    CallRun (Env.constant false) (World.create [1] [2])
        attachingCalls twoAttached ∧
      ∃ final,
        QueueRun 0 twoAttached
            [.setPriority 0 1, .setPriority 1 2, .enqueueStream 0,
              .enqueueStream 1] final ∧
          (final.channels 0).sendingStreams = [0, 1] ∧
          (final.streams 0).priority < (final.streams 1).priority := by
  refine ⟨CallRun.of_runAll rfl, _, QueueRun.of_runAll rfl, ?_, ?_⟩
  · decide
  · decide

end StructuredStreams.Stream
