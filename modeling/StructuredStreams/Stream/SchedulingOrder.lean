import StructuredStreams.Stream.PriorityOrder

/-!
# What the operations on the sending queue change

`enqueue_stream` searches the queue by bisection for the place of a stream,
and `set_priority` changes the key of a stream that may stand in the queue.
In every run of the operations the queue is in ascending order of the current
priorities, every search finds the queue partitioned, and an operation moves
the stream that it names and no other.
-/

namespace StructuredStreams.Stream

open World

/-- The streams that must follow one of the priority stand behind those that
must not, as `upper_bound` requires. -/
def World.Partitioned
    (world : World) (channel : ChannelPtr) (prio : Priority) : Prop :=
  ∃ before after,
    (world.channels channel).sendingStreams = before ++ after ∧
      (∀ other ∈ before, ¬ prio ≤ (world.streams other).priority) ∧
      ∀ other ∈ after, prio ≤ (world.streams other).priority

/-- The world in which an operation gets to `enqueue_stream` of the channel,
with the stream that it enqueues. -/
def QueueCall.searches
    (channel : ChannelPtr) (world : World) :
    QueueCall → Option (World × StreamPtr)
  | .enqueueStream stream => some (world, stream)
  | .setPriority stream priority =>
      if (world.streams stream).priority = priority then none
      else if
          (world.streams stream).txEnqueuedChannel = true ∧
            world.currentChannel stream = some channel then
        some
          ((world.withPriority stream priority).dequeueStream channel stream,
            stream)
      else none
  | _ => none

/-- What an operation makes of the queue. -/
def QueueCall.Changes (before after : List StreamPtr) : QueueCall → Prop
  | .enqueueStream stream =>
      stream ∉ before ∧ after.Perm (stream :: before)
  | .dequeueStream stream =>
      after = before.filter fun other => other ≠ stream
  | .setPriority _ _ => after.Perm before
  | .popFront => ∃ front, before = front :: after

/-- The queue is in order, and the flag of a stream that is attached to the
channel says whether the stream stands in it. -/
structure QueueMirrored (channel : ChannelPtr) (world : World) : Prop where
  inOrder : QueueInOrder channel world
  queued :
    ∀ stream,
      (world.streams stream).txEnqueuedChannel = true →
      world.currentChannel stream = some channel →
      stream ∈ (world.channels channel).sendingStreams

section Changes

variable {channel : ChannelPtr} {world next : World}

private theorem enqueueStream_queue
    (world : World) (channel : ChannelPtr) (stream : StreamPtr) :
    ((world.enqueueStream channel stream).channels
        channel).sendingStreams.Perm
      (stream :: (world.channels channel).sendingStreams) := by
  rw [enqueueStream, modifyChannel_channels_self]
  exact insertUpperBound_perm _ stream _

/-- Putting a stream of the queue in its new place rearranges the queue. -/
theorem QueueMirrored.requeue_perm
    (mirrored : QueueMirrored channel world) {stream : StreamPtr}
    (priority : Priority)
    (inQueue : stream ∈ (world.channels channel).sendingStreams) :
    ((((world.withPriority stream priority).dequeueStream channel
        stream).enqueueStream channel stream).channels
          channel).sendingStreams.Perm
      (world.channels channel).sendingStreams := by
  have others :
      (((world.withPriority stream priority).dequeueStream channel
          stream).channels channel).sendingStreams =
        (world.channels channel).sendingStreams.erase stream := by
    rw [mirrored.inOrder.nodup.erase_eq_filter, dequeueStream,
      modifyChannel_channels_self, World.withPriority,
      modifyStream_channels]
    refine List.filter_congr fun other _ => ?_
    by_cases same : other = stream <;> simp [same]
  have placed :=
    enqueueStream_queue
      ((world.withPriority stream priority).dequeueStream channel stream)
      channel stream
  rw [others] at placed
  exact placed.trans (List.perm_cons_erase inQueue).symm

private theorem QueueMirrored.setPriority_perm
    (mirrored : QueueMirrored channel world)
    {stream : StreamPtr} {priority : Priority}
    (returned : world.setPriority stream priority = some next) :
    (next.channels channel).sendingStreams.Perm
      (world.channels channel).sendingStreams := by
  rcases setPriority_eq_some returned with
    rfl | ⟨_, rfl⟩ | ⟨used, current, enqueued, rfl⟩
  · exact List.Perm.refl _
  · exact List.Perm.refl _
  · by_cases here : used = channel
    · subst used
      exact
        mirrored.requeue_perm priority
          (mirrored.queued stream enqueued current)
    · rw [enqueueStream, dequeueStream,
        modifyChannel_channels_of_ne _ (Ne.symm here),
        modifyChannel_channels_of_ne _ (Ne.symm here)]
      exact List.Perm.refl _

/-- Every operation changes the queue by the stream that it names. -/
theorem QueueMirrored.changes
    (mirrored : QueueMirrored channel world) {call : QueueCall}
    (taken : QueueStep channel world call next) :
    call.Changes (world.channels channel).sendingStreams
      (next.channels channel).sendingStreams := by
  unfold QueueStep QueueCall.run at taken
  cases call with
  | enqueueStream stream =>
      dsimp only at taken
      rw [guard_bind_eq_some_iff, guard_bind_eq_some_iff] at taken
      obtain ⟨_, notEnqueued, taken⟩ := taken
      cases taken
      refine
        ⟨mirrored.inOrder.not_mem fun both => notEnqueued both.1, ?_⟩
      rw [setTxEnqueuedChannel, modifyStream_channels]
      exact enqueueStream_queue world channel stream
  | dequeueStream stream =>
      cases taken
      unfold QueueCall.Changes
      rw [setTxEnqueuedChannel, modifyStream_channels, dequeueStream,
        modifyChannel_channels_self]
  | setPriority stream priority =>
      exact mirrored.setPriority_perm taken
  | popFront =>
      dsimp only at taken
      split at taken
      · cases taken
      · next front rest queue =>
          cases taken
          refine ⟨front, ?_⟩
          rw [setTxEnqueuedChannel, modifyStream_channels,
            modifyChannel_channels_self, queue]

/-- A stream other than one whose flag is changed keeps its place. -/
theorem queued_setTxEnqueuedChannel
    {stream other : StreamPtr} {enqueued : Bool}
    (different : other ≠ stream)
    (flagged :
      ((world.setTxEnqueuedChannel stream enqueued).streams
        other).txEnqueuedChannel = true)
    (current :
      (world.setTxEnqueuedChannel stream enqueued).currentChannel other =
        some channel) :
    (world.streams other).txEnqueuedChannel = true ∧
      world.currentChannel other = some channel := by
  rw [setTxEnqueuedChannel, modifyStream_streams_of_ne world different]
    at flagged
  rw [currentChannel_setTxEnqueuedChannel] at current
  exact ⟨flagged, current⟩

/-- A stream that is taken out and whose flag is reset. -/
theorem QueueMirrored.remove
    (mirrored : QueueMirrored channel world) {stream : StreamPtr}
    {change : StreamChannel → StreamChannel}
    (keeps :
      ∀ other ∈ (world.channels channel).sendingStreams,
        other ≠ stream →
          other ∈ (change (world.channels channel)).sendingStreams)
    (other : StreamPtr)
    (flagged :
      (((world.modifyChannel channel change).setTxEnqueuedChannel stream
        false).streams other).txEnqueuedChannel = true)
    (current :
      ((world.modifyChannel channel change).setTxEnqueuedChannel stream
        false).currentChannel other = some channel) :
    other ∈
      (((world.modifyChannel channel change).setTxEnqueuedChannel stream
        false).channels channel).sendingStreams := by
  have different : other ≠ stream := by
    rintro rfl
    rw [setTxEnqueuedChannel, modifyStream_streams_self] at flagged
    cases flagged
  obtain ⟨before, attached⟩ :=
    queued_setTxEnqueuedChannel different flagged current
  rw [setTxEnqueuedChannel, modifyStream_channels,
    modifyChannel_channels_self]
  exact keeps other (mirrored.queued other before attached) different

/-- `set_priority` leaves the flags and the current attachments alone. -/
theorem setPriority_keeps
    {stream : StreamPtr} {priority : Priority}
    (returned : world.setPriority stream priority = some next)
    (other : StreamPtr) :
    (next.streams other).txEnqueuedChannel =
        (world.streams other).txEnqueuedChannel ∧
      next.currentChannel other = world.currentChannel other := by
  rcases setPriority_eq_some returned with
    rfl | ⟨_, rfl⟩ | ⟨used, _, _, rfl⟩
  · exact ⟨rfl, rfl⟩
  · exact
      ⟨flag_withPriority world stream priority other,
        currentChannel_withPriority world stream priority other⟩
  · exact
      ⟨flag_withPriority world stream priority other,
        currentChannel_withPriority world stream priority other⟩

theorem QueueMirrored.step
    (mirrored : QueueMirrored channel world) {call : QueueCall}
    (taken : QueueStep channel world call next) :
    QueueMirrored channel next := by
  have changes := mirrored.changes taken
  refine ⟨mirrored.inOrder.step taken, ?_⟩
  intro other flagged current
  unfold QueueStep QueueCall.run at taken
  cases call with
  | enqueueStream stream =>
      dsimp only at taken
      rw [guard_bind_eq_some_iff, guard_bind_eq_some_iff] at taken
      obtain ⟨_, _, taken⟩ := taken
      cases taken
      rw [changes.2.mem_iff]
      by_cases same : other = stream
      · exact List.mem_cons.mpr (Or.inl same)
      · obtain ⟨before, attached⟩ :=
          queued_setTxEnqueuedChannel same flagged current
        exact
          List.mem_cons_of_mem stream
            (mirrored.queued other before attached)
  | dequeueStream stream =>
      cases taken
      refine mirrored.remove ?_ other flagged current
      intro kept inQueue different
      exact List.mem_filter.mpr ⟨inQueue, decide_eq_true different⟩
  | setPriority stream priority =>
      obtain ⟨sameFlag, sameCurrent⟩ := setPriority_keeps taken other
      rw [changes.mem_iff]
      exact
        mirrored.queued other (sameFlag.symm.trans flagged)
          (sameCurrent.symm.trans current)
  | popFront =>
      dsimp only at taken
      split at taken
      · cases taken
      · next front rest queue =>
          cases taken
          refine mirrored.remove ?_ other flagged current
          intro kept inQueue different
          rw [queue] at inQueue
          exact (List.mem_cons.mp inQueue).resolve_left different

private theorem partitioned_of_ascending
    (prio : Priority)
    (ascending :
      Ascending world (world.channels channel).sendingStreams) :
    world.Partitioned channel prio := by
  obtain ⟨before, after, split, lower, higher⟩ :=
    ascending_split prio ascending
  exact
    ⟨before, after, split,
      fun other member => UInt32.not_le.mpr (lower other member), higher⟩

/-- Every search of an operation finds the queue partitioned, also after
`set_priority` changed the key of the stream and took it out. -/
theorem QueueMirrored.searches_partitioned
    (mirrored : QueueMirrored channel world) {call : QueueCall}
    {searched : World} {stream : StreamPtr}
    (searches : call.searches channel world = some (searched, stream)) :
    searched.Partitioned channel (searched.streams stream).priority := by
  have ascending := mirrored.inOrder.ascending
  unfold QueueCall.searches at searches
  cases call with
  | enqueueStream enqueued =>
      cases searches
      exact partitioned_of_ascending _ ascending
  | dequeueStream | popFront =>
      cases searches
  | setPriority changed priority =>
      dsimp only at searches
      split at searches
      · cases searches
      · split at searches
        · cases searches
          apply partitioned_of_ascending
          rw [dequeueStream, modifyChannel_channels_self,
            World.withPriority, modifyStream_channels]
          refine Ascending.congr (ascending.sublist List.filter_sublist) ?_
          intro other inQueue
          have different : other ≠ stream := by
            simpa using (List.mem_filter.mp inQueue).2
          rw [modifyChannel_streams,
            modifyStream_streams_of_ne world different]
        · cases searches

end Changes

theorem QueueMirrored.of_run
    {channel : ChannelPtr} {start final : World} {calls : List QueueCall}
    (mirrored : QueueMirrored channel start)
    (run : QueueRun channel start calls final) :
    QueueMirrored channel final := by
  refine run.induct (fun _ world => QueueMirrored channel world) mirrored ?_
  intro _ world call next _ reached taken
  exact reached.step taken

/-- In every run of the queue of a channel it is in ascending order of the
current priorities, the searches find it partitioned, and an operation changes
it by the stream that it names. -/
theorem sending_queue_well_formed
    {channel : ChannelPtr} {start final : World} {calls : List QueueCall}
    (empty : (start.channels channel).sendingStreams = [])
    (noneQueued :
      ∀ stream,
        (start.streams stream).txEnqueuedChannel = true →
          start.currentChannel stream ≠ some channel)
    (run : QueueRun channel start calls final) :
    (final.channels channel).sendingStreams.Nodup ∧
      Ascending final (final.channels channel).sendingStreams ∧
      ∀ call next, QueueStep channel final call next →
        call.Changes (final.channels channel).sendingStreams
            (next.channels channel).sendingStreams ∧
          ∀ searched stream,
            call.searches channel final = some (searched, stream) →
              searched.Partitioned channel
                (searched.streams stream).priority := by
  have started : QueueMirrored channel start :=
    ⟨QueueInOrder.of_run empty Run.refl,
      fun stream enqueued current =>
        absurd current (noneQueued stream enqueued)⟩
  have mirrored := started.of_run run
  refine ⟨mirrored.inOrder.nodup, mirrored.inOrder.ascending, ?_⟩
  intro call next taken
  exact
    ⟨mirrored.changes taken,
      fun _ _ searches => mirrored.searches_partitioned searches⟩

private theorem twoAttached_noneQueued (stream : StreamPtr) :
    (twoAttached.streams stream).txEnqueuedChannel = false :=
  match stream with
  | 0 => rfl
  | 1 => rfl
  | _ + 2 => rfl

theorem sending_queue_well_formed_of_two :
    ∃ final,
      QueueRun 0 twoAttached
          [.setPriority 1 2, .enqueueStream 1, .enqueueStream 0,
            .setPriority 0 3] final ∧
        (final.channels 0).sendingStreams = [1, 0] ∧
        (final.channels 0).sendingStreams.Nodup ∧
        Ascending final (final.channels 0).sendingStreams ∧
        ∀ call next, QueueStep 0 final call next →
          call.Changes (final.channels 0).sendingStreams
              (next.channels 0).sendingStreams ∧
            ∀ searched stream,
              call.searches 0 final = some (searched, stream) →
                searched.Partitioned 0
                  (searched.streams stream).priority := by
  have run :
      QueueRun 0 twoAttached
        [.setPriority 1 2, .enqueueStream 1, .enqueueStream 0,
          .setPriority 0 3] _ :=
    QueueRun.of_runAll rfl
  refine ⟨_, run, rfl, ?_⟩
  refine sending_queue_well_formed rfl ?_ run
  intro stream enqueued
  exact
    absurd ((twoAttached_noneQueued stream).symm.trans enqueued)
      Bool.false_ne_true

end StructuredStreams.Stream
