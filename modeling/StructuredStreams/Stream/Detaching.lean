import StructuredStreams.Stream.AckLedger
import StructuredStreams.Stream.NoLoss

/-!
# Detaching leaves nothing behind

A stream stands in line on a channel, and is the owner of a frame that waits
there, only while one of its attachments is on the channel.  When `stop` or
`detach_all` has emptied the table of attachments, the line and the table of
waiting frames are therefore empty too, whatever the streams did in between
on other channels.
-/

namespace StructuredStreams.Stream

open World

/-- One of the transmit attachments of the stream is on the channel. -/
def World.AttachedTo
    (world : World) (stream : StreamPtr) (channel : ChannelPtr) : Prop :=
  ∃ slot,
    ((world.streams stream).txAttachments slot).channel = some channel

/-- The streams in line on a channel and the owners of the frames that wait
there are attached to it, some of the frames excepted. -/
structure AnchoredExcept
    (Exempt : ChannelPtr → PacketSeq × WaitingFrame → Prop)
    (world : World) : Prop where
  owned : OwnedQueues world
  line :
    ∀ channel, ∀ stream ∈ (world.channels channel).sendingStreams,
      world.AttachedTo stream channel
  owners :
    ∀ channel, ∀ copied ∈ (world.channels channel).waitingAck,
      Exempt channel copied ∨
        ∃ owner,
          copied.2.frame.owner = some owner ∧
            world.AttachedTo owner channel

abbrev Anchored : World → Prop :=
  AnchoredExcept fun _ _ => False

private theorem attachedTo_of_currentChannel
    {world : World} {stream : StreamPtr} {channel : ChannelPtr}
    (current : world.currentChannel stream = some channel) :
    world.AttachedTo stream channel := by
  unfold World.currentChannel at current
  rw [bind_eq_some_iff] at current
  obtain ⟨slot, _, attached⟩ := current
  exact ⟨slot, attached⟩

/-- Attachments stay, and what joins a line or a table belongs to an attached
stream. -/
theorem AnchoredExcept.extend
    {Exempt : ChannelPtr → PacketSeq × WaitingFrame → Prop}
    {world next : World} (anchored : AnchoredExcept Exempt world)
    (owned : OwnedQueues next)
    (kept :
      ∀ stream slot channel,
        ((world.streams stream).txAttachments slot).channel =
          some channel →
        ((next.streams stream).txAttachments slot).channel = some channel)
    (line :
      ∀ channel, ∀ stream ∈ (next.channels channel).sendingStreams,
        stream ∈ (world.channels channel).sendingStreams ∨
          world.AttachedTo stream channel)
    (owners :
      ∀ channel, ∀ copied ∈ (next.channels channel).waitingAck,
        copied ∈ (world.channels channel).waitingAck ∨
          ∃ owner,
            copied.2.frame.owner = some owner ∧
              world.AttachedTo owner channel) :
    AnchoredExcept Exempt next where
  owned := owned
  line := by
    intro channel stream member
    have attached : world.AttachedTo stream channel :=
      (line channel stream member).elim (anchored.line channel stream) id
    obtain ⟨slot, attached⟩ := attached
    exact ⟨slot, kept stream slot channel attached⟩
  owners := by
    intro channel copied member
    have stillOwned :
        Exempt channel copied ∨
          ∃ owner,
            copied.2.frame.owner = some owner ∧
              world.AttachedTo owner channel :=
      (owners channel copied member).elim
        (anchored.owners channel copied) Or.inr
    apply stillOwned.imp_right
    rintro ⟨owner, ownFrame, slot, attached⟩
    exact ⟨owner, ownFrame, slot, kept owner slot channel attached⟩

/-- Who joins a line attaches to the channel. -/
theorem TxStep.line_cases
    {world next : World} (step : TxStep world next)
    {channel : ChannelPtr} {stream : StreamPtr}
    (member : stream ∈ (next.channels channel).sendingStreams) :
    stream ∈ (world.channels channel).sendingStreams ∨
      world.currentChannel stream = some channel := by
  cases step with
  | tick | collect | charge =>
      exact Or.inl member
  | adopt adopted root =>
      obtain ⟨parent, isAdopted⟩ := adoptRoot_eq world adopted root
      rw [isAdopted, modifyStream_channels] at member
      exact Or.inl member
  | join joined joining current notEnqueued =>
      rw [setTxEnqueuedChannel, modifyStream_channels, enqueueStream]
        at member
      by_cases same : channel = joined
      · subst channel
        rw [modifyChannel_channels_self] at member
        have inserted :=
          (insertUpperBound_perm _ joining _).subset member
        rcases List.mem_cons.mp inserted with isNew | old
        · rw [isNew]
          exact Or.inr current
        · exact Or.inl old
      · rw [modifyChannel_channels_of_ne _ same] at member
        exact Or.inl member
  | take taken leaving rest sending enqueued current =>
      rw [setTxEnqueuedChannel, modifyStream_channels] at member
      by_cases same : channel = taken
      · subst channel
        rw [modifyChannel_channels_self] at member
        rw [sending]
        exact Or.inl (List.mem_cons_of_mem leaving member)
      · rw [modifyChannel_channels_of_ne _ same] at member
        exact Or.inl member
  | send sender used head rest pktseq queue =>
      rw [insertWaitingAck_sendingStreams] at member
      exact Or.inl member
  | attach attaching used pktseq =>
      rw [insertWaitingAck_sendingStreams] at member
      exact Or.inl member

theorem AnchoredExcept.txStep
    {Exempt : ChannelPtr → PacketSeq × WaitingFrame → Prop}
    {world next : World} (anchored : AnchoredExcept Exempt world)
    (step : TxStep world next) :
    AnchoredExcept Exempt next := by
  refine
    anchored.extend
      (ownedQueues_step (.quiet (.transmit step)) anchored.owned) ?_ ?_ ?_
  · intro stream slot channel attached
    rw [step.txAttachments stream]
    exact attached
  · intro channel stream member
    exact (step.line_cases member).imp_right attachedTo_of_currentChannel
  · intro channel copied member
    apply (step.entry_cases anchored.owned member).imp_right
    rintro ⟨owner, ownFrame, current, _⟩
    exact ⟨owner, ownFrame, attachedTo_of_currentChannel current⟩

/-- Lines and attachments are the same, and tables gain nothing. -/
theorem AnchoredExcept.keepsQueues
    {Exempt : ChannelPtr → PacketSeq × WaitingFrame → Prop}
    {world next : World} (anchored : AnchoredExcept Exempt world)
    (keeps : KeepsQueues world next)
    (shorter :
      ∀ channel,
        (next.channels channel).waitingAck.Sublist
          (world.channels channel).waitingAck) :
    AnchoredExcept Exempt next := by
  refine
    anchored.extend
      (ownedQueues_step (.account keeps shorter) anchored.owned) ?_ ?_ ?_
  · intro stream slot channel attached
    rw [keeps.attachedChannel]
    exact attached
  · intro channel stream member
    rw [keeps.sendingStreams] at member
    exact Or.inl member
  · intro channel copied member
    exact Or.inl ((shorter channel).subset member)

theorem AnchoredExcept.quietStep
    {Exempt : ChannelPtr → PacketSeq × WaitingFrame → Prop}
    {world next : World} (anchored : AnchoredExcept Exempt world)
    (step : QuietStep world next) :
    AnchoredExcept Exempt next := by
  have owned := ownedQueues_step (.quiet step) anchored.owned
  cases step with
  | transmit step =>
      exact anchored.txStep step
  | insertPacket stream frame ownFrame =>
      have same :=
        modifyStream_field world BaseStream.txAttachments stream
          (fun entry =>
            { entry with
              txQueue :=
                insertFrame { frame with stamp := world.clock }
                  (world.streams stream).txQueue })
          rfl
      refine
        anchored.extend owned ?_ (fun _ _ => Or.inl) fun _ _ => Or.inl
      intro other slot channel attached
      exact
        (congrArg (fun slots => (slots slot).channel) (same other)).trans
          attached
  | reprioritise channel stream enqueued current =>
      refine
        anchored.extend owned (fun _ _ _ attached => attached) ?_ ?_
      · intro other waiting member
        rw [enqueueStream, dequeueStream] at member
        by_cases same : other = channel
        · subst other
          rw [modifyChannel_channels_self, modifyChannel_channels_self]
            at member
          have inserted :=
            (insertUpperBound_perm _ stream _).subset member
          rcases List.mem_cons.mp inserted with isStream | old
          · rw [isStream]
            exact Or.inr (attachedTo_of_currentChannel current)
          · exact Or.inl (List.mem_filter.mp old).1
        · rw [modifyChannel_channels_of_ne _ same,
            modifyChannel_channels_of_ne _ same] at member
          exact Or.inl member
      · intro other copied member
        rw [enqueueStream, dequeueStream,
          modifyChannel_field _ StreamChannel.waitingAck channel _ rfl,
          modifyChannel_field _ StreamChannel.waitingAck channel _ rfl]
          at member
        exact Or.inl member
  | setAttaching stream slot channel attachment free unregistered
      attached =>
      refine anchored.extend owned ?_ ?_ ?_
      · intro other otherSlot otherChannel stillAttached
        rw [modifyChannel_streams, setTxAttachment]
        by_cases same : other = stream
        · subst other
          have otherwise : otherSlot ≠ slot := by
            rintro rfl
            rw [free] at stillAttached
            cases stillAttached
          rw [modifyStream_streams_self]
          dsimp only
          rw [Function.update_of_ne otherwise]
          exact stillAttached
        · rw [modifyStream_streams_of_ne world same]
          exact stillAttached
      · intro other waiting member
        rw [modifyChannel_field _ StreamChannel.sendingStreams channel _
          rfl] at member
        exact Or.inl member
      · intro other copied member
        rw [modifyChannel_field _ StreamChannel.waitingAck channel _ rfl]
          at member
        exact Or.inl member
  | setCurrent stream slot noCurrent attached =>
      refine
        anchored.extend owned ?_ (fun _ _ => Or.inl) fun _ _ => Or.inl
      intro other otherSlot channel stillAttached
      rw [modifyStream_field world BaseStream.txAttachments stream _ rfl]
      exact stillAttached
  | other keeps tables _ =>
      refine anchored.keepsQueues keeps fun channel => ?_
      rw [tables]

theorem AnchoredExcept.quietSteps
    {Exempt : ChannelPtr → PacketSeq × WaitingFrame → Prop}
    {world next : World} (anchored : AnchoredExcept Exempt world)
    (steps : QuietSteps world next) :
    AnchoredExcept Exempt next := by
  induction steps with
  | refl =>
      exact anchored
  | tail _ step inductionHypothesis =>
      exact inductionHypothesis.quietStep step

theorem AnchoredExcept.record
    {Exempt : ChannelPtr → PacketSeq × WaitingFrame → Prop}
    {world : World} (anchored : AnchoredExcept Exempt world)
    (event : Event) :
    AnchoredExcept Exempt (world.record event) :=
  anchored.keepsQueues (keepsQueues_record world event)
    fun _ => List.Sublist.refl _

/-- Setting a table to a part of itself. -/
theorem AnchoredExcept.shrinkTable
    {Exempt : ChannelPtr → PacketSeq × WaitingFrame → Prop}
    {world : World} (anchored : AnchoredExcept Exempt world)
    (channel : ChannelPtr)
    (change :
      List (PacketSeq × WaitingFrame) → List (PacketSeq × WaitingFrame))
    (shorter : ∀ table, (change table).Sublist table) :
    AnchoredExcept Exempt
      (world.modifyChannel channel fun entry =>
        { entry with waitingAck := change entry.waitingAck }) := by
  refine
    anchored.keepsQueues
      (keepsQueues_modifyChannel world channel _ rfl rfl) fun other => ?_
  by_cases same : other = channel
  · subst other
    rw [modifyChannel_channels_self]
    exact shorter _
  · rw [modifyChannel_channels_of_ne world same]

theorem AnchoredExcept.eraseWaitingAck
    {Exempt : ChannelPtr → PacketSeq × WaitingFrame → Prop}
    {world : World} (anchored : AnchoredExcept Exempt world)
    (channel : ChannelPtr) (pktseq : PacketSeq) :
    AnchoredExcept Exempt (world.eraseWaitingAck channel pktseq) :=
  anchored.shrinkTable channel (fun table => table.filter (·.1 ≠ pktseq))
    fun _ => List.filter_sublist

theorem AnchoredExcept.returned
    {Exempt : ChannelPtr → PacketSeq × WaitingFrame → Prop}
    {world next : World} (anchored : AnchoredExcept Exempt world)
    {owner : StreamPtr} {entry : WaitingFrame}
    (owned : entry.frame.owner = some owner)
    (returned : Returned world owner entry next) :
    AnchoredExcept Exempt next :=
  (anchored.record (.missed entry.id)).quietSteps
    (returned.quietSteps owned)

/-! ## Clearing an attachment -/

/-- The entries of the stream in the table of the channel. -/
def EntriesOf
    (world : World) (stream : StreamPtr) (channel : ChannelPtr)
    (other : ChannelPtr) (copied : PacketSeq × WaitingFrame) : Prop :=
  other = channel ∧
    copied ∈ (world.channels channel).waitingAck ∧
    copied.2.frame.owner = some stream

theorem Anchored.unregister
    {world : World} (anchored : Anchored world)
    {stream : StreamPtr} {slot : Slot} {channel : ChannelPtr}
    {sid : LocalStreamId}
    (attached :
      ((world.streams stream).txAttachments slot).channel = some channel)
    (found :
      (world.channels channel).transmitSids.lookup sid =
        some (stream, slot)) :
    AnchoredExcept (EntriesOf world stream channel)
      (world.unregister stream slot channel sid) := by
  -- The attachment that is cleared is the only one that is lost.
  have kept :
      ∀ other otherChannel, world.AttachedTo other otherChannel →
        (other = stream → otherChannel ≠ channel) →
        (world.unregister stream slot channel sid).AttachedTo other
          otherChannel := by
    rintro other otherChannel ⟨otherSlot, attachedThere⟩ elsewhere
    refine ⟨otherSlot, ?_⟩
    by_cases same : other = stream
    · subst other
      have otherwise : otherSlot ≠ slot := by
        rintro rfl
        exact
          elsewhere rfl
            (Option.some.inj (attachedThere.symm.trans attached))
      rw [unregister_streams_self]
      dsimp only
      rw [Function.update_of_ne otherwise]
      exact attachedThere
    · rw [unregister_streams_of_ne world same]
      exact attachedThere
  refine ⟨?_, ?_, ?_⟩
  · exact
      ownedQueues_step
        (.unregister world stream slot channel sid attached found)
        anchored.owned
  · intro other waiting member
    by_cases same : other = channel
    · subst other
      rw [unregister_channels_self] at member
      obtain ⟨inLine, different⟩ := List.mem_filter.mp member
      exact
        kept waiting channel (anchored.line channel waiting inLine)
          fun sameStream =>
            absurd sameStream (of_decide_eq_true different)
    · rw [unregister_channels_of_ne world stream slot same] at member
      exact
        kept waiting other (anchored.line other waiting member)
          fun _ => same
  · intro other copied member
    rw [unregister_waitingAck] at member
    obtain ⟨owner, ownFrame, attachedThere⟩ :=
      (anchored.owners other copied member).resolve_left not_false
    by_cases exempt : owner = stream ∧ other = channel
    · obtain ⟨rfl, rfl⟩ := exempt
      exact Or.inl ⟨rfl, member, ownFrame⟩
    · refine Or.inr ⟨owner, ownFrame, ?_⟩
      apply kept owner other attachedThere
      intro sameStream sameChannel
      exact exempt ⟨sameStream, sameChannel⟩

theorem Anchored.clear
    {env : Env} {world next : World} (anchored : Anchored world)
    (sound : SoundTables world) {stream : StreamPtr} {slot : Slot}
    (returned : World.clear env world stream slot = some next) :
    Anchored next := by
  rcases clear_eq_some returned with
    ⟨_, same⟩ | ⟨channel, sid, copies, attached, found, copied, folded⟩
  · rw [same]
    exact anchored
  · have onTime :
        ∀ entry ∈ copies, entry.2.frame.late = false :=
      fun entry member => sound.onTime channel entry (copied.subset member)
    have entered :
        ∀ entry ∈ copies,
          entry.2.id <
            (world.unregister stream slot channel sid).tick.clock :=
      fun entry member =>
        Nat.lt_succ_of_lt
          (sound.entered channel entry (copied.subset member))
    have handedBack :
        AnchoredExcept (EntriesOf world stream channel) next := by
      refine
        foldlM_invariant
          (AnchoredExcept (EntriesOf world stream channel)) ?_ ?_ folded
      · intro entry member before after kept passed
        rcases clearEntry_cases (onTime entry member) passed with
          ⟨_, same⟩ | ⟨owned, reached, back, erased⟩
        · rw [same]
          exact kept
        · rw [erased]
          exact (kept.returned owned back).eraseWaitingAck channel entry.1
      · exact (anchored.unregister attached found).quietSteps
          (quietSteps_tick _)
    refine ⟨handedBack.owned, handedBack.line, ?_⟩
    intro other entry member
    refine Or.inr ((handedBack.owners other entry member).resolve_left ?_)
    rintro ⟨rfl, old, owned⟩
    exact
      clearEntry_fold_removes onTime entered folded
        (copied.mem_iff.mpr old) owned member

/-- What is known between two calls, and between two passes of a loop. -/
structure Settled (world : World) : Prop where
  sound : SoundTables world
  anchored : Anchored world

theorem Settled.foldlM
    {α : Type} {pass : World → α → Option World} {items : List α}
    {world next : World} (settled : Settled world)
    (passes :
      ∀ item ∈ items, ∀ before after,
        Settled before → pass before item = some after → Settled after)
    (folded : items.foldlM pass world = some next) :
    Settled next :=
  foldlM_invariant Settled passes settled folded

theorem Settled.clear
    {env : Env} {world next : World} (settled : Settled world)
    {stream : StreamPtr} {slot : Slot}
    (returned : World.clear env world stream slot = some next) :
    Settled next where
  sound := (clear_steps returned).soundTables settled.sound
  anchored := settled.anchored.clear settled.sound returned

theorem Settled.quietSteps
    {world next : World} (settled : Settled world)
    (steps : QuietSteps world next) :
    Settled next where
  sound := steps.steps.soundTables settled.sound
  anchored := settled.anchored.quietSteps steps

theorem Settled.missedOne
    {env : Env} {channel : ChannelPtr} {world next : World}
    {txseq : PacketSeq} (settled : Settled world)
    (returned : World.missedOne env channel world txseq = some next) :
    Settled next where
  sound :=
    (steps_acrossReturns.missedOne returned).soundTables settled.sound
  anchored := by
    rcases missedOne_cases settled.sound returned with
      ⟨_, same⟩ | ⟨entry, owner, middle, _, owned, back, reached⟩
    · rw [same]
      exact settled.anchored
    · have handed := settled.anchored.returned owned back
      rcases reached with same | erased
      · rw [same]
        exact handed
      · rw [erased]
        exact handed.eraseWaitingAck channel txseq

theorem Settled.acknowledgedOne
    {channel : ChannelPtr} {world next : World} {txseq : PacketSeq}
    (settled : Settled world)
    (returned : World.acknowledgedOne channel world txseq = some next) :
    Settled next where
  sound :=
    (steps_acrossReturns.acknowledgedOne returned).soundTables settled.sound
  anchored := by
    rcases acknowledgedOne_eq_some returned with
      unchanged | ⟨entry, _, erased⟩
    · rw [unchanged]
      exact settled.anchored
    · rw [erased]
      exact (settled.anchored.eraseWaitingAck channel txseq).record _

theorem Settled.expireOne
    {world : World} (settled : Settled world) (channel : ChannelPtr)
    (txseq : PacketSeq) :
    Settled (World.expireOne channel world txseq) where
  sound :=
    (steps_acrossReturns.expireOne channel world txseq).soundTables
      settled.sound
  anchored := by
    rcases expireOne_cases channel world txseq with
      unchanged | erased | ⟨entry, _, erased⟩
    · rw [unchanged]
      exact settled.anchored
    · rw [erased]
      exact settled.anchored.eraseWaitingAck channel txseq
    · rw [erased]
      exact (settled.anchored.eraseWaitingAck channel txseq).record _

theorem Settled.detachEntry
    {env : Env} {world next : World}
    {copied : PacketSeq × WaitingFrame} (settled : Settled world)
    (onTime : copied.2.frame.late = false)
    (returned : World.detachEntry env world copied = some next) :
    Settled next where
  sound :=
    (steps_acrossReturns.detachEntry returned).soundTables settled.sound
  anchored := by
    obtain ⟨owner, owned, back⟩ := detachEntry_cases onTime returned
    exact settled.anchored.returned owned back

theorem Settled.detachAll
    {env : Env} {world next : World} (settled : Settled world)
    {channel : ChannelPtr}
    (returned : World.detachAll env world channel = some next) :
    Settled next := by
  obtain ⟨middle, copies, sids, copiedAll, _, cleared, returned⟩ :=
    detachAll_eq_some returned
  have emptied :
      Settled
        (world.modifyChannel channel fun entry =>
          { entry with waitingAck := [] }) :=
    ⟨(shrinkTable_steps world channel (fun _ => [])
        (List.nil_sublist _)).soundTables settled.sound,
      settled.anchored.shrinkTable channel (fun _ => [])
        fun _ => List.nil_sublist _⟩
  have ticked :=
    (emptied.quietSteps (quietSteps_tick _)).quietSteps
      (quietSteps_tick _)
  have detached : Settled middle :=
    ticked.foldlM (fun _ _ _ _ before passed => before.clear passed)
      cleared
  refine detached.foldlM ?_ returned
  intro copied member before after kept passed
  have listed := copiedAll.subset member
  exact kept.detachEntry (settled.sound.onTime channel copied listed) passed

theorem Settled.stop
    {env : Env} {world next : World} (settled : Settled world)
    {channel : ChannelPtr}
    (returned : World.stop env world channel = some next) :
    Settled next := by
  obtain ⟨middle, sids, rsids, pass, rxPass, _, _, passes, rxPasses,
    cleared, returned⟩ := stop_eq_some returned
  have stopped :=
    (settled.quietSteps
      (quietSteps_modifyChannel world channel
        (fun entry => { entry with active := false }) rfl rfl
        rfl)).quietSteps (quietSteps_tick _)
  have detached : Settled middle := by
    refine stopped.foldlM ?_ cleared
    intro entry _ before after kept passed
    exact kept.clear (passes before entry after passed).2
  refine (detached.quietSteps (quietSteps_tick _)).foldlM ?_ returned
  intro entry _ before after kept passed
  exact kept.quietSteps (rxClear_steps (rxPasses before entry after passed))

theorem Settled.call
    {env : Env} {world next : World} {call : Call}
    (settled : Settled world)
    (returned : call.run env world = some next) :
    Settled next := by
  cases call with
  | stop channel =>
      exact settled.stop returned
  | detachAll channel =>
      exact settled.detachAll returned
  | clear stream slot =>
      exact settled.clear returned
  | acknowledged channel txseq npackets =>
      exact
        settled.foldlM
          (fun _ _ _ _ before passed => before.acknowledgedOne passed)
          returned
  | missed channel txseq npackets =>
      exact
        settled.foldlM
          (fun _ _ _ _ before passed => before.missedOne passed) returned
  | expire channel txseq npackets =>
      cases returned
      exact
        List.foldlRecOn _ _ settled
          fun _ before txseq _ => before.expireOne channel txseq
  | _ =>
      refine settled.quietSteps (Call.run_quietSteps ?_ returned)
      exact not_false

private theorem settled_of_initial
    {world : World} (initial : world.Initial) :
    Settled world where
  sound := soundTables_of_initial initial
  anchored := by
    refine ⟨ownedQueues_of_initial initial, ?_, ?_⟩
    · intro channel stream member
      rw [initial.sendingStreams] at member
      cases member
    · intro channel copied member
      rw [initial.waitingAck] at member
      cases member

theorem CallRun.settled
    {env : Env} {start final : World} {calls : List Call}
    (initial : start.Initial) (run : CallRun env start calls final) :
    Settled final :=
  run.induct (fun _ world => Settled world) (settled_of_initial initial)
    fun _ _ _ _ _ settled returned => settled.call returned

/-- The entry was handed to the `missed` or `expire` of its owner. -/
def Event.handsBack (id : Nat) : Event → Bool
  | .missed other => other == id
  | .expired other => other == id
  | _ => false

def World.timesHandedBack (world : World) (id : Nat) : Nat :=
  world.log.countP (Event.handsBack id)

private theorem Silent.timesHandedBack
    {world next : World} (silent : Silent world next) (id : Nat) :
    next.timesHandedBack id = world.timesHandedBack id := by
  obtain ⟨added, nextLog, unrelated⟩ := silent.log
  have nothing : added.countP (Event.handsBack id) = 0 := by
    apply List.countP_eq_zero.mpr
    intro event member
    have noEntry := unrelated event member
    cases event with
    | missed other =>
        cases noEntry
    | expired other =>
        cases noEntry
    | enqueued | transmitted | cleared | acknowledged =>
        exact Bool.false_ne_true
  rw [World.timesHandedBack, World.timesHandedBack, nextLog,
    List.countP_append, nothing, Nat.zero_add]

private theorem ReportsMissed.timesHandedBack
    {world next : World} {reported : Nat}
    (reports : ReportsMissed world reported next) (id : Nat) :
    next.timesHandedBack id =
      world.timesHandedBack id + if reported == id then 1 else 0 := by
  rw [reports.silent.timesHandedBack]
  exact List.countP_cons

/-- The entries of a copy are returned one after the other, those that are
not relevant left out. -/
theorem return_fold_timesHandedBack
    {pass : World → PacketSeq × WaitingFrame → Option World}
    (relevant : PacketSeq × WaitingFrame → Bool)
    {copies : List (PacketSeq × WaitingFrame)} {world next : World}
    (passes :
      ∀ copied ∈ copies, ∀ before after,
        pass before copied = some after →
        relevant copied = false ∧ after = before ∨
          relevant copied = true ∧
            ReportsMissed before copied.2.id after)
    (folded : copies.foldlM pass world = some next) (id : Nat) :
    next.timesHandedBack id =
      world.timesHandedBack id +
        copies.countP fun copied =>
          relevant copied && copied.2.id == id := by
  induction copies generalizing world with
  | nil =>
      cases folded
      rfl
  | cons first copies inductionHypothesis =>
      rw [List.foldlM_cons, bind_eq_some_iff] at folded
      obtain ⟨middle, passed, folded⟩ := folded
      have later :=
        inductionHypothesis
          (fun copied member =>
            passes copied (List.mem_cons_of_mem first member))
          folded
      rw [later, List.countP_cons]
      rcases passes first List.mem_cons_self world middle passed with
        ⟨irrelevant, same⟩ | ⟨isRelevant, reports⟩
      · rw [same, irrelevant]
        rfl
      · rw [reports.timesHandedBack id, isRelevant, Bool.true_and]
        omega

/-- An entry is counted once if it is there. -/
theorem countP_only
    (relevant : PacketSeq × WaitingFrame → Bool)
    {copies : List (PacketSeq × WaitingFrame)} (nodup : copies.Nodup)
    {copied : PacketSeq × WaitingFrame}
    (only :
      ∀ other ∈ copies, other.2.id = copied.2.id → other = copied) :
    (copies.countP fun other =>
        relevant other && other.2.id == copied.2.id) =
      if relevant copied = true ∧ copied ∈ copies then 1 else 0 := by
  by_cases isRelevant : relevant copied = true
  · have same :
        (copies.countP fun other =>
            relevant other && other.2.id == copied.2.id) =
          copies.count copied := by
      apply List.countP_congr
      intro other member
      constructor
      · intro counted
        rw [Bool.and_eq_true, beq_iff_eq] at counted
        rw [only other member counted.2]
        exact beq_self_eq_true copied
      · intro equal
        rw [beq_iff_eq] at equal
        rw [equal, isRelevant, Bool.true_and, beq_iff_eq]
    rw [same]
    by_cases member : copied ∈ copies
    · rw [if_pos ⟨isRelevant, member⟩]
      exact List.count_eq_one_of_mem nodup member
    · rw [if_neg (fun both => member both.2)]
      exact List.count_eq_zero_of_not_mem member
  · rw [if_neg (fun both => isRelevant both.1)]
    apply List.countP_eq_zero.mpr
    intro other member counted
    rw [Bool.and_eq_true, beq_iff_eq] at counted
    rw [only other member counted.2] at counted
    exact isRelevant counted.1

/-- Clearing an attachment hands the entries of its stream back. -/
theorem clear_timesHandedBack
    {env : Env} {world next : World} {stream : StreamPtr} {slot : Slot}
    {channel : ChannelPtr} (sound : SoundTables world)
    (attached :
      ((world.streams stream).txAttachments slot).channel = some channel)
    (returned : clear env world stream slot = some next)
    {copied : PacketSeq × WaitingFrame}
    (only :
      ∀ other ∈ (world.channels channel).waitingAck,
        other.2.id = copied.2.id → other = copied) :
    next.timesHandedBack copied.2.id =
      world.timesHandedBack copied.2.id +
        if copied.2.frame.owner = some stream ∧
            copied ∈ (world.channels channel).waitingAck then 1
        else 0 := by
  rcases clear_cases returned with
    ⟨detached, _⟩ | ⟨cleared, middle, copies, clearedOn, detaches, listed,
      folded⟩
  · rw [attached] at detached
    cases detached
  · have sameChannel : cleared = channel :=
      Option.some.inj (clearedOn.symm.trans attached)
    subst cleared
    have counted :=
      return_fold_timesHandedBack
        (fun entry => entry.2.frame.owner == some stream)
        (fun entry member before after passed => by
          have onTime :=
            sound.onTime channel entry (listed.subset member)
          rcases clearEntry_cases onTime passed with
            ⟨other, same⟩ | ⟨owned, reached, back, erased⟩
          · exact Or.inl ⟨beq_eq_false_iff_ne.mpr other, same⟩
          · refine Or.inr ⟨beq_iff_eq.mpr owned, ?_⟩
            rw [erased]
            exact (back.reportsMissed owned).eraseWaitingAck _ _)
        folded copied.2.id
    have nodup : copies.Nodup :=
      listed.nodup_iff.mpr (sound.distinctKeys channel).nodup
    rw [counted, detaches.silent.timesHandedBack,
      countP_only _ nodup fun other member =>
        only other (listed.subset member)]
    simp only [beq_iff_eq, listed.mem_iff]

/-- An entry on its way through `stop`: it waits and was not handed back
since, or it was handed back once and waits no more. -/
structure Followed
    (start : World) (channel : ChannelPtr)
    (copied : PacketSeq × WaitingFrame) (world : World) : Prop where
  sound : SoundTables world
  gains : GainsNew start world
  counted :
    copied ∈ (world.channels channel).waitingAck ∧
        world.timesHandedBack copied.2.id =
          start.timesHandedBack copied.2.id ∨
      copied ∉ (world.channels channel).waitingAck ∧
        world.timesHandedBack copied.2.id =
          start.timesHandedBack copied.2.id + 1

theorem Followed.clear
    {env : Env} {start world next : World} {channel : ChannelPtr}
    {copied : PacketSeq × WaitingFrame}
    (startSound : SoundTables start)
    (waiting : copied ∈ (start.channels channel).waitingAck)
    (followed : Followed start channel copied world)
    {stream : StreamPtr} {slot : Slot}
    (attached :
      ((world.streams stream).txAttachments slot).channel = some channel)
    (returned : World.clear env world stream slot = some next) :
    Followed start channel copied next := by
  have gains := (clear_steps returned).gainsNew
  have entered : copied.2.id < start.clock :=
    startSound.entered channel copied waiting
  have only :
      ∀ other ∈ (world.channels channel).waitingAck,
        other.2.id = copied.2.id → other = copied := by
    intro other member same
    rcases followed.gains.entries channel other member with old | isNew
    · exact
        (startSound.sameId channel channel other old copied waiting
          same).2
    · omega
  have counted :=
    clear_timesHandedBack followed.sound attached returned only
  refine ⟨(clear_steps returned).soundTables followed.sound,
    followed.gains.trans gains, ?_⟩
  rcases followed.counted with ⟨member, before⟩ | ⟨absent, before⟩
  · by_cases owned : copied.2.frame.owner = some stream
    · rw [if_pos ⟨owned, member⟩, before] at counted
      refine Or.inr ⟨?_, counted⟩
      rcases clear_cases returned with
        ⟨detached, _⟩ | ⟨cleared, middle, copies, clearedOn, detaches,
          listed, folded⟩
      · rw [attached] at detached
        cases detached
      · have sameChannel : cleared = channel :=
          Option.some.inj (clearedOn.symm.trans attached)
        subst cleared
        refine
          clearEntry_fold_removes ?_ ?_ folded (listed.mem_iff.mpr member)
            owned
        · intro entry inCopies
          exact
            followed.sound.onTime channel entry (listed.subset inCopies)
        · intro entry inCopies
          exact
            Nat.lt_of_lt_of_le
              (followed.sound.entered channel entry
                (listed.subset inCopies))
              detaches.steps.gainsNew.clock
    · rw [if_neg (fun both => owned both.1), before] at counted
      exact
        Or.inl
          ⟨clear_keeps followed.sound attached returned member owned,
            counted⟩
  · rw [if_neg (fun both => absent both.2), before] at counted
    refine Or.inr ⟨gains.not_mem absent ?_, counted⟩
    exact Nat.lt_of_lt_of_le entered followed.gains.clock

end StructuredStreams.Stream
