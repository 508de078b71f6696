import StructuredStreams.Foundation.Table
import StructuredStreams.Stream.Steps

/-!
# Frames that wait for an acknowledgment

What every run keeps of the `waiting_ack_` tables and of the tables of
attachments, and how the calls that return frames go through a table.
-/

namespace StructuredStreams.Stream

open World

/-- Entries are numbered by the time they were entered, no two of them at the
same time, and no entry of a table is marked late. -/
structure SoundTables (world : World) : Prop where
  distinctKeys :
    ∀ channel, DistinctKeys (world.channels channel).waitingAck
  entered :
    ∀ channel, ∀ copied ∈ (world.channels channel).waitingAck,
      copied.2.id < world.clock
  onTime :
    ∀ channel, ∀ copied ∈ (world.channels channel).waitingAck,
      copied.2.frame.late = false
  sameId :
    ∀ channel other,
      ∀ copied ∈ (world.channels channel).waitingAck,
      ∀ otherCopied ∈ (world.channels other).waitingAck,
        copied.2.id = otherCopied.2.id →
        channel = other ∧ copied = otherCopied

/-- The tables stay, but for one entry that is entered now. -/
structure Enters
    (world next : World) (channel : ChannelPtr) (pktseq : PacketSeq)
    (frame : TxFrame) : Prop where
  onTime : frame.late = false
  unused : (world.channels channel).waitingAck.lookup pktseq = none
  table :
    (next.channels channel).waitingAck =
      (pktseq, ⟨frame, world.clock⟩) ::
        (world.channels channel).waitingAck
  others :
    ∀ other, other ≠ channel →
      (next.channels other).waitingAck =
        (world.channels other).waitingAck
  clock : next.clock = world.clock + 1

theorem Enters.mem_iff
    {world next : World} {channel : ChannelPtr} {pktseq : PacketSeq}
    {frame : TxFrame} (enters : Enters world next channel pktseq frame)
    (other : ChannelPtr) (copied : PacketSeq × WaitingFrame) :
    copied ∈ (next.channels other).waitingAck ↔
      copied ∈ (world.channels other).waitingAck ∨
        other = channel ∧ copied = (pktseq, ⟨frame, world.clock⟩) := by
  by_cases same : other = channel
  · subst other
    rw [enters.table, List.mem_cons]
    constructor
    · intro member
      exact member.symm.imp_right fun isNew => ⟨rfl, isNew⟩
    · intro member
      exact (member.imp_right And.right).symm
  · rw [enters.others other same]
    constructor
    · exact Or.inl
    · intro member
      exact member.resolve_right fun isNew => same isNew.1

theorem insertWaitingAck_enters
    (world : World) (channel : ChannelPtr) (pktseq : PacketSeq)
    {frame : TxFrame} (onTime : frame.late = false) :
    (∀ other,
      ((world.insertWaitingAck channel pktseq frame).channels
          other).waitingAck =
        (world.channels other).waitingAck) ∨
      Enters world (world.insertWaitingAck channel pktseq frame)
        channel pktseq frame := by
  cases found : (world.channels channel).waitingAck.lookup pktseq with
  | some entry =>
      refine Or.inl fun other => ?_
      rw [insertWaitingAck, tick_channels]
      refine
        modifyChannel_field world StreamChannel.waitingAck channel _ ?_
          other
      simp [found]
  | none =>
      refine Or.inr ⟨onTime, found, ?_, ?_, rfl⟩
      · rw [insertWaitingAck, tick_channels, modifyChannel_channels_self]
        simp [found]
      · intro other different
        rw [insertWaitingAck, tick_channels,
          modifyChannel_channels_of_ne world different]

theorem TxStep.waitingAck_cases
    {world next : World} (step : TxStep world next) :
    (∀ channel,
      (next.channels channel).waitingAck =
        (world.channels channel).waitingAck) ∨
      ∃ channel pktseq frame,
        Enters world next channel pktseq frame := by
  cases step with
  | tick | collect | charge =>
      exact Or.inl fun _ => rfl
  | join channel stream current notEnqueued =>
      refine Or.inl fun other => ?_
      rw [setTxEnqueuedChannel, modifyStream_channels, enqueueStream]
      exact
        modifyChannel_field world StreamChannel.waitingAck channel _ rfl
          other
  | take channel stream rest sending enqueued current =>
      refine Or.inl fun other => ?_
      rw [setTxEnqueuedChannel, modifyStream_channels]
      exact
        modifyChannel_field world StreamChannel.waitingAck channel _ rfl
          other
  | adopt stream channel =>
      obtain ⟨parent, isAdopted⟩ := adoptRoot_eq world stream channel
      rw [isAdopted]
      exact Or.inl fun _ => rfl
  | send stream channel head rest pktseq queue =>
      apply (insertWaitingAck_enters _ channel pktseq rfl).imp_right
      intro enters
      exact ⟨channel, pktseq, _, enters.onTime, enters.unused,
        enters.table, enters.others, enters.clock⟩
  | attach stream channel pktseq =>
      exact
        (insertWaitingAck_enters world channel pktseq rfl).imp_right
          fun enters => ⟨channel, pktseq, _, enters⟩

theorem unregister_waitingAck
    (world : World) (stream : StreamPtr) (slot : Slot)
    (channel : ChannelPtr) (sid : LocalStreamId) (other : ChannelPtr) :
    ((world.unregister stream slot channel sid).channels
        other).waitingAck =
      (world.channels other).waitingAck := by
  by_cases same : other = channel
  · subst other
    rw [unregister_channels_self]
  · rw [unregister_channels_of_ne world stream slot same]

theorem QuietStep.waitingAck_cases
    {world next : World} (step : QuietStep world next) :
    (∀ channel,
      (next.channels channel).waitingAck =
        (world.channels channel).waitingAck) ∨
      ∃ channel pktseq frame,
        Enters world next channel pktseq frame := by
  cases step with
  | transmit step =>
      exact step.waitingAck_cases
  | insertPacket | setCurrent =>
      exact Or.inl fun _ => rfl
  | reprioritise channel stream enqueued current =>
      refine Or.inl fun other => ?_
      rw [enqueueStream]
      refine
        (modifyChannel_field (world.dequeueStream channel stream)
          StreamChannel.waitingAck channel _ ?_ other).trans ?_
      · rfl
      · rw [dequeueStream]
        exact
          modifyChannel_field world StreamChannel.waitingAck channel _
            rfl other
  | setAttaching stream slot channel attachment free unregistered =>
      exact
        Or.inl
          (modifyChannel_field _ StreamChannel.waitingAck channel _ rfl)
  | other keeps tables _ =>
      exact Or.inl tables

theorem SoundTables.sublist
    {world next : World} (sound : SoundTables world)
    (shorter :
      ∀ channel,
        (next.channels channel).waitingAck.Sublist
          (world.channels channel).waitingAck)
    (clock : world.clock ≤ next.clock) :
    SoundTables next where
  distinctKeys := fun channel =>
    (sound.distinctKeys channel).sublist (shorter channel)
  entered := fun channel copied member =>
    Nat.lt_of_lt_of_le
      (sound.entered channel copied ((shorter channel).subset member))
      clock
  onTime := fun channel copied member =>
    sound.onTime channel copied ((shorter channel).subset member)
  sameId := fun channel other copied member otherCopied otherMember =>
    sound.sameId channel other copied ((shorter channel).subset member)
      otherCopied ((shorter other).subset otherMember)

theorem SoundTables.enters
    {world next : World} (sound : SoundTables world)
    {channel : ChannelPtr} {pktseq : PacketSeq} {frame : TxFrame}
    (enters : Enters world next channel pktseq frame) :
    SoundTables next where
  distinctKeys := by
    intro other
    by_cases same : other = channel
    · subst other
      rw [enters.table]
      exact (sound.distinctKeys channel).cons _ enters.unused
    · rw [enters.others other same]
      exact sound.distinctKeys other
  entered := by
    intro other copied member
    rw [enters.clock]
    rcases (enters.mem_iff other copied).mp member with
      old | ⟨_, isNew⟩
    · exact Nat.lt_succ_of_lt (sound.entered other copied old)
    · rw [isNew]
      exact Nat.lt_succ_self world.clock
  onTime := by
    intro other copied member
    rcases (enters.mem_iff other copied).mp member with
      old | ⟨_, isNew⟩
    · exact sound.onTime other copied old
    · rw [isNew]
      exact enters.onTime
  sameId := by
    intro first second copied member otherCopied otherMember same
    rcases (enters.mem_iff first copied).mp member with
      old | ⟨firstChannel, isNew⟩
    · have earlier := sound.entered first copied old
      rcases (enters.mem_iff second otherCopied).mp otherMember with
        otherOld | ⟨_, otherNew⟩
      · exact
          sound.sameId first second copied old otherCopied otherOld same
      · rw [otherNew] at same
        exact absurd same (Nat.ne_of_lt earlier)
    · rcases (enters.mem_iff second otherCopied).mp otherMember with
        otherOld | ⟨secondChannel, otherNew⟩
      · have earlier := sound.entered second otherCopied otherOld
        rw [isNew] at same
        exact absurd same.symm (Nat.ne_of_lt earlier)
      · exact ⟨firstChannel.trans secondChannel.symm,
          isNew.trans otherNew.symm⟩

theorem SoundTables.distinctIds
    {world : World} (sound : SoundTables world) {channel : ChannelPtr}
    {copies : List (PacketSeq × WaitingFrame)}
    (copied : copies.Perm (world.channels channel).waitingAck) :
    copies.Pairwise fun first second => first.2.id ≠ second.2.id := by
  have nodup : copies.Nodup :=
    copied.nodup_iff.mpr (sound.distinctKeys channel).nodup
  apply nodup.pairwise_of_forall_ne
  intro first member second otherMember different same
  have sameEntry :=
    sound.sameId channel channel first (copied.subset member) second
      (copied.subset otherMember) same
  exact different sameEntry.2

theorem soundTables_step
    {world next : World} (step : Step world next)
    (sound : SoundTables world) :
    SoundTables next := by
  cases step with
  | quiet step =>
      rcases step.waitingAck_cases with
        same | ⟨channel, pktseq, frame, enters⟩
      · refine sound.sublist (fun channel => ?_) step.clock_le
        rw [same channel]
      · exact sound.enters enters
  | unregister stream slot channel sid attached registered =>
      refine sound.sublist (fun other => ?_) (Nat.le_refl _)
      rw [unregister_waitingAck]
  | account keeps shorter =>
      exact sound.sublist shorter keeps.clock

theorem Steps.soundTables
    {world next : World} (steps : Steps world next)
    (sound : SoundTables world) :
    SoundTables next :=
  steps.preserves (fun _ _ => soundTables_step) sound

theorem soundTables_of_initial
    {world : World} (initial : world.Initial) :
    SoundTables world := by
  have empty := initial.waitingAck
  refine ⟨?_, ?_, ?_, ?_⟩
  · intro channel
    rw [empty]
    exact DistinctKeys.nil
  · intro channel copied member
    rw [empty] at member
    cases member
  · intro channel copied member
    rw [empty] at member
    cases member
  · intro channel other copied member
    rw [empty] at member
    cases member

/-- Quiet steps take nothing from a table. -/
theorem QuietSteps.keeps
    {world next : World} (steps : QuietSteps world next)
    {channel : ChannelPtr} {copied : PacketSeq × WaitingFrame}
    (member : copied ∈ (world.channels channel).waitingAck) :
    copied ∈ (next.channels channel).waitingAck := by
  induction steps with
  | refl =>
      exact member
  | tail _ step inductionHypothesis =>
      rcases step.waitingAck_cases with
        same | ⟨changed, pktseq, frame, enters⟩
      · rw [same channel]
        exact inductionHypothesis
      · exact
          (enters.mem_iff channel copied).mpr
            (Or.inl inductionHypothesis)

/-- Tables gain only entries that are new. -/
structure GainsNew (world next : World) : Prop where
  clock : world.clock ≤ next.clock
  entries :
    ∀ channel, ∀ copied ∈ (next.channels channel).waitingAck,
      copied ∈ (world.channels channel).waitingAck ∨
        world.clock ≤ copied.2.id

theorem GainsNew.refl (world : World) : GainsNew world world where
  clock := Nat.le_refl _
  entries := fun _ _ => Or.inl

theorem GainsNew.trans
    {world middle next : World} (first : GainsNew world middle)
    (second : GainsNew middle next) :
    GainsNew world next where
  clock := Nat.le_trans first.clock second.clock
  entries := by
    intro channel copied member
    rcases second.entries channel copied member with old | isNew
    · exact first.entries channel copied old
    · exact Or.inr (Nat.le_trans first.clock isNew)

theorem Step.gainsNew
    {world next : World} (step : Step world next) :
    GainsNew world next where
  clock := step.clock_le
  entries := by
    intro channel copied member
    cases step with
    | quiet step =>
        rcases step.waitingAck_cases with
          same | ⟨changed, pktseq, frame, enters⟩
        · rw [same channel] at member
          exact Or.inl member
        · apply ((enters.mem_iff channel copied).mp member).imp_right
          intro isNew
          exact Nat.le_of_eq (by rw [isNew.2])
    | unregister stream slot cleared sid attached registered =>
        rw [unregister_waitingAck] at member
        exact Or.inl member
    | account keeps shorter =>
        exact Or.inl ((shorter channel).subset member)

theorem Steps.gainsNew
    {world next : World} (steps : Steps world next) :
    GainsNew world next := by
  induction steps with
  | refl =>
      exact GainsNew.refl world
  | tail _ step inductionHypothesis =>
      exact inductionHypothesis.trans step.gainsNew

/-- An entry that has left a table does not come back. -/
theorem GainsNew.not_mem
    {world next : World} (gains : GainsNew world next)
    {channel : ChannelPtr} {copied : PacketSeq × WaitingFrame}
    (absent : copied ∉ (world.channels channel).waitingAck)
    (entered : copied.2.id < world.clock) :
    copied ∉ (next.channels channel).waitingAck := by
  intro member
  rcases gains.entries channel copied member with old | isNew
  · exact absent old
  · omega

/-- The entries of `transmit_sids_` are attachments to the channel. -/
def Registered (world : World) : Prop :=
  ∀ channel, ∀ entry ∈ (world.channels channel).transmitSids,
    ((world.streams entry.2.1).txAttachments entry.2.2).channel =
        some channel ∧
      ((world.streams entry.2.1).txAttachments entry.2.2).streamId =
        entry.1

theorem TxStep.txAttachments
    {world next : World} (step : TxStep world next)
    (stream : StreamPtr) :
    (next.streams stream).txAttachments =
      (world.streams stream).txAttachments :=
  step.stream_field (fun _ _ => rfl) (fun _ _ => rfl) (fun _ _ => rfl)
    (fun _ _ => rfl) stream

theorem TxStep.transmitSids
    {world next : World} (step : TxStep world next)
    (channel : ChannelPtr) :
    (next.channels channel).transmitSids =
      (world.channels channel).transmitSids :=
  step.channel_field (fun _ _ => rfl) (fun _ _ => rfl) channel

end StructuredStreams.Stream
