import StructuredStreams.Foundation.Ledger
import StructuredStreams.Stream.Attachments

/-!
# Reports on waiting frames

Which reports the owner of a waiting frame gets.  `stream_channel::missed`
marks its own copy of an entry late and leaves the entry of the table as it
was, so that an entry that stays is returned again by the next call that
covers it.  Where no call covers an entry that was returned before, an owner
gets one report of a miss for an entry, and none after the entry was
acknowledged or expired.
-/

namespace StructuredStreams.Stream

open World

def Event.Settles : Event → Prop
  | .acknowledged _ => True
  | .expired _ => True
  | _ => False

/-- No call was made on the owner for the entry. -/
def Unreported (world : World) (id : Nat) : Prop :=
  ∀ event ∈ world.log, event.entry ≠ some id

/-- What the tables and the history have to do with each other. -/
structure AckLedger (world : World) : Prop where
  sound : SoundTables world
  past :
    ∀ event ∈ world.log, ∀ id, event.entry = some id → id < world.clock
  unsettled :
    ∀ channel, ∀ copied ∈ (world.channels channel).waitingAck,
      ∀ event ∈ world.log,
        event.entry = some copied.2.id → ¬ event.Settles
  once : OnceOnly Event.entry Event.Settles world.log

private theorem AckLedger.unreported_of_new
    {world : World} (ledger : AckLedger world) {id : Nat}
    (isNew : world.clock ≤ id) :
    Unreported world id := by
  intro event member reported
  have earlier := ledger.past event member id reported
  omega

/-- An entry of a table that was not returned yet has had no report. -/
theorem AckLedger.unreported
    {world : World} (ledger : AckLedger world)
    {channel : ChannelPtr} {copied : PacketSeq × WaitingFrame}
    (member : copied ∈ (world.channels channel).waitingAck)
    (fresh : Event.missed copied.2.id ∉ world.log) :
    Unreported world copied.2.id := by
  intro event logged reported
  have pending :=
    ledger.unsettled channel copied member event logged reported
  cases event with
  | missed id =>
      injection reported with same
      rw [same] at logged
      exact fresh logged
  | acknowledged id =>
      exact pending trivial
  | expired id =>
      exact pending trivial
  | enqueued | transmitted | cleared =>
      cases reported

/-- Small steps without a report to an owner. -/
structure Silent (world next : World) : Prop where
  steps : Steps world next
  log :
    ∃ added,
      next.log = added ++ world.log ∧
        ∀ event ∈ added, event.entry = none

theorem Silent.reported
    {world next : World} (silent : Silent world next)
    {event : Event} (member : event ∈ next.log) {id : Nat}
    (reported : event.entry = some id) :
    event ∈ world.log := by
  obtain ⟨added, nextLog, unrelated⟩ := silent.log
  rw [nextLog] at member
  rcases List.mem_append.mp member with isNew | old
  · rw [unrelated event isNew] at reported
    cases reported
  · exact old

theorem AckLedger.silent
    {world next : World} (ledger : AckLedger world)
    (silent : Silent world next) :
    AckLedger next where
  sound := silent.steps.soundTables ledger.sound
  past := by
    intro event member id reported
    have earlier :=
      ledger.past event (silent.reported member reported) id reported
    exact Nat.lt_of_lt_of_le earlier silent.steps.gainsNew.clock
  unsettled := by
    intro channel copied member event logged reported
    have old := silent.reported logged reported
    rcases silent.steps.gainsNew.entries channel copied member with
      waiting | isNew
    · exact
        ledger.unsettled channel copied waiting event old reported
    · exact
        absurd reported (ledger.unreported_of_new isNew event old)
  once := by
    obtain ⟨added, nextLog, unrelated⟩ := silent.log
    rw [nextLog]
    exact ledger.once.silent unrelated

private theorem Silent.of_log_eq
    {world next : World} (steps : Steps world next)
    (sameLog : next.log = world.log) :
    Silent world next :=
  ⟨steps, [], sameLog, fun _ member => absurd member List.not_mem_nil⟩

theorem QuietSteps.silent
    {world next : World} (steps : QuietSteps world next) :
    Silent world next := by
  refine ⟨steps.steps, ?_⟩
  induction steps with
  | refl =>
      exact ⟨[], rfl, fun _ member => absurd member List.not_mem_nil⟩
  | tail _ step inductionHypothesis =>
      obtain ⟨added, middleLog, unrelated⟩ := inductionHypothesis
      rcases step.log_extends with same | ⟨event, nothing, longer⟩
      · exact ⟨added, same.trans middleLog, unrelated⟩
      · refine ⟨event :: added, ?_, ?_⟩
        · rw [longer, middleLog]
          rfl
        · intro other member
          rcases List.mem_cons.mp member with latest | earlier
          · rw [latest]
            exact nothing
          · exact unrelated other earlier

theorem OnlyDetaches.silent
    {world next : World} (detaches : OnlyDetaches world next) :
    Silent world next := by
  obtain ⟨added, nextLog, cleared⟩ := detaches.log
  refine ⟨detaches.steps, added, nextLog, ?_⟩
  intro event member
  obtain ⟨stream, channel, enqueuedOn, isCleared⟩ := cleared event member
  rw [isCleared]
  rfl

/-- Small steps with one report, which is of a miss. -/
structure ReportsMissed (world : World) (id : Nat) (next : World) :
    Prop where
  steps : Steps world next
  silent : Silent (world.record (.missed id)) next

theorem Returned.reportsMissed
    {world next : World} {owner : StreamPtr} {entry : WaitingFrame}
    (returned : Returned world owner entry next)
    (owned : entry.frame.owner = some owner) :
    ReportsMissed world entry.id next :=
  ⟨returned.steps owned, (returned.quietSteps owned).silent⟩

theorem ReportsMissed.eraseWaitingAck
    {world next : World} {id : Nat}
    (reports : ReportsMissed world id next)
    (channel : ChannelPtr) (pktseq : PacketSeq) :
    ReportsMissed world id (next.eraseWaitingAck channel pktseq) := by
  have erased := eraseWaitingAck_steps next channel pktseq
  exact
    ⟨reports.steps.trans erased, reports.silent.steps.trans erased,
      reports.silent.log⟩

theorem ReportsMissed.reported
    {world next : World} {id : Nat}
    (reports : ReportsMissed world id next)
    {event : Event} (member : event ∈ next.log) {other : Nat}
    (reported : event.entry = some other) :
    event ∈ world.log ∨ event = .missed id := by
  have old := reports.silent.reported member reported
  exact (List.mem_cons.mp old).symm

theorem ReportsMissed.unreported
    {world next : World} {id other : Nat}
    (reports : ReportsMissed world id next)
    (unreported : Unreported world other) (different : other ≠ id) :
    Unreported next other := by
  intro event member reported
  rcases reports.reported member reported with old | latest
  · exact unreported event old reported
  · rw [latest] at reported
    injection reported with same
    exact different same.symm

theorem AckLedger.missed
    {world : World} (ledger : AckLedger world) {id : Nat}
    (entered : id < world.clock) (unreported : Unreported world id) :
    AckLedger (world.record (.missed id)) where
  sound := (record_steps world _).soundTables ledger.sound
  past := by
    intro event member other reported
    rcases List.mem_cons.mp member with latest | old
    · rw [latest] at reported
      injection reported with same
      rw [← same]
      exact entered
    · exact ledger.past event old other reported
  unsettled := by
    intro channel copied waiting event member reported
    rcases List.mem_cons.mp member with latest | old
    · rw [latest]
      exact not_false
    · exact ledger.unsettled channel copied waiting event old reported
  once := ledger.once.first rfl unreported

theorem AckLedger.reportsMissed
    {world next : World} (ledger : AckLedger world) {id : Nat}
    (entered : id < world.clock) (unreported : Unreported world id)
    (reports : ReportsMissed world id next) :
    AckLedger next :=
  (ledger.missed entered unreported).silent reports.silent

/-- Taking an entry out of its table and settling it. -/
theorem AckLedger.settle
    {world : World} (ledger : AckLedger world) {channel : ChannelPtr}
    {pktseq : PacketSeq} {entry : WaitingFrame}
    (member : (pktseq, entry) ∈ (world.channels channel).waitingAck)
    {event : Event} (reports : event.entry = some entry.id)
    (settles : event.Settles) :
    AckLedger
      ((world.eraseWaitingAck channel pktseq).record event) := by
  have erased :=
    ledger.silent
      (Silent.of_log_eq (eraseWaitingAck_steps world channel pktseq) rfl)
  have gone :
      ∀ other, ∀ copied ∈
        ((world.eraseWaitingAck channel pktseq).channels
          other).waitingAck,
        copied.2.id ≠ entry.id := by
    intro other copied waiting same
    have steps := eraseWaitingAck_steps world channel pktseq
    rcases steps.gainsNew.entries other copied waiting with old | isNew
    · obtain ⟨sameChannel, sameEntry⟩ :=
        ledger.sound.sameId other channel copied old _ member same
      rw [sameChannel, sameEntry, World.eraseWaitingAck,
        modifyChannel_channels_self] at waiting
      have passed := (List.mem_filter.mp waiting).2
      simp at passed
    · have entered := ledger.sound.entered channel _ member
      rw [same] at isNew
      exact absurd isNew (Nat.not_le_of_lt entered)
  refine
    ⟨(record_steps _ event).soundTables erased.sound, ?_, ?_, ?_⟩
  · intro other logged id reported
    rcases List.mem_cons.mp logged with latest | old
    · rw [latest, reports] at reported
      injection reported with same
      rw [← same]
      exact ledger.sound.entered channel _ member
    · exact erased.past other old id reported
  · intro other copied waiting earlier logged reported
    rcases List.mem_cons.mp logged with latest | old
    · rw [latest, reports] at reported
      injection reported with same
      exact absurd same.symm (gone other copied waiting)
    · exact
        erased.unsettled other copied waiting earlier old reported
  · exact
      ledger.once.settle reports settles
        (ledger.unsettled channel _ member)

private theorem exists_offset_of_mem_seqRange
    {key txseq : PacketSeq} {npackets : Nat}
    (member : key ∈ seqRange txseq npackets) :
    ∃ offset, offset < npackets ∧ key = txseq + UInt64.ofNat offset := by
  induction npackets generalizing txseq with
  | zero =>
      exact absurd member List.not_mem_nil
  | succ npackets inductionHypothesis =>
      rcases List.mem_cons.mp member with first | later
      · refine ⟨0, Nat.succ_pos npackets, ?_⟩
        rw [first]
        simp
      · obtain ⟨offset, bound, isKey⟩ := inductionHypothesis later
        refine ⟨offset + 1, Nat.succ_lt_succ bound, ?_⟩
        rw [isKey, UInt64.ofNat_add, UInt64.add_assoc,
          UInt64.add_comm (UInt64.ofNat offset)]
        rfl

/-- A range of fewer packets than there are sequence numbers has no number
twice. -/
theorem seqRange_nodup
    {txseq : PacketSeq} {npackets : Nat} (bound : npackets < 2 ^ 64) :
    (seqRange txseq npackets).Nodup := by
  induction npackets generalizing txseq with
  | zero =>
      exact List.nodup_nil
  | succ npackets inductionHypothesis =>
      refine List.nodup_cons.mpr ⟨?_, inductionHypothesis (by omega)⟩
      intro member
      obtain ⟨offset, offsetBound, same⟩ :=
        exists_offset_of_mem_seqRange member
      have sameNat := congrArg UInt64.toNat same
      simp only [UInt64.toNat_add, UInt64.toNat_ofNat'] at sameNat
      have first := txseq.toNat_lt
      have one : (1 : UInt64).toNat = 1 := rfl
      omega

private theorem AckLedger.missed_fold
    {env : Env} {channel : ChannelPtr} {keys : List PacketSeq}
    {world next : World} (ledger : AckLedger world)
    (distinct : keys.Nodup)
    (fresh :
      ∀ key ∈ keys, ∀ entry,
        (key, entry) ∈ (world.channels channel).waitingAck →
        Unreported world entry.id)
    (folded : keys.foldlM (missedOne env channel) world = some next) :
    AckLedger next := by
  induction keys generalizing world with
  | nil =>
      cases folded
      exact ledger
  | cons key keys inductionHypothesis =>
      obtain ⟨notRepeated, distinct⟩ := List.nodup_cons.mp distinct
      rw [List.foldlM_cons, bind_eq_some_iff] at folded
      obtain ⟨middle, passed, folded⟩ := folded
      rcases missedOne_cases ledger.sound passed with
        ⟨_, same⟩ | ⟨entry, owner, reached, member, owned, returned, kept⟩
      · subst middle
        exact
          inductionHypothesis ledger distinct
            (fun other listed => fresh other (List.mem_cons_of_mem _ listed))
            folded
      · have reports : ReportsMissed world entry.id middle := by
          rcases kept with same | same
          · rw [same]
            exact returned.reportsMissed owned
          · rw [same]
            exact (returned.reportsMissed owned).eraseWaitingAck _ _
        have entered := ledger.sound.entered channel _ member
        have unreported := fresh key List.mem_cons_self entry member
        refine
          inductionHypothesis
            (ledger.reportsMissed entered unreported reports) distinct ?_
            folded
        intro other listed otherEntry waiting
        rcases reports.steps.gainsNew.entries channel _ waiting with
          old | isNew
        · refine
            reports.unreported
              (fresh other (List.mem_cons_of_mem _ listed) otherEntry old)
              ?_
          intro same
          obtain ⟨_, sameEntry⟩ :=
            ledger.sound.sameId channel channel _ old _ member same
          injection sameEntry with sameKey
          rw [sameKey] at listed
          exact notRepeated listed
        · refine
            reports.unreported (ledger.unreported_of_new isNew) ?_
          intro same
          rw [same] at isNew
          exact absurd isNew (Nat.not_le_of_lt entered)

/-- The entries of a copy are returned one after the other, those that are
not relevant left out. -/
theorem AckLedger.return_fold
    {pass : World → PacketSeq × WaitingFrame → Option World}
    (Relevant : PacketSeq × WaitingFrame → Prop)
    {copies : List (PacketSeq × WaitingFrame)} {world next : World}
    (passes :
      ∀ copied ∈ copies, ∀ before after,
        pass before copied = some after →
        ¬ Relevant copied ∧ after = before ∨
          Relevant copied ∧ ReportsMissed before copied.2.id after)
    (ledger : AckLedger world)
    (distinct :
      copies.Pairwise fun first second => first.2.id ≠ second.2.id)
    (entered : ∀ copied ∈ copies, copied.2.id < world.clock)
    (fresh :
      ∀ copied ∈ copies, Relevant copied →
        Unreported world copied.2.id)
    (folded : copies.foldlM pass world = some next) :
    AckLedger next ∧
      ∀ event ∈ next.log, ∀ id, event.entry = some id →
        event ∈ world.log ∨
          ∃ copied ∈ copies,
            Relevant copied ∧ event = .missed copied.2.id := by
  induction copies generalizing world with
  | nil =>
      cases folded
      exact ⟨ledger, fun _ member _ _ => Or.inl member⟩
  | cons first copies inductionHypothesis =>
      obtain ⟨firstDiffers, distinct⟩ := List.pairwise_cons.mp distinct
      rw [List.foldlM_cons, bind_eq_some_iff] at folded
      obtain ⟨middle, passed, folded⟩ := folded
      have passesRest :
          ∀ copied ∈ copies, ∀ before after,
            pass before copied = some after →
            ¬ Relevant copied ∧ after = before ∨
              Relevant copied ∧ ReportsMissed before copied.2.id after :=
        fun copied member =>
          passes copied (List.mem_cons_of_mem first member)
      rcases passes first List.mem_cons_self world middle passed with
        ⟨_, same⟩ | ⟨relevant, reports⟩
      · subst middle
        obtain ⟨kept, logged⟩ :=
          inductionHypothesis passesRest ledger distinct
            (fun copied member =>
              entered copied (List.mem_cons_of_mem first member))
            (fun copied member =>
              fresh copied (List.mem_cons_of_mem first member))
            folded
        refine ⟨kept, ?_⟩
        intro event member id reported
        apply (logged event member id reported).imp_right
        intro found
        rcases found with ⟨copied, listed, found⟩
        exact ⟨copied, List.mem_cons_of_mem first listed, found⟩
      · have clock := reports.steps.gainsNew.clock
        obtain ⟨kept, logged⟩ :=
          inductionHypothesis passesRest
            (ledger.reportsMissed (entered first List.mem_cons_self)
              (fresh first List.mem_cons_self relevant) reports)
            distinct
            (fun copied member =>
              Nat.lt_of_lt_of_le
                (entered copied (List.mem_cons_of_mem first member)) clock)
            (fun copied member isRelevant =>
              reports.unreported
                (fresh copied (List.mem_cons_of_mem first member)
                  isRelevant)
                (firstDiffers copied member).symm)
            folded
        refine ⟨kept, ?_⟩
        intro event member id reported
        rcases logged event member id reported with
          earlier | ⟨copied, listed, found⟩
        · rcases reports.reported earlier reported with old | latest
          · exact Or.inl old
          · exact Or.inr ⟨first, List.mem_cons_self, relevant, latest⟩
        · exact
            Or.inr ⟨copied, List.mem_cons_of_mem first listed, found⟩

/-! ## The calls -/

/-- Clearing an attachment leaves no entry in a table that it returned. -/
theorem AckLedger.clear
    {env : Env} {world next : World} {stream : StreamPtr} {slot : Slot}
    (ledger : AckLedger world)
    (fresh :
      ∀ channel,
        ((world.streams stream).txAttachments slot).channel =
          some channel →
        ∀ copied ∈ (world.channels channel).waitingAck,
          copied.2.frame.owner = some stream →
          Unreported world copied.2.id)
    (returned : clear env world stream slot = some next) :
    AckLedger next ∧
      ∀ channel, ∀ copied ∈ (next.channels channel).waitingAck,
        Unreported world copied.2.id → Unreported next copied.2.id := by
  have gains := (clear_steps returned).gainsNew
  rcases clear_cases returned with
    ⟨_, same⟩ | ⟨channel, middle, copies, attached, detaches, copied, folded⟩
  · rw [same]
    exact ⟨ledger, fun _ _ _ unreported => unreported⟩
  · have sound := ledger.sound
    have onTime :
        ∀ entry ∈ copies, entry.2.frame.late = false :=
      fun entry member => sound.onTime channel entry (copied.subset member)
    have entered :
        ∀ entry ∈ copies, entry.2.id < middle.clock :=
      fun entry member =>
        Nat.lt_of_lt_of_le
          (sound.entered channel entry (copied.subset member))
          detaches.steps.gainsNew.clock
    obtain ⟨kept, logged⟩ :=
      AckLedger.return_fold
        (fun entry => entry.2.frame.owner = some stream)
        (fun entry member before after passed =>
          (clearEntry_cases (onTime entry member) passed).imp_right
            fun ⟨owned, reached, handed, erased⟩ =>
              ⟨owned, erased ▸
                (handed.reportsMissed owned).eraseWaitingAck _ _⟩)
        (ledger.silent detaches.silent) (sound.distinctIds copied)
        entered
        (fun entry member owned event logged reported =>
          fresh channel attached entry (copied.subset member) owned event
            (detaches.silent.reported logged reported) reported)
        folded
    refine ⟨kept, ?_⟩
    intro other entry waiting unreported event member reported
    rcases logged event member _ reported with
      earlier | ⟨handed, listed, owned, isMissed⟩
    · exact
        unreported event (detaches.silent.reported earlier reported)
          reported
    · rw [isMissed] at reported
      injection reported with sameId
      have before := copied.subset listed
      rcases gains.entries other entry waiting with old | isNew
      · obtain ⟨sameChannel, sameEntry⟩ :=
          sound.sameId channel other handed before entry old sameId
        rw [← sameChannel, ← sameEntry] at waiting
        exact
          clearEntry_fold_removes onTime entered folded listed owned
            waiting
      · have earlier := sound.entered channel handed before
        omega

private theorem AckLedger.stop_fold
    {env : Env} {channel : ChannelPtr}
    {pass : World → LocalStreamId × StreamPtr × Slot → Option World}
    (passes :
      ∀ before after entry,
        pass before entry = some after →
        ((before.streams entry.2.1).txAttachments entry.2.2).channel =
            some channel ∧
          World.clear env before entry.2.1 entry.2.2 = some after)
    {sids : List (LocalStreamId × StreamPtr × Slot)}
    {world next : World} (ledger : AckLedger world)
    (fresh :
      ∀ entry ∈ sids,
        ∀ copied ∈ (world.channels channel).waitingAck,
          copied.2.frame.owner = some entry.2.1 →
          Unreported world copied.2.id)
    (folded : sids.foldlM pass world = some next) :
    AckLedger next := by
  induction sids generalizing world with
  | nil =>
      cases folded
      exact ledger
  | cons first sids inductionHypothesis =>
      rw [List.foldlM_cons, bind_eq_some_iff] at folded
      obtain ⟨middle, passed, folded⟩ := folded
      obtain ⟨attached, cleared⟩ := passes _ _ _ passed
      have gains := (clear_steps cleared).gainsNew
      have freshFirst :
          ∀ other,
            ((world.streams first.2.1).txAttachments
              first.2.2).channel = some other →
            ∀ copied ∈ (world.channels other).waitingAck,
              copied.2.frame.owner = some first.2.1 →
              Unreported world copied.2.id := by
        intro other alsoAttached
        have sameChannel : channel = other :=
          Option.some.inj (attached.symm.trans alsoAttached)
        rw [← sameChannel]
        exact fresh first List.mem_cons_self
      obtain ⟨kept, stillUnreported⟩ := ledger.clear freshFirst cleared
      refine inductionHypothesis kept ?_ folded
      intro entry listed copied waiting owned
      apply stillUnreported channel copied waiting
      rcases gains.entries channel copied waiting with old | isNew
      · exact
          fresh entry (List.mem_cons_of_mem first listed) copied old owned
      · exact ledger.unreported_of_new isNew

theorem AckLedger.stop
    {env : Env} {world next : World} {channel : ChannelPtr}
    (ledger : AckLedger world)
    (fresh :
      ∀ entry ∈ (world.channels channel).transmitSids,
        ∀ copied ∈ (world.channels channel).waitingAck,
          copied.2.frame.owner = some entry.2.1 →
          Unreported world copied.2.id)
    (returned : stop env world channel = some next) :
    AckLedger next := by
  obtain ⟨first, second, sids, pass, before, listed, passes, folded, after⟩ :=
    stop_cases returned
  have cleared : AckLedger second := by
    refine (ledger.silent before.silent).stop_fold passes ?_ folded
    intro entry member copied waiting owned event logged reported
    rw [before.waitingAck] at waiting
    exact
      fresh entry (listed.subset member) copied waiting owned event
        (before.silent.reported logged reported) reported
  exact cleared.silent after.silent

theorem AckLedger.detachAll
    {env : Env} {world next : World} {channel : ChannelPtr}
    (ledger : AckLedger world) (registered : Registered world)
    (fresh :
      ∀ copied ∈ (world.channels channel).waitingAck,
        Unreported world copied.2.id)
    (returned : detachAll env world channel = some next) :
    AckLedger next := by
  obtain ⟨middle, copies, detaches, copied, folded⟩ :=
    detachAll_cases registered returned
  have emptied :
      Silent world
        (world.modifyChannel channel fun entry =>
          { entry with waitingAck := [] }) :=
    Silent.of_log_eq
      (shrinkTable_steps world channel (fun _ => [])
        (List.nil_sublist _))
      rfl
  have clock : world.clock ≤ middle.clock :=
    Nat.le_trans emptied.steps.gainsNew.clock
      detaches.steps.gainsNew.clock
  have kept :=
    AckLedger.return_fold (fun _ => True)
      (fun entry member before after passed => by
        have onTime :=
          ledger.sound.onTime channel entry (copied.subset member)
        obtain ⟨owner, owned, handed⟩ := detachEntry_cases onTime passed
        exact Or.inr ⟨trivial, handed.reportsMissed owned⟩)
      ((ledger.silent emptied).silent detaches.silent)
      (ledger.sound.distinctIds copied)
      (fun entry member =>
        Nat.lt_of_lt_of_le
          (ledger.sound.entered channel entry (copied.subset member))
          clock)
      (fun entry member _ event logged reported =>
        fresh entry (copied.subset member) event
          (emptied.reported (detaches.silent.reported logged reported)
            reported)
          reported)
      folded
  exact kept.1

theorem AckLedger.acknowledgedOne
    {channel : ChannelPtr} {world next : World} {txseq : PacketSeq}
    (ledger : AckLedger world)
    (returned : acknowledgedOne channel world txseq = some next) :
    AckLedger next := by
  rcases acknowledgedOne_eq_some returned with
    unchanged | ⟨entry, found, erased⟩
  · rw [unchanged]
    exact ledger
  · rw [erased]
    exact ledger.settle (mem_of_lookup_eq_some found) rfl trivial

theorem AckLedger.expireOne
    {world : World} (ledger : AckLedger world) (channel : ChannelPtr)
    (txseq : PacketSeq) :
    AckLedger (expireOne channel world txseq) := by
  rcases expireOne_cases channel world txseq with
    unchanged | erased | ⟨entry, found, erased⟩
  · rw [unchanged]
    exact ledger
  · rw [erased]
    exact
      ledger.silent
        (Silent.of_log_eq (eraseWaitingAck_steps world channel txseq) rfl)
  · rw [erased]
    exact ledger.settle (mem_of_lookup_eq_some found) rfl trivial

/-- A call that covers no entry that was returned before. -/
def FreshStep (env : Env) (world : World) (call : Call) (next : World) :
    Prop :=
  CallStep env world call next ∧
    ∀ channel, ∀ copied ∈ (world.channels channel).waitingAck,
      call.Covers world channel copied →
      Event.missed copied.2.id ∉ world.log

private theorem ackLedger_step
    {env : Env} {world next : World} {call : Call}
    (ledger : AckLedger world) (registered : Registered world)
    (step : FreshStep env world call next) :
    AckLedger next := by
  obtain ⟨returned, freshEntries⟩ := step
  have fresh :
      ∀ channel, ∀ copied ∈ (world.channels channel).waitingAck,
        call.Covers world channel copied →
        Unreported world copied.2.id :=
    fun channel copied member covered =>
      ledger.unreported member
        (freshEntries channel copied member covered)
  cases call with
  | missed channel txseq npackets =>
      have bound := npackets.toNatClampNeg_lt
      refine
        ledger.missed_fold (seqRange_nodup (by omega)) ?_ returned
      intro key listed entry member
      exact fresh channel (key, entry) member ⟨rfl, listed⟩
  | clear stream slot =>
      refine (ledger.clear ?_ returned).1
      intro channel attached copied member owned
      exact fresh channel copied member ⟨attached, owned⟩
  | detachAll channel =>
      refine ledger.detachAll registered ?_ returned
      intro copied member
      exact fresh channel copied member rfl
  | stop channel =>
      refine ledger.stop ?_ returned
      intro entry listed copied member owned
      exact fresh channel copied member ⟨rfl, entry, listed, owned⟩
  | acknowledged channel txseq npackets =>
      exact
        foldlM_invariant AckLedger
          (fun _ _ _ _ kept passed => kept.acknowledgedOne passed)
          ledger returned
  | expire channel txseq npackets =>
      cases returned
      exact
        List.foldlRecOn _ _ ledger fun _ kept txseq _ =>
          kept.expireOne channel txseq
  | _ =>
      refine ledger.silent (Call.run_quietSteps ?_ returned).silent
      exact not_false

private theorem ackLedger_of_initial
    {world : World} (initial : world.Initial) :
    AckLedger world := by
  have empty := initial.log
  refine ⟨soundTables_of_initial initial, ?_, ?_, ?_⟩
  · intro event member
    rw [empty] at member
    cases member
  · intro channel copied waiting event member
    rw [empty] at member
    cases member
  · rw [empty]
    exact OnceOnly.nil

/-- In every run in which no call covers an entry that was returned before,
`base_stream::missed` is invoked at most once for an entry, and nothing is
invoked for it after it was acknowledged or expired. -/
theorem reported_missed_at_most_once
    {env : Env} {start final : World} {calls : List Call}
    (initial : start.Initial)
    (run : Run (FreshStep env) start calls final)
    (id : Nat) :
    final.log.count (.missed id) ≤ 1 ∧
      final.log.Pairwise fun later earlier =>
        earlier.entry = some id → earlier.Settles →
          later.entry ≠ some id := by
  have both : AckLedger final ∧ ConsistentAttachments final := by
    refine
      run.induct
        (fun _ world => AckLedger world ∧ ConsistentAttachments world)
        ⟨ackLedger_of_initial initial,
          ConsistentAttachments.of_initial initial⟩
        ?_
    intro _ world call next _ kept step
    exact
      ⟨ackLedger_step kept.1 kept.2.registered step, kept.2.call step.1⟩
  have once := both.1.once
  exact ⟨once.count_le_one rfl not_false, once.nothing_after id⟩

/-- Before the first report every call is fresh. -/
theorem FreshStep.of_silent
    {env : Env} {world next : World} {call : Call}
    (returned : call.run env world = some next)
    (silent : ∀ event ∈ world.log, event.entry = none) :
    FreshStep env world call next := by
  refine ⟨returned, ?_⟩
  intro channel copied _ _ logged
  cases silent _ logged

private theorem FreshStep.of_not_covers
    {env : Env} {world next : World} {call : Call}
    (returned : call.run env world = some next)
    (nothing : ∀ channel copied, ¬ call.Covers world channel copied) :
    FreshStep env world call next :=
  ⟨returned, fun channel copied _ covered =>
    absurd covered (nothing channel copied)⟩

private theorem acknowledged_not_covers
    (world : World) (acknowledgedOn : ChannelPtr) (txseq : PacketSeq)
    (npackets : Int32) (channel : ChannelPtr)
    (copied : PacketSeq × WaitingFrame) :
    ¬ (Call.acknowledged acknowledgedOn txseq npackets).Covers world
      channel copied :=
  not_false

/-- A call that returns nothing covers nothing. -/
theorem CallStep.freshStep
    {env : Env} {world next : World} {call : Call}
    (taken : CallStep env world call next) (quiet : ¬ call.Returns) :
    FreshStep env world call next := by
  refine FreshStep.of_not_covers taken fun channel copied covered => ?_
  cases call with
  | stop | detachAll | clear | acknowledged | missed | expire =>
      exact absurd trivial quiet
  | _ =>
      exact covered

private theorem CallRun.freshRun
    {env : Env} {start final : World} {calls : List Call}
    (run : CallRun env start calls final)
    (quiet : ∀ call ∈ calls, ¬ call.Returns) :
    Run (FreshStep env) start calls final := by
  induction run with
  | refl =>
      exact Run.refl
  | snoc call _ taken inductionHypothesis =>
      refine (inductionHypothesis ?_).snoc call ?_
      · intro other member
        exact quiet other (List.mem_append_left _ member)
      · exact
          taken.freshStep
            (quiet call (List.mem_append_right _ List.mem_cons_self))

/-- The segment is reported missed and then acknowledged. -/
theorem reported_missed_then_acknowledged :
    ∃ final,
      Run (FreshStep (Env.constant true)) (World.create [1] [2])
          (waitingCalls ++ [.missed 0 2 1] ++ [.acknowledged 0 2 1])
          final ∧
        final.log.count (.missed 2) ≤ 1 ∧
        final.log.Pairwise fun later earlier =>
          earlier.entry = some 2 → earlier.Settles →
            later.entry ≠ some 2 := by
  have sent :
      CallRun (Env.constant true) (World.create [1] [2]) waitingCalls _ :=
    CallRun.of_runAll rfl
  have quiet : ∀ call ∈ waitingCalls, ¬ call.Returns := by
    simp [waitingCalls, Call.Returns]
  have missed :=
    (sent.freshRun quiet).snoc (.missed 0 2 1)
      (FreshStep.of_silent rfl (by decide))
  have run :=
    missed.snoc (.acknowledged 0 2 1)
      (FreshStep.of_not_covers rfl (acknowledged_not_covers _ 0 2 1))
  exact
    ⟨_, run, reported_missed_at_most_once (create_initial [1] [2]) run 2⟩

/-- The second call reports the segment missed again. -/
theorem reported_missed_twice :
    ∃ final,
      CallRun (Env.constant true) (World.create [1] [2])
          (waitingCalls ++ [.missed 0 2 1, .missed 0 2 1]) final ∧
        DistinctKeys (final.channels 0).waitingAck ∧
        final.log.count (.missed 2) = 2 := by
  refine ⟨_, CallRun.of_runAll rfl, ?_, ?_⟩
  · exact List.nodup_singleton _
  · decide

end StructuredStreams.Stream
