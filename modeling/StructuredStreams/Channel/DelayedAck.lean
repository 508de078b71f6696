import StructuredStreams.Channel.AckTruth

/-!
# No delayed acknowledgment is stranded

A packet that asks for an acknowledgment is either covered by one sent since
it arrived, or it is owed one: the timer runs and the range that the next
flush sends covers the packet.  A call turns an owed packet into an owed or a
covered one, because at most three packets are ever owed and the range never
shrinks below them.
-/

namespace StructuredStreams.Channel

/-- An acknowledgment that covers the packet went out between two states. -/
def CoveredSince (before after : AckState) (number : Nat) : Prop :=
  ∃ fresh,
    after.acksSent = fresh ++ before.acksSent ∧
      ∃ ack ∈ fresh, Covers ack number

/-- The packet waits for the next flush, and the timer will bring one. -/
structure Owed (state : AckState) (number : Nat) : Prop where
  timer : state.ackTimer.isSome
  pending : 0 < state.rxUnacked
  covered : Covers (state.rxAckSequence, state.rxAckCount) number
  recent : state.rxAckSequence.toNat < number + state.rxUnacked

/-- The bounds that hold between calls. -/
structure AckBounds (state : AckState) : Prop where
  unacked : state.rxUnacked ≤ 3
  nonneg : 0 ≤ state.rxAckCount
  count : state.rxAckCount ≤ 15

namespace AckState

private theorem flushAck_rxUnacked (state : AckState) :
    state.flushAck.rxUnacked = 0 := by
  unfold flushAck txAck
  split_ifs with owed
  · rfl
  · simpa using owed

end AckState

namespace AckBounds

theorem flushAck
    {state : AckState} (bounds : AckBounds state) :
    AckBounds state.flushAck where
  unacked := by
    rw [state.flushAck_rxUnacked]
    omega
  nonneg := by
    rw [state.flushAck_rxAckCount]
    exact bounds.nonneg
  count := by
    rw [state.flushAck_rxAckCount]
    exact bounds.count

/-- Four unacknowledged packets never survive the call that counts them. -/
theorem scheduleAck
    {state : AckState} (sendAck : Bool)
    (unacked : state.rxUnacked ≤ 4)
    (nonneg : 0 ≤ state.rxAckCount) (count : state.rxAckCount ≤ 15) :
    AckBounds (state.scheduleAck sendAck) := by
  unfold AckState.scheduleAck maxAckPackets
  split_ifs with waits soon first idle
  · exact ⟨by omega, nonneg, count⟩
  · exact ⟨by simp only; omega, nonneg, count⟩
  · exact ⟨by omega, nonneg, count⟩
  · exact ⟨by simp only; omega, nonneg, count⟩
  · refine ⟨?_, ?_, ?_⟩
    · rw [state.flushAck_rxUnacked]
      omega
    · rwa [state.flushAck_rxAckCount]
    · rwa [state.flushAck_rxAckCount]

theorem rollForward
    {state : AckState} (pktseq : UInt64) (sendAck : Bool)
    (bounds : AckBounds state) :
    AckBounds ((state.rollForward pktseq).scheduleAck sendAck) := by
  have unacked := bounds.unacked
  have nonneg := bounds.nonneg
  apply scheduleAck
  · simp only [AckState.rollForward]
    omega
  · simp only [AckState.rollForward, maxAckCount]
    omega
  · exact min_le_right _ _

theorem step
    {state next : AckState} {call : AckCall}
    (bounds : AckBounds state) (taken : AckStep state call next) :
    AckBounds next := by
  obtain ⟨window, rfl⟩ := taken
  have flushed := bounds.flushAck
  cases call with
  | acknowledge pktseq sendAck =>
      rw [AckCall.apply]
      rcases AckState.acknowledge_cases sendAck
          (window pktseq sendAck rfl) with
        ⟨_, branch⟩ | ⟨_, branch⟩ | ⟨_, branch⟩ | ⟨_, branch⟩
      · rw [branch]
        exact bounds.rollForward pktseq sendAck
      · rw [branch]
        cases sendAck <;>
          exact
            ⟨flushed.unacked, le_refl 0, (by decide : (0 : Int) ≤ 15)⟩
      · rw [branch]
        cases sendAck <;>
          exact ⟨flushed.unacked, flushed.nonneg, flushed.count⟩
      · rw [branch]
        exact bounds
  | ackTimeout =>
      exact flushed
  | channelTransmit =>
      simp only [AckCall.apply, AckState.channelTransmit]
      split_ifs
      · exact ⟨by simp, bounds.nonneg, bounds.count⟩
      · exact bounds

theorem of_run
    {start final : AckState} {calls : List AckCall}
    (bounds : AckBounds start) (run : AckRun start calls final) :
    AckBounds final :=
  run.induct (fun _ state => AckBounds state) bounds
    fun _ _ _ _ _ reached taken => reached.step taken

theorem initial : AckBounds AckState.initial :=
  ⟨by decide, by decide, by decide⟩

end AckBounds

private theorem flushAck_coveredSince
    {state : AckState} {number : Nat} (owed : Owed state number) :
    CoveredSince state state.flushAck number := by
  refine ⟨[(state.rxAckSequence, state.rxAckCount)], ?_, ?_⟩
  · have pending : state.rxUnacked ≠ 0 := by
      have positive := owed.pending
      omega
    rw [state.flushAck_acksSent, if_pos pending]
    rfl
  · exact ⟨_, List.mem_singleton.mpr rfl, owed.covered⟩

private theorem flushAck_extends (state : AckState) :
    ∃ fresh, state.flushAck.acksSent = fresh ++ state.acksSent := by
  rw [state.flushAck_acksSent]
  split_ifs
  · exact ⟨[_], rfl⟩
  · exact ⟨[], rfl⟩

private theorem scheduleAck_extends (state : AckState) (sendAck : Bool) :
    ∃ fresh,
      (state.scheduleAck sendAck).acksSent =
        fresh ++ state.acksSent := by
  unfold AckState.scheduleAck
  split_ifs
  all_goals first | exact ⟨[], rfl⟩ | exact flushAck_extends state

private theorem step_extends
    {state next : AckState} {call : AckCall}
    (taken : AckStep state call next) :
    ∃ fresh, next.acksSent = fresh ++ state.acksSent := by
  obtain ⟨window, rfl⟩ := taken
  obtain ⟨flushed, flushedShape⟩ := flushAck_extends state
  cases call with
  | acknowledge pktseq sendAck =>
      rw [AckCall.apply]
      rcases AckState.acknowledge_cases sendAck
          (window pktseq sendAck rfl) with
        ⟨_, branch⟩ | ⟨_, branch⟩ | ⟨_, branch⟩ | ⟨_, branch⟩
      · rw [branch]
        exact scheduleAck_extends (state.rollForward pktseq) sendAck
      · rw [branch]
        cases sendAck with
        | false =>
            exact ⟨flushed, flushedShape⟩
        | true =>
            exact
              ⟨(pktseq, 0) :: flushed, congrArg (_ :: ·) flushedShape⟩
      · rw [branch]
        cases sendAck with
        | false =>
            exact ⟨flushed, flushedShape⟩
        | true =>
            exact
              ⟨(pktseq, 0) :: flushed, congrArg (_ :: ·) flushedShape⟩
      · rw [branch]
        exact ⟨[], rfl⟩
  | ackTimeout =>
      exact ⟨flushed, flushedShape⟩
  | channelTransmit =>
      simp only [AckCall.apply, AckState.channelTransmit]
      split_ifs <;> exact ⟨[], rfl⟩

private theorem run_extends
    {start final : AckState} {calls : List AckCall}
    (run : AckRun start calls final) :
    ∃ fresh, final.acksSent = fresh ++ start.acksSent := by
  refine run.induct
    (fun _ state => ∃ fresh, state.acksSent = fresh ++ start.acksSent)
    ⟨[], rfl⟩ ?_
  rintro _ _ _ _ _ ⟨fresh, shape⟩ taken
  obtain ⟨newer, extended⟩ := step_extends taken
  exact ⟨newer ++ fresh, by rw [extended, shape, List.append_assoc]⟩

theorem CoveredSince.step
    {before state next : AckState} {number : Nat} {call : AckCall}
    (covered : CoveredSince before state number)
    (taken : AckStep state call next) :
    CoveredSince before next number := by
  obtain ⟨fresh, shape, ack, member, covers⟩ := covered
  obtain ⟨newer, extended⟩ := step_extends taken
  refine ⟨newer ++ fresh, ?_, ack, ?_, covers⟩
  · rw [extended, shape, List.append_assoc]
  · exact List.mem_append_right newer member

/-- The timer runs after the contiguous branch unless the packet needs no
acknowledgment or all owed ones have just been sent. -/
theorem scheduleAck_owed
    (state : AckState) {number : Nat} {sendAck : Bool}
    (timer : sendAck = false → state.ackTimer.isSome)
    (pending : 0 < state.rxUnacked)
    (covered : Covers (state.rxAckSequence, state.rxAckCount) number)
    (recent : state.rxAckSequence.toNat < number + state.rxUnacked) :
    CoveredSince state (state.scheduleAck sendAck) number ∨
      Owed (state.scheduleAck sendAck) number := by
  unfold AckState.scheduleAck
  split_ifs with waits soon first idle
  · exact Or.inr ⟨timer waits.1, pending, covered, recent⟩
  · exact Or.inr ⟨rfl, pending, covered, recent⟩
  · refine Or.inr ⟨?_, pending, covered, recent⟩
    simpa [Option.isSome_iff_ne_none] using idle
  · exact Or.inr ⟨rfl, pending, covered, recent⟩
  · refine Or.inl ⟨[(state.rxAckSequence, state.rxAckCount)], ?_, ?_⟩
    · rw [state.flushAck_acksSent, if_pos (by omega)]
      rfl
    · exact ⟨_, List.mem_singleton.mpr rfl, covered⟩

theorem Owed.rollForward
    {state : AckState} {number : Nat} {pktseq : UInt64} {sendAck : Bool}
    (owed : Owed state number) (bounds : AckBounds state)
    (contiguous : pktseq.toNat = state.rxAckSequence.toNat + 1) :
    CoveredSince state
        ((state.rollForward pktseq).scheduleAck sendAck) number ∨
      Owed ((state.rollForward pktseq).scheduleAck sendAck) number := by
  have unacked := bounds.unacked
  have recent := owed.recent
  obtain ⟨lower, upper⟩ := owed.covered
  simp only at lower upper
  apply scheduleAck_owed (state.rollForward pktseq)
  · intro _
    exact owed.timer
  · simp only [AckState.rollForward]
    omega
  · constructor
    · simp only [AckState.rollForward, maxAckCount]
      omega
    · simp only [AckState.rollForward]
      omega
  · simp only [AckState.rollForward]
    omega

theorem Owed.step
    {state next : AckState} {number : Nat} {call : AckCall}
    (owed : Owed state number) (bounds : AckBounds state)
    (notTransmit : call ≠ .channelTransmit)
    (taken : AckStep state call next) :
    CoveredSince state next number ∨ Owed next number := by
  obtain ⟨window, rfl⟩ := taken
  obtain ⟨fresh, shape, ack, member, covers⟩ :=
    flushAck_coveredSince owed
  cases call with
  | acknowledge pktseq sendAck =>
      rw [AckCall.apply]
      rcases AckState.acknowledge_cases sendAck
          (window pktseq sendAck rfl) with
        ⟨contiguous, branch⟩ | ⟨_, branch⟩ | ⟨_, branch⟩ |
          ⟨_, branch⟩
      · rw [branch]
        exact owed.rollForward bounds contiguous
      · rw [branch]
        left
        cases sendAck with
        | false =>
            exact ⟨fresh, shape, ack, member, covers⟩
        | true =>
            exact
              ⟨(pktseq, 0) :: fresh, congrArg (_ :: ·) shape, ack,
                List.mem_cons_of_mem _ member, covers⟩
      · rw [branch]
        left
        cases sendAck with
        | false =>
            exact ⟨fresh, shape, ack, member, covers⟩
        | true =>
            exact
              ⟨(pktseq, 0) :: fresh, congrArg (_ :: ·) shape, ack,
                List.mem_cons_of_mem _ member, covers⟩
      · rw [branch]
        exact Or.inr owed
  | ackTimeout =>
      exact Or.inl ⟨fresh, shape, ack, member, covers⟩
  | channelTransmit =>
      exact (notTransmit rfl).elim

private theorem txAck_coveredSince
    {before state : AckState} {pktseq : UInt64}
    (extended :
      ∃ fresh, state.acksSent = fresh ++ before.acksSent) :
    CoveredSince before (state.txAck pktseq 0) pktseq.toNat := by
  obtain ⟨fresh, shape⟩ := extended
  refine
    ⟨(pktseq, 0) :: fresh, congrArg (_ :: ·) shape,
      (pktseq, 0), by simp, ?_, ?_⟩
  · simp
  · simp

/-- A packet that asks for an acknowledgment and is not the latest one is
covered or owed as soon as it has been taken in. -/
theorem acknowledge_covered_or_owed
    {state : AckState} {pktseq : UInt64}
    (bounds : AckBounds state) (window : InWindow state pktseq)
    (different : pktseq ≠ state.rxAckSequence) :
    CoveredSince state (state.acknowledge pktseq true) pktseq.toNat ∨
      Owed (state.acknowledge pktseq true) pktseq.toNat := by
  have unacked := bounds.unacked
  rcases AckState.acknowledge_cases true window with
    ⟨_, branch⟩ | ⟨_, branch⟩ | ⟨_, branch⟩ | ⟨same, _⟩
  · rw [branch]
    apply scheduleAck_owed (state.rollForward pktseq)
    · intro impossible
      cases impossible
    · simp only [AckState.rollForward]
      omega
    · have nonneg := bounds.nonneg
      constructor
      · simp only [AckState.rollForward, maxAckCount]
        omega
      · exact le_refl _
    · simp only [AckState.rollForward]
      omega
  · rw [branch]
    exact Or.inl (txAck_coveredSince (flushAck_extends state))
  · rw [branch]
    exact Or.inl (txAck_coveredSince (flushAck_extends state))
  · exact (different same).elim

private theorem CoveredSince.trans_left
    {before middle after : AckState} {number : Nat}
    (extended :
      ∃ fresh, middle.acksSent = fresh ++ before.acksSent)
    (covered : CoveredSince middle after number) :
    CoveredSince before after number := by
  obtain ⟨older, olderShape⟩ := extended
  obtain ⟨fresh, shape, ack, member, covers⟩ := covered
  refine ⟨fresh ++ older, ?_, ack, ?_, covers⟩
  · rw [shape, olderShape, List.append_assoc]
  · exact List.mem_append_left older member

/-- From every reachable state, a packet that asks for an acknowledgment and
is not the latest one is, at every later point of a run of `acknowledge` and
`ack_timeout` calls, covered by an acknowledgment sent since it arrived, or
it is owed: the timer is active, the current range covers the packet with
`rxUnacked` positive, and the next flush sends that range.  Between calls at
most three packets are unacknowledged. -/
theorem delayed_ack_never_stranded
    {history later : List AckCall} {reached final : AckState}
    {pktseq : UInt64}
    (reachable : AckRun AckState.initial history reached)
    (window : InWindow reached pktseq)
    (different : pktseq ≠ reached.rxAckSequence)
    (run : AckRun (reached.acknowledge pktseq true) later final)
    (receiving : ∀ call ∈ later, call ≠ .channelTransmit) :
    (CoveredSince reached final pktseq.toNat ∨
        (final.ackTimer.isSome ∧ 0 < final.rxUnacked ∧
          Covers (final.rxAckSequence, final.rxAckCount)
            pktseq.toNat ∧
          CoveredSince final final.flushAck pktseq.toNat)) ∧
      reached.rxUnacked ≤ 3 ∧ final.rxUnacked ≤ 3 := by
  have taken :
      AckStep reached (.acknowledge pktseq true)
        (reached.acknowledge pktseq true) :=
    ⟨by rintro _ _ ⟨⟩; exact window, rfl⟩
  have reachedBounds := AckBounds.initial.of_run reachable
  have arrivedBounds := reachedBounds.step taken
  have settled :
      (∀ call ∈ later, call ≠ .channelTransmit) →
        CoveredSince reached final pktseq.toNat ∨
          Owed final pktseq.toNat := by
    refine run.induct
      (fun calls state =>
        (∀ call ∈ calls, call ≠ .channelTransmit) →
          CoveredSince reached state pktseq.toNat ∨
            Owed state pktseq.toNat)
      (fun _ =>
        acknowledge_covered_or_owed reachedBounds window different) ?_
    intro calls state call next earlier settledBefore nextTaken quiet
    have extended :
        ∃ fresh, state.acksSent = fresh ++ reached.acksSent :=
      run_extends (Run.append (Run.single taken) earlier)
    rcases settledBefore
        (fun call member => quiet call (List.mem_append_left _ member)) with
      covered | owed
    · exact Or.inl (covered.step nextTaken)
    · rcases owed.step (arrivedBounds.of_run earlier)
          (quiet call (by simp)) nextTaken with covered | stillOwed
      · exact Or.inl (CoveredSince.trans_left extended covered)
      · exact Or.inr stillOwed
  refine ⟨?_, reachedBounds.unacked, (arrivedBounds.of_run run).unacked⟩
  rcases settled receiving with covered | owed
  · exact Or.inl covered
  · exact
      Or.inr
        ⟨owed.timer, owed.pending, owed.covered,
          flushAck_coveredSince owed⟩

/-- Packet 1 asks for an acknowledgment, the ack-only packet 2 follows: the
timer is still running for packet 1. -/
theorem delayed_ack_pending_after_ack_only_packet :
    (CoveredSince AckState.initial ⟨2, 2, 2, some 10, []⟩ 1 ∨
        ((some 10 : Option Nat).isSome ∧ 0 < 2 ∧
          Covers (2, 2) 1 ∧
          CoveredSince ⟨2, 2, 2, some 10, []⟩
            (AckState.flushAck ⟨2, 2, 2, some 10, []⟩) 1)) ∧
      AckState.initial.rxUnacked ≤ 3 ∧ 2 ≤ 3 := by
  have arrival :
      AckState.initial.acknowledge 1 true = ⟨1, 1, 1, some 10, []⟩ := by
    decide
  have follows :
      AckRun (AckState.initial.acknowledge 1 true)
        [.acknowledge 2 false] ⟨2, 2, 2, some 10, []⟩ := by
    rw [arrival]
    exact Run.single ⟨by rintro _ _ ⟨⟩; decide, by decide⟩
  exact
    delayed_ack_never_stranded Run.refl (by decide) (by decide) follows
      (by simp)

end StructuredStreams.Channel
