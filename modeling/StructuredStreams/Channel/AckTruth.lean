import StructuredStreams.Channel.Acknowledge

/-!
# Acknowledgments tell the truth

Every acknowledgment handed to `transmit_ack` covers only packet 0 and
packets that were passed to `acknowledge`.  The invariant is that the range
`[rxAckSequence - rxAckCount, rxAckSequence]` has this property at every
moment, so that it does not matter when the range is sent.
-/

namespace StructuredStreams.Channel

/-- The packet number was passed to `acknowledge`. -/
def Passed (calls : List AckCall) (number : Nat) : Prop :=
  ∃ pktseq sendAck,
    AckCall.acknowledge pktseq sendAck ∈ calls ∧ pktseq.toNat = number

/-- The packet number lies in the range of an acknowledgment. -/
def Covers (ack : UInt64 × Int) (number : Nat) : Prop :=
  (ack.1.toNat : Int) - ack.2 ≤ number ∧ number ≤ ack.1.toNat

/-- An acknowledgment that counts at most fifteen packets and covers only
packets that arrived. -/
structure Truthful (calls : List AckCall) (ack : UInt64 × Int) : Prop where
  nonneg : 0 ≤ ack.2
  bounded : ack.2 ≤ 15
  arrived : ∀ number, Covers ack number → number = 0 ∨ Passed calls number

/-- The acknowledgments sent so far and the range that would be sent now are
truthful. -/
structure TruthfulState (calls : List AckCall) (state : AckState) : Prop where
  sent : ∀ ack ∈ state.acksSent, Truthful calls ack
  current : Truthful calls (state.rxAckSequence, state.rxAckCount)

theorem Passed.mono
    {calls : List AckCall} {number : Nat} (call : AckCall)
    (passed : Passed calls number) :
    Passed (calls ++ [call]) number := by
  obtain ⟨pktseq, sendAck, member, equal⟩ := passed
  exact ⟨pktseq, sendAck, List.mem_append_left [call] member, equal⟩

private theorem passed_acknowledge
    (calls : List AckCall) (pktseq : UInt64) (sendAck : Bool) :
    Passed (calls ++ [.acknowledge pktseq sendAck]) pktseq.toNat :=
  ⟨pktseq, sendAck, by simp, rfl⟩

theorem Truthful.mono
    {calls : List AckCall} {ack : UInt64 × Int} (call : AckCall)
    (truthful : Truthful calls ack) :
    Truthful (calls ++ [call]) ack where
  nonneg := truthful.nonneg
  bounded := truthful.bounded
  arrived := by
    intro number covered
    rcases truthful.arrived number covered with zero | passed
    · exact Or.inl zero
    · exact Or.inr (passed.mono call)

/-- An acknowledgment of one packet that arrived. -/
theorem truthful_single
    {calls : List AckCall} {pktseq : UInt64}
    (passed : Passed calls pktseq.toNat) :
    Truthful calls (pktseq, 0) where
  nonneg := le_refl 0
  bounded := (by decide : (0 : Int) ≤ 15)
  arrived := by
    rintro number ⟨lower, upper⟩
    have equal : number = pktseq.toNat := by
      simp only [sub_zero] at lower upper
      omega
    exact Or.inr (equal ▸ passed)

namespace TruthfulState

theorem mono
    {calls : List AckCall} {state : AckState} (call : AckCall)
    (truthful : TruthfulState calls state) :
    TruthfulState (calls ++ [call]) state where
  sent ack member := (truthful.sent ack member).mono call
  current := truthful.current.mono call

theorem txAck
    {calls : List AckCall} {state : AckState}
    {ackseq : UInt64} {ackCount : Int}
    (truthful : TruthfulState calls state)
    (ack : Truthful calls (ackseq, ackCount)) :
    TruthfulState calls (state.txAck ackseq ackCount) where
  sent := by
    intro sent member
    rcases List.mem_cons.mp member with rfl | earlier
    · exact ack
    · exact truthful.sent sent earlier
  current := truthful.current

theorem flushAck
    {calls : List AckCall} {state : AckState}
    (truthful : TruthfulState calls state) :
    TruthfulState calls state.flushAck := by
  by_cases owed : state.rxUnacked ≠ 0
  · have cleared :
        TruthfulState calls { state with rxUnacked := 0 } :=
      ⟨truthful.sent, truthful.current⟩
    have sent := cleared.txAck truthful.current
    simp only [AckState.flushAck, if_pos owed]
    exact ⟨sent.sent, sent.current⟩
  · simp only [AckState.flushAck, if_neg owed]
    exact ⟨truthful.sent, truthful.current⟩

/-- Rolling forward by one packet extends the range at its upper end and
never at its lower one. -/
theorem rollForward
    {calls : List AckCall} {state : AckState} {pktseq : UInt64}
    (truthful : TruthfulState calls state)
    (passed : Passed calls pktseq.toNat)
    (contiguous : pktseq.toNat = state.rxAckSequence.toNat + 1) :
    TruthfulState calls (state.rollForward pktseq) where
  sent := truthful.sent
  current := by
    have nonneg := truthful.current.nonneg
    simp only at nonneg
    refine ⟨?_, min_le_right _ _, ?_⟩
    · exact le_min (by omega) (by decide)
    · rintro number ⟨lower, upper⟩
      have grown :
          min (state.rxAckCount + 1) maxAckCount ≤
            state.rxAckCount + 1 :=
        min_le_left _ _
      simp only [AckState.rollForward] at lower upper
      by_cases latest : number = pktseq.toNat
      · exact Or.inr (latest ▸ passed)
      · apply truthful.current.arrived
        constructor
        · simp only
          omega
        · simp only
          omega

theorem scheduleAck
    {calls : List AckCall} {state : AckState} (sendAck : Bool)
    (truthful : TruthfulState calls state) :
    TruthfulState calls (state.scheduleAck sendAck) := by
  unfold AckState.scheduleAck
  split_ifs
  · exact truthful
  · exact ⟨truthful.sent, truthful.current⟩
  · exact truthful
  · exact ⟨truthful.sent, truthful.current⟩
  · exact truthful.flushAck

theorem jumpForward
    {calls : List AckCall} {state : AckState} {pktseq : UInt64}
    (sendAck : Bool)
    (truthful : TruthfulState calls state)
    (passed : Passed calls pktseq.toNat) :
    TruthfulState calls (state.jumpForward pktseq sendAck) := by
  have jumped :
      TruthfulState calls
        { state.flushAck with
          rxAckSequence := pktseq, rxAckCount := 0 } :=
    ⟨truthful.flushAck.sent, truthful_single passed⟩
  cases sendAck with
  | false =>
      exact jumped
  | true =>
      exact jumped.txAck (truthful_single passed)

theorem acceptOld
    {calls : List AckCall} {state : AckState} {pktseq : UInt64}
    (sendAck : Bool)
    (truthful : TruthfulState calls state)
    (passed : Passed calls pktseq.toNat) :
    TruthfulState calls (state.acceptOld pktseq sendAck) := by
  cases sendAck with
  | false =>
      exact truthful.flushAck
  | true =>
      exact truthful.flushAck.txAck (truthful_single passed)

theorem acknowledge
    {calls : List AckCall} {state : AckState} {pktseq : UInt64}
    (sendAck : Bool)
    (truthful : TruthfulState calls state)
    (passed : Passed calls pktseq.toNat)
    (window : InWindow state pktseq) :
    TruthfulState calls (state.acknowledge pktseq sendAck) := by
  rcases AckState.acknowledge_cases sendAck window with
    ⟨contiguous, branch⟩ | ⟨_, branch⟩ | ⟨_, branch⟩ | ⟨_, branch⟩
  · rw [branch]
    exact (truthful.rollForward passed contiguous).scheduleAck sendAck
  · rw [branch]
    exact truthful.jumpForward sendAck passed
  · rw [branch]
    exact truthful.acceptOld sendAck passed
  · rw [branch]
    exact truthful

theorem channelTransmit
    {calls : List AckCall} {state : AckState}
    (truthful : TruthfulState calls state) :
    TruthfulState calls state.channelTransmit := by
  unfold AckState.channelTransmit
  split_ifs
  · exact ⟨truthful.sent, truthful.current⟩
  · exact truthful

theorem step
    {calls : List AckCall} {state next : AckState} {call : AckCall}
    (truthful : TruthfulState calls state)
    (taken : AckStep state call next) :
    TruthfulState (calls ++ [call]) next := by
  obtain ⟨window, rfl⟩ := taken
  have later := truthful.mono call
  cases call with
  | acknowledge pktseq sendAck =>
      rw [AckCall.apply]
      exact
        later.acknowledge sendAck
          (passed_acknowledge calls pktseq sendAck)
          (window pktseq sendAck rfl)
  | ackTimeout =>
      exact later.flushAck
  | channelTransmit =>
      exact later.channelTransmit

theorem initial : TruthfulState [] AckState.initial where
  sent := by
    intro ack member
    simp [AckState.initial] at member
  current :=
    { nonneg := le_refl 0
      bounded := by decide
      arrived := by
        intro number covered
        have upper : number ≤ (0 : UInt64).toNat := covered.2
        exact Or.inl (Nat.le_zero.mp upper) }

theorem of_run
    {calls : List AckCall} {final : AckState}
    (run : AckRun AckState.initial calls final) :
    TruthfulState calls final :=
  run.induct TruthfulState initial
    fun _ _ _ _ _ truthful taken => truthful.step taken

end TruthfulState

/-- Count calls that advance the sequence by exactly one, starting over at
each gap. -/
def countAdvance (before after : AckState) (count : Nat) : Nat :=
  if after.rxAckSequence.toNat = before.rxAckSequence.toNat + 1 then
    count + 1
  else if before.rxAckSequence.toNat + 1 < after.rxAckSequence.toNat then
    0
  else
    count

/-- The state after the calls, with the advances by one since the last gap
or since the start. -/
def replay (calls : List AckCall) : AckState × Nat :=
  calls.foldl
    (fun reached call =>
      (call.apply reached.1,
        countAdvance reached.1 (call.apply reached.1) reached.2))
    (AckState.initial, 0)

def advancesSinceGap (calls : List AckCall) : Nat :=
  (replay calls).2

private theorem replay_snoc (calls : List AckCall) (call : AckCall) :
    replay (calls ++ [call]) =
      (call.apply (replay calls).1,
        countAdvance (replay calls).1 (call.apply (replay calls).1)
          (replay calls).2) := by
  simp [replay, List.foldl_append]

theorem AckState.flushAck_rxAckSequence (state : AckState) :
    state.flushAck.rxAckSequence = state.rxAckSequence := by
  unfold flushAck txAck
  split_ifs <;> rfl

theorem AckState.flushAck_rxAckCount (state : AckState) :
    state.flushAck.rxAckCount = state.rxAckCount := by
  unfold flushAck txAck
  split_ifs <;> rfl

theorem AckState.scheduleAck_rxAckSequence
    (state : AckState) (sendAck : Bool) :
    (state.scheduleAck sendAck).rxAckSequence =
      state.rxAckSequence := by
  unfold scheduleAck
  split_ifs
  all_goals first | rfl | exact state.flushAck_rxAckSequence

private theorem AckState.scheduleAck_rxAckCount
    (state : AckState) (sendAck : Bool) :
    (state.scheduleAck sendAck).rxAckCount = state.rxAckCount := by
  unfold scheduleAck
  split_ifs
  all_goals first | rfl | exact state.flushAck_rxAckCount

/-- What one call does to the sequence number and the count: it rolls both
forward by one, jumps and starts the count over, or leaves both alone. -/
theorem step_sequence_count
    {state next : AckState} {call : AckCall}
    (taken : AckStep state call next) :
    (next.rxAckSequence.toNat = state.rxAckSequence.toNat + 1 ∧
        next.rxAckCount = min (state.rxAckCount + 1) 15) ∨
      ((∃ pktseq sendAck,
          call = .acknowledge pktseq sendAck ∧
            state.rxAckSequence.toNat + 1 < pktseq.toNat) ∧
        state.rxAckSequence.toNat + 1 < next.rxAckSequence.toNat ∧
        next.rxAckCount = 0) ∨
      (next.rxAckSequence = state.rxAckSequence ∧
        next.rxAckCount = state.rxAckCount) := by
  obtain ⟨window, rfl⟩ := taken
  cases call with
  | acknowledge pktseq sendAck =>
      rcases AckState.acknowledge_cases sendAck
          (window pktseq sendAck rfl) with
        ⟨contiguous, branch⟩ | ⟨gap, branch⟩ | ⟨_, branch⟩ |
          ⟨_, branch⟩
      · left
        rw [AckCall.apply, branch, AckState.scheduleAck_rxAckSequence,
          AckState.scheduleAck_rxAckCount]
        exact ⟨contiguous, rfl⟩
      · right
        left
        refine ⟨⟨pktseq, sendAck, rfl, gap⟩, ?_⟩
        rw [AckCall.apply, branch]
        cases sendAck <;> exact ⟨gap, rfl⟩
      · right
        right
        rw [AckCall.apply, branch]
        cases sendAck <;>
          exact
            ⟨state.flushAck_rxAckSequence, state.flushAck_rxAckCount⟩
      · right
        right
        rw [AckCall.apply, branch]
        exact ⟨rfl, rfl⟩
  | ackTimeout =>
      right
      right
      exact ⟨state.flushAck_rxAckSequence, state.flushAck_rxAckCount⟩
  | channelTransmit =>
      right
      right
      simp only [AckCall.apply, AckState.channelTransmit]
      split_ifs <;> exact ⟨rfl, rfl⟩

private theorem replay_eq_of_run
    {calls : List AckCall} {final : AckState}
    (run : AckRun AckState.initial calls final) :
    (replay calls).1 = final ∧
      final.rxAckCount = min 15 ((replay calls).2 : Int) := by
  refine run.induct
    (fun calls state =>
      (replay calls).1 = state ∧
        state.rxAckCount = min 15 ((replay calls).2 : Int))
    ⟨rfl, rfl⟩ ?_
  rintro calls state call next _ ⟨rfl, count⟩ taken
  rw [replay_snoc]
  refine ⟨taken.2.symm, ?_⟩
  rw [← taken.2]
  simp only [countAdvance]
  rcases step_sequence_count taken with
    ⟨advanced, grown⟩ | ⟨_, gap, restarted⟩ | ⟨sameSequence, sameCount⟩
  · rw [if_pos advanced, grown, count]
    push_cast
    omega
  · rw [if_neg (by omega), if_pos gap, restarted]
    rfl
  · rw [sameSequence, if_neg (by omega), if_neg (by omega), sameCount,
      count]

/-- No call of the run named a number beyond the next one expected. -/
def NoLoss (calls : List AckCall) : Prop :=
  ∀ earlier pktseq sendAck later,
    calls = earlier ++ .acknowledge pktseq sendAck :: later →
      pktseq.toNat ≤ (replay earlier).1.rxAckSequence.toNat + 1

theorem NoLoss.of_snoc
    {calls : List AckCall} {call : AckCall}
    (noLoss : NoLoss (calls ++ [call])) : NoLoss calls := by
  rintro earlier pktseq sendAck later rfl
  exact noLoss earlier pktseq sendAck (later ++ [call]) (by simp)

private theorem advancesSinceGap_of_noLoss
    {calls : List AckCall} {final : AckState}
    (run : AckRun AckState.initial calls final) :
    NoLoss calls →
      advancesSinceGap calls = final.rxAckSequence.toNat := by
  refine run.induct
    (fun calls state =>
      NoLoss calls →
        advancesSinceGap calls = state.rxAckSequence.toNat)
    (fun _ => rfl) ?_
  intro calls state call next earlier counted taken noLoss
  obtain ⟨reached, _⟩ := replay_eq_of_run earlier
  have soFar := counted noLoss.of_snoc
  simp only [advancesSinceGap] at soFar ⊢
  rw [replay_snoc, reached, ← taken.2]
  simp only [countAdvance]
  rcases step_sequence_count taken with
    ⟨advanced, _⟩ | ⟨⟨pktseq, sendAck, rfl, beyond⟩, _⟩ |
      ⟨sameSequence, _⟩
  · rw [if_pos advanced]
    omega
  · have bound := noLoss calls pktseq sendAck [] rfl
    rw [reached] at bound
    omega
  · rw [sameSequence, if_neg (by omega), if_neg (by omega), soFar]

/-- In every run inside the window, every acknowledgment handed to
`transmit_ack` counts at most fifteen packets and covers only packet 0 and
packets passed to `acknowledge`; the count of contiguous packets is the
number of advances by one since the last gap, up to fifteen; and without a
gap it is the sequence number itself, up to fifteen. -/
theorem acks_truthful_and_counted
    {calls : List AckCall} {final : AckState}
    (run : AckRun AckState.initial calls final) :
    (∀ ack ∈ final.acksSent,
        0 ≤ ack.2 ∧ ack.2 ≤ 15 ∧
          ∀ number, Covers ack number →
            number = 0 ∨ Passed calls number) ∧
      final.rxAckCount = min 15 (advancesSinceGap calls : Int) ∧
      (NoLoss calls →
        final.rxAckCount = min 15 (final.rxAckSequence.toNat : Int)) := by
  have counted := (replay_eq_of_run run).2
  refine ⟨?_, counted, ?_⟩
  · intro ack member
    have truthful := (TruthfulState.of_run run).sent ack member
    exact ⟨truthful.nonneg, truthful.bounded, truthful.arrived⟩
  · intro noLoss
    rw [← advancesSinceGap_of_noLoss run noLoss]
    exact counted

private theorem lossRun :
    AckRun AckState.initial
      [.acknowledge 1 true, .acknowledge 2 false, .acknowledge 5 true]
      ⟨5, 0, 0, none, [(5, 0), (2, 2)]⟩ := by
  have first :
      AckRun AckState.initial [.acknowledge 1 true]
        ⟨1, 1, 1, some 10, []⟩ :=
    Run.single ⟨by rintro _ _ ⟨⟩; decide, by decide⟩
  have second :
      AckRun AckState.initial
        [.acknowledge 1 true, .acknowledge 2 false]
        ⟨2, 2, 2, some 10, []⟩ :=
    Run.snoc (AckCall.acknowledge 2 false) first
      ⟨by rintro _ _ ⟨⟩; decide, by decide⟩
  exact
    Run.snoc (AckCall.acknowledge 5 true) second
      ⟨by rintro _ _ ⟨⟩; decide, by decide⟩

/-- Packets 1, 2 and 5: the delayed acknowledgment of 1 and 2 goes out
before the one of 5, and the count starts over. -/
theorem acks_truthful_after_loss :
    (∀ ack ∈ [((5 : UInt64), (0 : Int)), (2, 2)],
        0 ≤ ack.2 ∧ ack.2 ≤ 15 ∧
          ∀ number, Covers ack number →
            number = 0 ∨
              Passed
                [.acknowledge 1 true, .acknowledge 2 false,
                  .acknowledge 5 true]
                number) ∧
      advancesSinceGap
          [.acknowledge 1 true, .acknowledge 2 false,
            .acknowledge 5 true] =
        0 :=
  ⟨(acks_truthful_and_counted lossRun).1, by decide⟩

end StructuredStreams.Channel
