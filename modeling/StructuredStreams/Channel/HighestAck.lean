import Mathlib.Data.List.Induction
import StructuredStreams.Channel.AckTruth

/-!
# The highest sequence number acknowledged so far

`rx_ack_sequence_` is meant to be the highest number passed to
`acknowledge`.  The comparison is made on the difference cut to a signed
32-bit integer, so it reads the order of two numbers rightly only at some
distances.  The distances are described here, for single calls and for whole
sequences of calls with timer expirations and transmissions in between.
-/

namespace StructuredStreams.Channel

namespace AckCall

/-- The highest number passed, after one more call. -/
def raise (highest : Nat) : AckCall → Nat
  | .acknowledge pktseq _ => max highest pktseq.toNat
  | .ackTimeout => highest
  | .channelTransmit => highest

end AckCall

/-- The state of a new channel after the calls. -/
def stateAfter (calls : List AckCall) : AckState :=
  calls.foldl AckCall.apply AckState.initial

/-- The maximum of 0 and the numbers passed to `acknowledge`. -/
def highestPassed (calls : List AckCall) : Nat :=
  calls.foldl AckCall.raise 0

/-- At every moment the state holds the maximum of 0 and the numbers passed
so far, and it never holds a smaller number than before. -/
structure TracksHighest (calls : List AckCall) : Prop where
  highest :
    ∀ earlier, earlier <+: calls →
      (stateAfter earlier).rxAckSequence.toNat = highestPassed earlier
  neverDecreases :
    ∀ earlier later, earlier <+: later → later <+: calls →
      (stateAfter earlier).rxAckSequence ≤
        (stateAfter later).rxAckSequence

/-- The signed 32-bit difference of the two numbers has the right sign: a
number ahead of the highest one differs from it by 1 to `2 ^ 31 - 1`, and a
number that is not ahead by at most `2 ^ 31`, both modulo `2 ^ 32`. -/
def ReadableDistance (highest number : Nat) : Prop :=
  (highest < number →
      0 < (number - highest) % 2 ^ 32 ∧
        (number - highest) % 2 ^ 32 < 2 ^ 31) ∧
    (number ≤ highest → (highest - number) % 2 ^ 32 ≤ 2 ^ 31)

instance (highest number : Nat) :
    Decidable (ReadableDistance highest number) :=
  inferInstanceAs (Decidable (_ ∧ _))

/-- Every number passed is at a readable distance from the highest number
passed before it. -/
def StaysReadable (calls : List AckCall) : Prop :=
  ∀ earlier pktseq sendAck,
    earlier ++ [.acknowledge pktseq sendAck] <+: calls →
      ReadableDistance (highestPassed earlier) pktseq.toNat

namespace AckState

private theorem seqDiff_self
    (pktseq : UInt64) : seqDiff pktseq pktseq = 0 := by
  unfold seqDiff
  rw [UInt64.sub_self]
  simp

private theorem jumpForward_rxAckSequence
    (state : AckState) (pktseq : UInt64) (sendAck : Bool) :
    (state.jumpForward pktseq sendAck).rxAckSequence = pktseq := by
  cases sendAck <;> rfl

private theorem acceptOld_rxAckSequence
    (state : AckState) (pktseq : UInt64) (sendAck : Bool) :
    (state.acceptOld pktseq sendAck).rxAckSequence =
      state.rxAckSequence := by
  cases sendAck <;> exact state.flushAck_rxAckSequence

private theorem channelTransmit_rxAckSequence (state : AckState) :
    state.channelTransmit.rxAckSequence = state.rxAckSequence := by
  unfold channelTransmit
  split_ifs <;> rfl

/-- A call moves the sequence number exactly when the 32-bit difference is
positive. -/
theorem acknowledge_rxAckSequence
    (state : AckState) (pktseq : UInt64) (sendAck : Bool) :
    (state.acknowledge pktseq sendAck).rxAckSequence =
      if 0 < seqDiff pktseq state.rxAckSequence then pktseq
      else state.rxAckSequence := by
  simp only [acknowledge]
  by_cases contiguous : seqDiff pktseq state.rxAckSequence = 1
  · rw [if_pos contiguous, if_pos (by omega),
      scheduleAck_rxAckSequence]
    rfl
  · rw [if_neg contiguous]
    by_cases ahead : 1 < seqDiff pktseq state.rxAckSequence
    · rw [if_pos ahead, if_pos (by omega), jumpForward_rxAckSequence]
    · rw [if_neg ahead]
      rw [if_neg (c := 0 < seqDiff pktseq state.rxAckSequence)
        (by omega)]
      split_ifs
      · exact state.acceptOld_rxAckSequence pktseq sendAck
      · rfl

end AckState

/-- The distance is readable exactly when the sign of the 32-bit difference
tells the order of the numbers. -/
theorem readableDistance_iff (pktseq latest : UInt64) :
    ReadableDistance latest.toNat pktseq.toNat ↔
      (0 < AckState.seqDiff pktseq latest ↔
        latest.toNat < pktseq.toNat) := by
  have pktseqBound := pktseq.toNat_lt
  have latestBound := latest.toNat_lt
  unfold ReadableDistance AckState.seqDiff
  rw [UInt64.toNat_sub, Int.bmod_def]
  push_cast
  omega

/-- One call keeps the maximum exactly at readable distances. -/
theorem acknowledge_keeps_highest_iff
    (state : AckState) (pktseq : UInt64) (sendAck : Bool) :
    (state.acknowledge pktseq sendAck).rxAckSequence.toNat =
        max state.rxAckSequence.toNat pktseq.toNat ↔
      ReadableDistance state.rxAckSequence.toNat pktseq.toNat := by
  rw [readableDistance_iff, AckState.acknowledge_rxAckSequence]
  by_cases positive : 0 < AckState.seqDiff pktseq state.rxAckSequence
  · rw [if_pos positive]
    have different : pktseq.toNat ≠ state.rxAckSequence.toNat := by
      intro equal
      rw [UInt64.toNat_inj.mp equal, AckState.seqDiff_self] at positive
      exact lt_irrefl 0 positive
    omega
  · rw [if_neg positive]
    omega

private theorem stateAfter_snoc (calls : List AckCall) (call : AckCall) :
    stateAfter (calls ++ [call]) = call.apply (stateAfter calls) := by
  simp [stateAfter, List.foldl_append]

private theorem highestPassed_snoc (calls : List AckCall) (call : AckCall) :
    highestPassed (calls ++ [call]) =
      call.raise (highestPassed calls) := by
  simp [highestPassed, List.foldl_append]

private theorem le_raise (highest : Nat) (call : AckCall) :
    highest ≤ call.raise highest := by
  cases call with
  | acknowledge pktseq sendAck =>
      exact le_max_left _ _
  | ackTimeout =>
      exact le_refl highest
  | channelTransmit =>
      exact le_refl highest

private theorem highestPassed_mono
    {earlier later : List AckCall} (initial : earlier <+: later) :
    highestPassed earlier ≤ highestPassed later := by
  obtain ⟨rest, rfl⟩ := initial
  induction rest using List.reverseRecOn with
  | nil =>
      simp
  | append_singleton rest call inductionHypothesis =>
      rw [← List.append_assoc, highestPassed_snoc]
      exact inductionHypothesis.trans (le_raise _ call)

/-- One more call keeps the maximum, when the number it passes is at a
readable distance. -/
theorem apply_keeps_highest
    {state : AckState} {call : AckCall}
    (readable :
      ∀ pktseq sendAck, call = .acknowledge pktseq sendAck →
        ReadableDistance state.rxAckSequence.toNat pktseq.toNat) :
    (call.apply state).rxAckSequence.toNat =
      call.raise state.rxAckSequence.toNat := by
  cases call with
  | acknowledge pktseq sendAck =>
      exact
        (acknowledge_keeps_highest_iff state pktseq sendAck).mpr
          (readable pktseq sendAck rfl)
  | ackTimeout =>
      exact congrArg UInt64.toNat state.flushAck_rxAckSequence
  | channelTransmit =>
      exact congrArg UInt64.toNat state.channelTransmit_rxAckSequence

private theorem StaysReadable.of_prefix
    {earlier calls : List AckCall}
    (readable : StaysReadable calls) (initial : earlier <+: calls) :
    StaysReadable earlier := by
  intro front pktseq sendAck reached
  exact readable front pktseq sendAck (reached.trans initial)

theorem StaysReadable.highest
    (calls : List AckCall) (readable : StaysReadable calls) :
    (stateAfter calls).rxAckSequence.toNat = highestPassed calls := by
  induction calls using List.reverseRecOn with
  | nil =>
      rfl
  | append_singleton calls call inductionHypothesis =>
      have soFar :=
        inductionHypothesis
          (readable.of_prefix (List.prefix_append calls [call]))
      rw [stateAfter_snoc, highestPassed_snoc, ← soFar]
      apply apply_keeps_highest
      rintro pktseq sendAck rfl
      rw [soFar]
      exact readable calls pktseq sendAck (List.prefix_refl _)

/-- The state holds the maximum of 0 and the numbers passed so far, after
every call, if and only if every number passed is at a readable distance
from the highest one before it. -/
theorem tracksHighest_iff_staysReadable (calls : List AckCall) :
    TracksHighest calls ↔ StaysReadable calls := by
  constructor
  · intro tracks earlier pktseq sendAck reached
    have before :=
      tracks.highest earlier
        ((List.prefix_append earlier _).trans reached)
    have after := tracks.highest _ reached
    rw [stateAfter_snoc, highestPassed_snoc, ← before] at after
    rw [← before]
    exact
      (acknowledge_keeps_highest_iff
        (stateAfter earlier) pktseq sendAck).mp after
  · intro readable
    have highest :
        ∀ earlier, earlier <+: calls →
          (stateAfter earlier).rxAckSequence.toNat =
            highestPassed earlier := by
      intro earlier initial
      exact (readable.of_prefix initial).highest
    refine ⟨highest, ?_⟩
    intro earlier later initial reached
    rw [UInt64.le_iff_toNat_le, highest later reached,
      highest earlier (initial.trans reached)]
    exact highestPassed_mono initial

/-- A first packet numbered `2 ^ 32` counts as a duplicate of packet 0. -/
theorem far_packet_not_tracked :
    ¬ TracksHighest [.acknowledge 0x100000000 true] := by
  intro tracks
  have highest := tracks.highest _ (List.prefix_refl _)
  revert highest
  decide

end StructuredStreams.Channel
