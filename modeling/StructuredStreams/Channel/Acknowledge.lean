import Mathlib.Algebra.Order.Ring.Int
import StructuredStreams.Foundation.Run

/-!
# Receive-side acknowledgment state

The part of the channel that decides which acknowledgments are sent: the
cumulative range `[rxAckSequence - rxAckCount, rxAckSequence]`, the count of
packets that still wait for an acknowledgment, and the delayed-ack timer.
Every call of `transmit_ack` is recorded with its arguments.
-/

namespace StructuredStreams.Channel

/-- The most packets one acknowledgment counts before its sequence number. -/
def maxAckCount : Int := 0xf

/-- Delay an acknowledgment for up to this many data packets. -/
def minAckPackets : Nat := 2

/-- Send an acknowledgment after this many packets no matter what. -/
def maxAckPackets : Nat := 4

structure AckState where
  /-- Highest sequence number acknowledged so far. -/
  rxAckSequence : UInt64
  /-- Number of contiguous packets received before `rxAckSequence`. -/
  rxAckCount : Int
  /-- Number of contiguous packets not yet acknowledged, an unsigned byte. -/
  rxUnacked : Nat
  /-- The delay in milliseconds the timer runs with, when it is active. -/
  ackTimer : Option Nat
  /-- Arguments of the `transmit_ack` calls so far, the latest first. -/
  acksSent : List (UInt64 × Int)
  deriving DecidableEq, Repr

namespace AckState

/-- The state of a new channel, with the fictitious packet 0 received. -/
def initial : AckState where
  rxAckSequence := 0
  rxAckCount := 0
  rxUnacked := 0
  ackTimer := none
  acksSent := []

/-- The difference of two sequence numbers as a 32-bit signed integer. -/
def seqDiff (pktseq rxAckSequence : UInt64) : Int :=
  ((pktseq - rxAckSequence).toNat : Int).bmod (2 ^ 32)

def txAck (state : AckState) (ackseq : UInt64) (ackCount : Int) :
    AckState :=
  { state with acksSent := (ackseq, ackCount) :: state.acksSent }

def flushAck (state : AckState) : AckState :=
  let flushed :=
    if state.rxUnacked ≠ 0 then
      { state with rxUnacked := 0 }.txAck
        state.rxAckSequence state.rxAckCount
    else
      state
  { flushed with ackTimer := none }

def ackTimeout (state : AckState) : AckState :=
  state.flushAck

/-- The in-order and contiguous branch, up to the count of unacknowledged
packets. -/
def rollForward (state : AckState) (pktseq : UInt64) : AckState :=
  { state with
    rxAckSequence := pktseq
    rxAckCount := min (state.rxAckCount + 1) maxAckCount
    rxUnacked := (state.rxUnacked + 1) % 2 ^ 8 }

/-- The rest of the contiguous branch: acknowledge now, soon, or not yet. -/
def scheduleAck (state : AckState) (sendAck : Bool) : AckState :=
  if sendAck = false ∧ state.rxUnacked < maxAckPackets then
    state
  else if state.rxUnacked < maxAckPackets then
    if state.rxUnacked < minAckPackets then
      if state.ackTimer.isNone then
        { state with ackTimer := some 10 }
      else
        state
    else
      { state with ackTimer := some 0 }
  else
    state.flushAck

/-- The in-order but discontiguous branch. -/
def jumpForward
    (state : AckState) (pktseq : UInt64) (sendAck : Bool) : AckState :=
  let jumped :=
    { state.flushAck with rxAckSequence := pktseq, rxAckCount := 0 }
  if sendAck then jumped.txAck pktseq 0 else jumped

/-- The branch for an old packet received out of order. -/
def acceptOld
    (state : AckState) (pktseq : UInt64) (sendAck : Bool) : AckState :=
  if sendAck then state.flushAck.txAck pktseq 0 else state.flushAck

def acknowledge
    (state : AckState) (pktseq : UInt64) (sendAck : Bool) : AckState :=
  let difference := seqDiff pktseq state.rxAckSequence
  if difference = 1 then
    (state.rollForward pktseq).scheduleAck sendAck
  else if 1 < difference then
    state.jumpForward pktseq sendAck
  else if difference < 0 then
    state.acceptOld pktseq sendAck
  else
    state

/-- A packet that asks for an acknowledgment brings one about at once when it
comes out of order or is the fourth that waits for one. -/
def SendsAck (state : AckState) (pktseq : UInt64) : Prop :=
  let difference := seqDiff pktseq state.rxAckSequence
  difference ≠ 0 ∧
    (difference = 1 → maxAckPackets ≤ (state.rxUnacked + 1) % 2 ^ 8)

/-- What `channel_transmit` does to this state: the packet it sends carries
the acknowledgment, so nothing is owed any more. -/
def channelTransmit (state : AckState) : AckState :=
  if state.rxUnacked ≠ 0 then
    { state with rxUnacked := 0, ackTimer := none }
  else
    state

end AckState

/-- The calls that touch the acknowledgment state. -/
inductive AckCall where
  | acknowledge (pktseq : UInt64) (sendAck : Bool)
  | ackTimeout
  | channelTransmit
  deriving DecidableEq, Repr

namespace AckCall

def apply (state : AckState) : AckCall → AckState
  | .acknowledge pktseq sendAck => state.acknowledge pktseq sendAck
  | .ackTimeout => state.ackTimeout
  | .channelTransmit => state.channelTransmit

end AckCall

/-- The packet number is less than `2 ^ 31` away from the latest one. -/
def InWindow (state : AckState) (pktseq : UInt64) : Prop :=
  ((pktseq.toNat : Int) - state.rxAckSequence.toNat).natAbs < 2 ^ 31

instance (state : AckState) (pktseq : UInt64) :
    Decidable (InWindow state pktseq) :=
  inferInstanceAs (Decidable (_ < _))

/-- One call, with packet numbers in the window. -/
def AckStep (state : AckState) (call : AckCall) (next : AckState) : Prop :=
  (∀ pktseq sendAck,
      call = .acknowledge pktseq sendAck → InWindow state pktseq) ∧
    next = call.apply state

abbrev AckRun := Run AckStep

namespace AckState

/-- Inside the window the 32-bit difference is the integer difference. -/
theorem seqDiff_eq_sub
    {state : AckState} {pktseq : UInt64}
    (window : InWindow state pktseq) :
    seqDiff pktseq state.rxAckSequence =
      (pktseq.toNat : Int) - state.rxAckSequence.toNat := by
  have lowBound := pktseq.toNat_lt
  have highBound := state.rxAckSequence.toNat_lt
  unfold InWindow at window
  unfold seqDiff
  rw [UInt64.toNat_sub, Int.bmod_def]
  push_cast
  omega

/-- One call of `acknowledge` inside the window takes one of four branches,
told apart by the order of the packet numbers. -/
theorem acknowledge_cases
    {state : AckState} {pktseq : UInt64} (sendAck : Bool)
    (window : InWindow state pktseq) :
    (pktseq.toNat = state.rxAckSequence.toNat + 1 ∧
        state.acknowledge pktseq sendAck =
          (state.rollForward pktseq).scheduleAck sendAck) ∨
      (state.rxAckSequence.toNat + 1 < pktseq.toNat ∧
        state.acknowledge pktseq sendAck =
          state.jumpForward pktseq sendAck) ∨
      (pktseq.toNat < state.rxAckSequence.toNat ∧
        state.acknowledge pktseq sendAck =
          state.acceptOld pktseq sendAck) ∨
      (pktseq = state.rxAckSequence ∧
        state.acknowledge pktseq sendAck = state) := by
  have difference := seqDiff_eq_sub window
  simp only [acknowledge, difference]
  rcases lt_trichotomy pktseq.toNat state.rxAckSequence.toNat with
    older | same | newer
  · refine Or.inr (Or.inr (Or.inl ⟨older, ?_⟩))
    rw [if_neg (by omega), if_neg (by omega), if_pos (by omega)]
  · refine Or.inr (Or.inr (Or.inr ⟨UInt64.toNat_inj.mp same, ?_⟩))
    rw [if_neg (by omega), if_neg (by omega), if_neg (by omega)]
  · by_cases contiguous :
        pktseq.toNat = state.rxAckSequence.toNat + 1
    · refine Or.inl ⟨contiguous, ?_⟩
      rw [if_pos (by omega)]
    · refine Or.inr (Or.inl ⟨by omega, ?_⟩)
      rw [if_neg (by omega), if_pos (by omega)]

theorem flushAck_acksSent (state : AckState) :
    state.flushAck.acksSent =
      if state.rxUnacked ≠ 0 then
        (state.rxAckSequence, state.rxAckCount) :: state.acksSent
      else
        state.acksSent := by
  unfold flushAck txAck
  split_ifs <;> rfl

/-- An acknowledgment after a flush is one more than there were. -/
theorem cons_flushAck_acksSent_ne
    (state : AckState) (ack : UInt64 × Int) :
    ack :: state.flushAck.acksSent ≠ state.acksSent := by
  intro same
  have lengths := congrArg List.length same
  rw [state.flushAck_acksSent] at lengths
  split_ifs at lengths
  · simp only [List.length_cons] at lengths
    omega
  · simp only [List.length_cons] at lengths
    omega

private theorem scheduleAck_acksSent_eq_iff (state : AckState) :
    (state.scheduleAck true).acksSent = state.acksSent ↔
      state.rxUnacked < maxAckPackets := by
  unfold scheduleAck
  rw [if_neg (by simp)]
  by_cases waits : state.rxUnacked < maxAckPackets
  · rw [if_pos waits]
    refine iff_of_true ?_ waits
    split_ifs <;> rfl
  · rw [if_neg waits]
    refine iff_of_false ?_ waits
    have owed : state.rxUnacked ≠ 0 := by
      unfold maxAckPackets at waits
      omega
    rw [state.flushAck_acksSent, if_pos owed]
    exact List.cons_ne_self _ _

/-- No acknowledgment goes out exactly where none is due. -/
theorem acknowledge_acksSent_eq_iff (state : AckState) (pktseq : UInt64) :
    (state.acknowledge pktseq true).acksSent = state.acksSent ↔
      ¬ state.SendsAck pktseq := by
  simp only [acknowledge, SendsAck]
  rcases eq_or_ne (seqDiff pktseq state.rxAckSequence) 1 with
    contiguous | different
  · rw [if_pos contiguous]
    have scheduled :=
      scheduleAck_acksSent_eq_iff (state.rollForward pktseq)
    have rolled :
        (state.rollForward pktseq).acksSent = state.acksSent := rfl
    rw [rolled] at scheduled
    rw [scheduled, contiguous, ← not_le, not_iff_not]
    exact
      ⟨fun due => ⟨one_ne_zero, fun _ => due⟩, fun due => due.2 rfl⟩
  · rw [if_neg different]
    split_ifs with ahead old
    · refine iff_of_false (state.cons_flushAck_acksSent_ne _) ?_
      exact not_not.mpr ⟨by omega, fun same => absurd same different⟩
    · refine iff_of_false (state.cons_flushAck_acksSent_ne _) ?_
      exact not_not.mpr ⟨by omega, fun same => absurd same different⟩
    · refine iff_of_true rfl ?_
      rintro ⟨nonzero, _⟩
      omega

end AckState

end StructuredStreams.Channel
