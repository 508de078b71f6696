import StructuredStreams.Foundation.Guarded
import StructuredStreams.Foundation.MachineInt
import StructuredStreams.Foundation.Run

/-!
# Congestion control

The congestion window of a channel under the four strategies that change it:
TCP-like, aggressive, low-delay and Vegas.  The window and the thresholds are
unsigned 32-bit integers.  Sequence numbers and counters of the channel, and
the outcomes of comparisons of floating-point numbers and of times, come from
outside and may be anything at every call.
-/

namespace StructuredStreams.Channel

def cwndMin : Nat :=
  2

def cwndMax : Nat :=
  2 ^ 20

/-- The part of the shared state of a channel that congestion control
reads. -/
structure SharedState where
  txSequence : UInt64
  txAckSequence : UInt64
  markSequence : UInt64
  markBase : UInt64
  txInflightCount : UInt32
  markAcks : UInt32
  markSent : UInt32
  deriving DecidableEq, Repr

/-- The outcomes of the comparisons made on times and floating-point
numbers. -/
structure Comparisons where
  /-- `elapsed_since_mark() <= lastrtt` -/
  onSchedule : Bool
  /-- `pwr > basepwr` -/
  morePower : Bool
  /-- `rtt > basertt`, after the base values were adapted -/
  slower : Bool
  /-- `pps < basepps`, after the base values were adapted -/
  fewerPackets : Bool
  /-- `diffpps >= 0.0` -/
  diffNonnegative : Bool
  /-- `diffpprt < 1.0` -/
  diffBelowOne : Bool
  /-- `diffpprt > 3.0` -/
  diffAboveThree : Bool
  deriving DecidableEq, Repr

inductive Strategy where
  | tcp
  | aggressive
  | delay
  | vegas
  deriving DecidableEq, Repr

structure CongestionControl where
  cwnd : Nat
  cwndLimited : Bool
  recovseq : UInt64
  ssthresh : Nat
  sstoggle : Bool
  ssbase : Nat
  cwndinc : Int
  basewnd : Nat
  /-- Whether a step on `cwnd` ever left the range of its type. -/
  overflowed : Bool
  deriving DecidableEq, Repr

namespace CongestionControl

/-- `cwnd_ += step` in unsigned 32-bit arithmetic. -/
def stepCwnd (cc : CongestionControl) (step : Int) : CongestionControl :=
  { cc with
    cwnd := ((cc.cwnd + step) % 2 ^ 32).toNat
    overflowed :=
      cc.overflowed || !decide (0 ≤ cc.cwnd + step) ||
        !decide (cc.cwnd + step < 2 ^ 32) }

def reset (cc : CongestionControl) : CongestionControl :=
  { cc with
    cwnd := cwndMin
    cwndLimited := true
    ssthresh := cwndMax
    sstoggle := true
    ssbase := 0
    cwndinc := 1
    overflowed := false }

def missed
    (cc : CongestionControl) (state : SharedState) (pktseq : UInt64) :
    CongestionControl :=
  if pktseq ≤ cc.recovseq then cc
  else
    let ssthresh := max (cc.cwnd / 2) cwndMin
    { cc with
      ssthresh := ssthresh
      cwnd := ssthresh
      recovseq := state.txSequence }

def timeout (cc : CongestionControl) (state : SharedState) :
    CongestionControl :=
  { cc with
    ssthresh := max (state.txInflightCount.toNat / 2) cwndMin
    cwnd := cwndMin }

/-- The slow start that `cc_tcp` and `cc_vegas` have a copy of each. -/
def slowStart (cc : CongestionControl) (newPackets : Nat) :
    CongestionControl :=
  if newPackets ≠ 0 ∧ cc.cwndLimited = true ∧ cc.cwnd < cc.ssthresh then
    let boosted := cc.stepCwnd newPackets
    { boosted with cwnd := min boosted.cwnd cc.ssthresh }
  else cc

/-- The slow start that `cc_aggressive` and `cc_delay` have a copy of
each. -/
def slowStartOnSchedule
    (cc : CongestionControl) (state : SharedState)
    (comparisons : Comparisons) (newPackets : Nat) : CongestionControl :=
  if cc.ssbase < state.markAcks.toNat ∧ comparisons.onSchedule = true then
    cc.stepCwnd (min newPackets (state.markAcks.toNat - cc.ssbase) : Nat)
  else cc

def tcpUpdate (cc : CongestionControl) (newPackets : Nat) :
    CongestionControl :=
  cc.slowStart newPackets

def tcpRttUpdate (cc : CongestionControl) : CongestionControl :=
  let cc := if cc.cwndLimited then cc.stepCwnd 1 else cc
  { cc with cwndLimited := false }

/-- The number of packets of this round trip that seem to be lost. -/
def aggressiveLost (state : SharedState) : Int :=
  max 0
    (wrapInt
      ((state.txAckSequence - state.markBase -
        state.markAcks.toUInt64).toNat))

/-- The number of packets to expect, in unsigned 32-bit arithmetic. -/
def aggressiveExpected (state : SharedState) : Nat :=
  (((state.markSent.toNat : Int) - aggressiveLost state) % 2 ^ 32).toNat

def aggressiveMissed (cc : CongestionControl) (state : SharedState) :
    CongestionControl :=
  let expected := aggressiveExpected state
  if expected < cc.cwnd then
    { cc with ssbase := expected, cwnd := max cwndMin expected }
  else cc

def aggressiveUpdate
    (cc : CongestionControl) (state : SharedState)
    (comparisons : Comparisons) (newPackets : Nat) : CongestionControl :=
  cc.slowStartOnSchedule state comparisons newPackets

def aggressiveRttUpdate (cc : CongestionControl) : CongestionControl :=
  cc

/-- One step of the window up or down, with the reversal at its ends. -/
def delayTurn (cc : CongestionControl) (comparisons : Comparisons) :
    CongestionControl :=
  if 0 < cc.cwndinc then
    if comparisons.slower = true ∨ cwndMax ≤ cc.cwnd then
      { cc with cwndinc := -1 }
    else cc.stepCwnd cc.cwndinc
  else
    if comparisons.fewerPackets = true ∨ cc.cwnd ≤ cwndMin then
      { cc.stepCwnd 1 with ssbase := cc.cwnd, cwndinc := 1 }
    else cc.stepCwnd cc.cwndinc

def delayRttUpdate
    (cc : CongestionControl) (state : SharedState)
    (comparisons : Comparisons) : CongestionControl :=
  let cc :=
    if comparisons.morePower then
      { cc with basewnd := state.markAcks.toNat }
    else cc
  let cc := cc.delayTurn comparisons
  { cc with cwnd := min cwndMax (max cwndMin cc.cwnd) }

def delayUpdate
    (cc : CongestionControl) (state : SharedState)
    (comparisons : Comparisons) (newPackets : Nat) : CongestionControl :=
  if cc.cwndinc < 0 then cc
  else cc.slowStartOnSchedule state comparisons newPackets

/-- There is no result when the assertion about the rates fails. -/
def vegasRttUpdate
    (cc : CongestionControl) (comparisons : Comparisons) :
    Option CongestionControl := do
  guard (comparisons.diffNonnegative = true)
  if comparisons.diffBelowOne = true ∧ cc.cwnd < cwndMax ∧
      cc.cwndLimited = true then
    return cc.stepCwnd 1
  else if comparisons.diffAboveThree = true ∧ cwndMin < cc.cwnd then
    let cc := cc.stepCwnd (-1)
    return { cc with ssthresh := min cc.ssthresh cc.cwnd }
  else
    return cc

def vegasUpdate (cc : CongestionControl) (newPackets : Nat) :
    CongestionControl :=
  let cc := { cc with sstoggle := !cc.sstoggle }
  if cc.sstoggle then cc else cc.slowStart newPackets

def update
    (strategy : Strategy) (cc : CongestionControl) (state : SharedState)
    (comparisons : Comparisons) (newPackets : Nat) : CongestionControl :=
  match strategy with
  | .tcp => cc.tcpUpdate newPackets
  | .aggressive => cc.aggressiveUpdate state comparisons newPackets
  | .delay => cc.delayUpdate state comparisons newPackets
  | .vegas => cc.vegasUpdate newPackets

def rttUpdate
    (strategy : Strategy) (cc : CongestionControl) (state : SharedState)
    (comparisons : Comparisons) : Option CongestionControl :=
  match strategy with
  | .tcp => some cc.tcpRttUpdate
  | .aggressive => some cc.aggressiveRttUpdate
  | .delay => some (cc.delayRttUpdate state comparisons)
  | .vegas => cc.vegasRttUpdate comparisons

def missedBy
    (strategy : Strategy) (cc : CongestionControl) (state : SharedState)
    (pktseq : UInt64) : CongestionControl :=
  match strategy with
  | .aggressive => cc.aggressiveMissed state
  | _ => cc.missed state pktseq

/-- `cc_and_rtt_update`.  The statistics it computes are numbers that only
the comparisons use. -/
def ccAndRttUpdate
    (strategy : Strategy) (nocc : Bool) (cc : CongestionControl)
    (state : SharedState) (comparisons : Comparisons)
    (newPackets : Nat) (ackseq : UInt64) : Option CongestionControl :=
  let updated :=
    if nocc then cc else cc.update strategy state comparisons newPackets
  let measured :=
    if state.markSequence ≤ ackseq ∧ nocc = false then
      updated.rttUpdate strategy state comparisons
    else some updated
  measured.map fun cc => { cc with cwnd := min cc.cwnd cwndMax }

/-- `may_transmit` under congestion control: how many packets may be sent. -/
def mayTransmit (cc : CongestionControl) (state : SharedState) :
    Nat × CongestionControl :=
  if state.txInflightCount.toNat < cc.cwnd then
    (toSize (wrapInt ((cc.cwnd : Int) - state.txInflightCount.toNat)), cc)
  else
    (0, { cc with cwndLimited := true })

end CongestionControl

end StructuredStreams.Channel
