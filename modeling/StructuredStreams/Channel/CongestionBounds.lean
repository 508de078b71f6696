import StructuredStreams.Channel.Congestion

/-!
# The congestion window stays in bounds

Between two calls the window lies between its minimum and its maximum.
Inside a call it may grow past the maximum, by at most one more than the
number of packets acknowledged at once, before it is clamped.
-/

namespace StructuredStreams.Channel

private theorem cwndMin_le_cwndMax : cwndMin ≤ cwndMax := by
  decide

namespace CongestionControl

/-- The window lies between its minimum and the bound given, and so far its
arithmetic was exact. -/
structure Within (cc : CongestionControl) (bound : Nat) : Prop where
  lower : cwndMin ≤ cc.cwnd
  upper : cc.cwnd ≤ bound
  threshold : cwndMin ≤ cc.ssthresh
  direction : cc.cwndinc = 1 ∨ cc.cwndinc = -1
  exact : cc.overflowed = false

variable {cc : CongestionControl} {bound newPackets : Nat}

theorem Within.mono
    {larger : Nat} (within : Within cc bound) (le : bound ≤ larger) :
    Within cc larger :=
  ⟨within.lower, within.upper.trans le, within.threshold,
    within.direction, within.exact⟩

/-- A step that stays in range is exact. -/
theorem stepCwnd_eq
    {step : Int} (nonnegative : 0 ≤ cc.cwnd + step)
    (small : cc.cwnd + step < 2 ^ 32) :
    cc.stepCwnd step = { cc with cwnd := (cc.cwnd + step).toNat } := by
  unfold stepCwnd
  rw [Int.emod_eq_of_lt nonnegative small, decide_eq_true nonnegative,
    decide_eq_true small, Bool.not_true, Bool.or_false, Bool.or_false]

theorem Within.stepCwnd
    {step : Nat} (within : Within cc bound)
    (room : bound + step < 2 ^ 32) :
    Within (cc.stepCwnd step) (bound + step) := by
  have lower := within.lower
  have upper := within.upper
  rw [stepCwnd_eq (by omega) (by omega)]
  refine
    ⟨?_, ?_, within.threshold, within.direction, within.exact⟩
  · dsimp only
    omega
  · dsimp only
    omega

private theorem Within.increment
    (within : Within cc bound) (room : bound + 1 < 2 ^ 32) :
    Within (cc.stepCwnd 1) (bound + 1) :=
  within.stepCwnd room

/-- Going down by one stays above the minimum when the window is above
it. -/
theorem Within.stepCwnd_down
    (within : Within cc bound) (above : cwndMin < cc.cwnd)
    (room : bound < 2 ^ 32) :
    Within (cc.stepCwnd (-1)) bound := by
  have upper := within.upper
  rw [stepCwnd_eq (by omega) (by omega)]
  refine
    ⟨?_, ?_, within.threshold, within.direction, within.exact⟩
  · dsimp only
    omega
  · dsimp only
    omega

theorem Within.slowStart
    (within : Within cc bound) (room : bound + newPackets < 2 ^ 32) :
    Within (cc.slowStart newPackets) (bound + newPackets) := by
  unfold CongestionControl.slowStart
  split_ifs
  · have boosted := within.stepCwnd room
    refine
      ⟨le_min boosted.lower within.threshold,
        (min_le_left _ _).trans boosted.upper, boosted.threshold,
        boosted.direction, boosted.exact⟩
  · exact within.mono (Nat.le_add_right bound newPackets)

theorem Within.slowStartOnSchedule
    (state : SharedState) (comparisons : Comparisons)
    (within : Within cc bound) (room : bound + newPackets < 2 ^ 32) :
    Within (cc.slowStartOnSchedule state comparisons newPackets)
      (bound + newPackets) := by
  unfold CongestionControl.slowStartOnSchedule
  split_ifs
  · have boost :
        min newPackets (state.markAcks.toNat - cc.ssbase) ≤
          newPackets :=
      min_le_left _ _
    exact (within.stepCwnd (by omega)).mono (by omega)
  · exact within.mono (Nat.le_add_right bound newPackets)

theorem Within.update
    (strategy : Strategy) (state : SharedState)
    (comparisons : Comparisons) (within : Within cc bound)
    (room : bound + newPackets < 2 ^ 32) :
    Within (cc.update strategy state comparisons newPackets)
      (bound + newPackets) := by
  have unchanged := within.mono (Nat.le_add_right bound newPackets)
  cases strategy with
  | tcp =>
      exact within.slowStart room
  | aggressive =>
      exact within.slowStartOnSchedule state comparisons room
  | delay =>
      rw [CongestionControl.update, delayUpdate]
      split_ifs
      · exact unchanged
      · exact within.slowStartOnSchedule state comparisons room
  | vegas =>
      have toggled : Within { cc with sstoggle := !cc.sstoggle } bound :=
        ⟨within.lower, within.upper, within.threshold,
          within.direction, within.exact⟩
      rw [CongestionControl.update, vegasUpdate]
      dsimp only
      split_ifs
      · exact toggled.mono (Nat.le_add_right bound newPackets)
      · exact toggled.slowStart room

theorem Within.tcpRttUpdate
    (within : Within cc bound) (room : bound + 1 < 2 ^ 32) :
    Within cc.tcpRttUpdate (bound + 1) := by
  have grown :
      Within (if cc.cwndLimited then cc.stepCwnd 1 else cc)
        (bound + 1) := by
    split_ifs
    · exact within.increment room
    · exact within.mono (Nat.le_succ bound)
  exact ⟨grown.lower, grown.upper, grown.threshold, grown.direction,
    grown.exact⟩

theorem Within.delayTurn
    (comparisons : Comparisons)
    (within : Within cc bound) (room : bound + 1 < 2 ^ 32) :
    Within (cc.delayTurn comparisons) (bound + 1) := by
  have unchanged := within.mono (Nat.le_succ bound)
  have grown := within.increment room
  unfold CongestionControl.delayTurn
  rcases within.direction with up | down
  · rw [if_pos (by omega)]
    split_ifs
    · exact ⟨unchanged.lower, unchanged.upper, unchanged.threshold,
        Or.inr rfl, unchanged.exact⟩
    · rw [up]
      exact grown
  · rw [if_neg (by omega)]
    split_ifs with turned
    · exact ⟨grown.lower, grown.upper, grown.threshold, Or.inl rfl,
        grown.exact⟩
    · rw [down]
      refine (within.stepCwnd_down ?_ (by omega)).mono (Nat.le_succ bound)
      exact not_le.mp (not_or.mp turned).2

theorem Within.delayRttUpdate
    (state : SharedState) (comparisons : Comparisons)
    (within : Within cc bound) (room : bound + 1 < 2 ^ 32) :
    Within (cc.delayRttUpdate state comparisons) cwndMax := by
  have adapted :
      Within
        (if comparisons.morePower then
          { cc with basewnd := state.markAcks.toNat }
        else cc)
        bound := by
    split_ifs
    · exact ⟨within.lower, within.upper, within.threshold,
        within.direction, within.exact⟩
    · exact within
  have turned := adapted.delayTurn comparisons room
  refine
    ⟨le_min cwndMin_le_cwndMax (le_max_left _ _), min_le_left _ _,
      turned.threshold, turned.direction, turned.exact⟩

theorem Within.vegasRttUpdate
    {comparisons : Comparisons} {next : CongestionControl}
    (within : Within cc bound) (room : bound + 1 < 2 ^ 32)
    (returned : cc.vegasRttUpdate comparisons = some next) :
    Within next (bound + 1) := by
  rw [CongestionControl.vegasRttUpdate, guard_bind_eq_some_iff]
    at returned
  obtain ⟨_, returned⟩ := returned
  split at returned
  · cases returned
    exact within.increment room
  · split at returned
    · rename_i down
      cases returned
      have lowered := within.stepCwnd_down down.2 (by omega)
      refine
        ⟨lowered.lower, lowered.upper.trans (Nat.le_succ bound),
          le_min lowered.threshold lowered.lower, lowered.direction,
          lowered.exact⟩
    · cases returned
      exact within.mono (Nat.le_succ bound)

theorem Within.rttUpdate
    {strategy : Strategy} {state : SharedState}
    {comparisons : Comparisons} {next : CongestionControl}
    (within : Within cc bound) (large : cwndMax ≤ bound)
    (room : bound + 1 < 2 ^ 32)
    (returned :
      cc.rttUpdate strategy state comparisons = some next) :
    Within next (bound + 1) := by
  cases strategy with
  | tcp =>
      cases returned
      exact within.tcpRttUpdate room
  | aggressive =>
      cases returned
      exact within.mono (Nat.le_succ bound)
  | delay =>
      cases returned
      exact
        (within.delayRttUpdate state comparisons room).mono (by omega)
  | vegas =>
      exact within.vegasRttUpdate room returned

/-- The window is clamped at the end of every call. -/
theorem Within.ccAndRttUpdate
    {strategy : Strategy} {nocc : Bool} {state : SharedState}
    {comparisons : Comparisons} {ackseq : UInt64}
    {next : CongestionControl}
    (within : Within cc cwndMax) (few : newPackets ≤ 64)
    (returned :
      cc.ccAndRttUpdate strategy nocc state comparisons newPackets
          ackseq =
        some next) :
    Within next cwndMax := by
  have room : cwndMax + 64 + 1 < 2 ^ 32 := by
    decide
  have updated :
      Within
        (if nocc then cc
        else cc.update strategy state comparisons newPackets)
        (cwndMax + 64) := by
    split_ifs
    · exact within.mono (Nat.le_add_right cwndMax 64)
    · exact
        (within.update strategy state comparisons (by omega)).mono
          (by omega)
  rw [CongestionControl.ccAndRttUpdate, Option.map_eq_some_iff]
    at returned
  obtain ⟨measured, rtt, clamped⟩ := returned
  have measuredWithin : Within measured (cwndMax + 64 + 1) := by
    split at rtt
    · exact updated.rttUpdate (Nat.le_add_right cwndMax 64) room rtt
    · cases rtt
      exact updated.mono (Nat.le_succ _)
  rw [← clamped]
  exact
    ⟨le_min measuredWithin.lower cwndMin_le_cwndMax, min_le_right _ _,
      measuredWithin.threshold, measuredWithin.direction,
      measuredWithin.exact⟩

theorem Within.missed
    (state : SharedState) (pktseq : UInt64)
    (within : Within cc cwndMax) :
    Within (cc.missed state pktseq) cwndMax := by
  have upper := within.upper
  unfold CongestionControl.missed
  split_ifs
  · exact within
  · refine
      ⟨le_max_right _ _, max_le ?_ cwndMin_le_cwndMax, le_max_right _ _,
        within.direction, within.exact⟩
    omega

theorem Within.aggressiveMissed
    (state : SharedState) (within : Within cc cwndMax) :
    Within (cc.aggressiveMissed state) cwndMax := by
  have upper := within.upper
  unfold CongestionControl.aggressiveMissed
  dsimp only
  split_ifs with fewer
  · refine
      ⟨le_max_left _ _, max_le cwndMin_le_cwndMax ?_, within.threshold,
        within.direction, within.exact⟩
    omega
  · exact within

theorem Within.timeout
    (state : SharedState) (within : Within cc cwndMax) :
    Within (cc.timeout state) cwndMax :=
  ⟨le_refl cwndMin, cwndMin_le_cwndMax, le_max_right _ _,
    within.direction, within.exact⟩

theorem Within.mayTransmit
    (state : SharedState) (within : Within cc cwndMax) :
    Within (cc.mayTransmit state).2 cwndMax := by
  unfold CongestionControl.mayTransmit
  split_ifs
  · exact within
  · exact ⟨within.lower, within.upper, within.threshold,
      within.direction, within.exact⟩

private theorem within_reset (cc : CongestionControl) :
    Within cc.reset cwndMax :=
  ⟨le_refl cwndMin, cwndMin_le_cwndMax, cwndMin_le_cwndMax, Or.inl rfl,
    rfl⟩

/-- A window in bounds leaves room for two packets and for no more than its
maximum. -/
theorem Within.allowance
    (state : SharedState) (within : Within cc cwndMax) :
    (state.txInflightCount.toNat < 2 → 0 < (cc.mayTransmit state).1) ∧
      (cc.mayTransmit state).1 ≤ cwndMax := by
  have lower := within.lower
  have upper := within.upper
  rw [cwndMin] at lower
  rw [cwndMax] at upper ⊢
  unfold CongestionControl.mayTransmit
  split_ifs with room
  · dsimp only
    rw [wrapInt_eq_self (by omega) (by omega)]
    unfold toSize
    omega
  · dsimp only
    omega

end CongestionControl

/-- A call, with the values it finds. -/
inductive CongestionCall where
  | ccAndRttUpdate
      (nocc : Bool) (state : SharedState) (comparisons : Comparisons)
      (newPackets : Nat) (ackseq : UInt64)
  | missed (state : SharedState) (pktseq : UInt64)
  | timeout (state : SharedState)
  | mayTransmit (state : SharedState)
  deriving DecidableEq, Repr

def CongestionCall.apply
    (strategy : Strategy) (cc : CongestionControl) :
    CongestionCall → Option CongestionControl
  | .ccAndRttUpdate nocc state comparisons newPackets ackseq =>
      cc.ccAndRttUpdate strategy nocc state comparisons newPackets ackseq
  | .missed state pktseq => some (cc.missedBy strategy state pktseq)
  | .timeout state => some (cc.timeout state)
  | .mayTransmit state => some (cc.mayTransmit state).2

/-- An acknowledgment covers at most as many new packets as the mask has
bits. -/
def CongestionCall.fitsMask : CongestionCall → Bool
  | .ccAndRttUpdate _ _ _ newPackets _ => newPackets ≤ 64
  | _ => true

def CongestionStep
    (strategy : Strategy) (cc : CongestionControl)
    (call : CongestionCall) (next : CongestionControl) : Prop :=
  call.fitsMask = true ∧ call.apply strategy cc = some next

namespace CongestionControl

theorem Within.step
    {strategy : Strategy} {cc next : CongestionControl}
    {call : CongestionCall} (within : Within cc cwndMax)
    (taken : CongestionStep strategy cc call next) :
    Within next cwndMax := by
  obtain ⟨fits, returned⟩ := taken
  cases call with
  | ccAndRttUpdate nocc state comparisons newPackets ackseq =>
      exact within.ccAndRttUpdate (of_decide_eq_true fits) returned
  | missed state pktseq =>
      cases returned
      cases strategy with
      | aggressive =>
          exact within.aggressiveMissed state
      | tcp | delay | vegas =>
          exact within.missed state pktseq
  | timeout state =>
      cases returned
      exact within.timeout state
  | mayTransmit state =>
      cases returned
      exact within.mayTransmit state

theorem Within.of_run
    {strategy : Strategy} {before final : CongestionControl}
    {calls : List CongestionCall}
    (run : Run (CongestionStep strategy) before.reset calls final) :
    Within final cwndMax :=
  run.induct (fun _ cc => Within cc cwndMax) (within_reset before)
    fun _ _ _ _ _ within taken => within.step taken

/-- From a reset on, whatever the channel, the clock and the measurements
say, every strategy keeps the window between its minimum and its maximum and
the threshold above the minimum, without leaving the range of the integers;
so that a channel with fewer than two packets in flight may send, and never
more than the maximum. -/
theorem congestion_window_in_bounds
    (strategy : Strategy) {before final : CongestionControl}
    {calls : List CongestionCall}
    (run : Run (CongestionStep strategy) before.reset calls final) :
    cwndMin ≤ final.cwnd ∧ final.cwnd ≤ cwndMax ∧
      cwndMin ≤ final.ssthresh ∧ final.overflowed = false ∧
      ∀ state : SharedState,
        (state.txInflightCount.toNat < 2 →
            0 < (final.mayTransmit state).1) ∧
          (final.mayTransmit state).1 ≤ cwndMax := by
  have within := Within.of_run run
  exact
    ⟨within.lower, within.upper, within.threshold, within.exact,
      fun state => within.allowance state⟩

/-- One packet was marked and acknowledged. -/
def oneAcknowledged : SharedState :=
  ⟨2, 1, 1, 0, 0, 1, 1⟩

/-- On schedule, with no other comparison true. -/
def steadyComparisons : Comparisons :=
  ⟨true, false, false, false, true, false, false⟩

/-- The low-delay strategy grows the window by the packet acknowledged and by
the round trip, and a later loss halves it. -/
theorem window_in_bounds_after_loss :
    ∃ final,
      Run (CongestionStep .delay)
          (CongestionControl.reset ⟨0, false, 1, 0, false, 0, 0, 0, true⟩)
          [.ccAndRttUpdate false oneAcknowledged steadyComparisons 1 1,
            .missed oneAcknowledged 2]
          final ∧
        final.cwnd = 2 ∧ cwndMin ≤ final.ssthresh := by
  have first :
      Run (CongestionStep .delay)
        (CongestionControl.reset ⟨0, false, 1, 0, false, 0, 0, 0, true⟩)
        [.ccAndRttUpdate false oneAcknowledged steadyComparisons 1 1]
        ⟨4, true, 1, cwndMax, true, 0, 1, 0, false⟩ :=
    Run.single ⟨by decide, by decide⟩
  have second := first.snoc
    (CongestionCall.missed oneAcknowledged 2) ⟨rfl, rfl⟩
  exact ⟨_, second, rfl, (congestion_window_in_bounds .delay second).2.2.1⟩

end CongestionControl

end StructuredStreams.Channel
