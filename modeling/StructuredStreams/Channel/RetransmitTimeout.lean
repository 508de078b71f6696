import StructuredStreams.Channel.Congestion

/-!
# The retransmission timeout

A channel records an event for every packet from `tx_event_sequence_` on, and
counts those that are in flight with their bytes.  When the retransmission
timer expires, the loop of `retransmit_timeout` takes all of them out of the
pipe and reports each to the upper layer as missed.

The timer itself and the link status, which is signalled at the end, are left
out.
-/

namespace StructuredStreams.Channel

/-- The record of one transmission.  The size of a packet is an `int` that is
not negative. -/
structure TransmitEvent where
  size : Nat
  sizeFits : size < 2 ^ 31
  data : Bool
  /-- Currently counted as in flight. -/
  pipe : Bool
  deriving DecidableEq, Repr

/-- What `retransmit_timeout` works on.  The fields `shared` and `upper` are
those of congestion control and of the upper layer. -/
structure TransmitState (σ : Type) where
  shared : SharedState
  txEvents : List TransmitEvent
  txEventSequence : UInt64
  txInflightSize : UInt32
  congestion : CongestionControl
  nocc : Bool
  upper : σ
  /-- Whether one of the two counters ever went below zero. -/
  underflowed : Bool

/-- The handlers of the upper layer.  The one of `on_ready_transmit` sends
packets through `channel::transmit`, in which the recording of the
transmission is commented out: it only gets at the congestion control, by way
of `may_transmit`, and at its own state. -/
structure UpperLayer (σ : Type) where
  missed : (txseq : UInt64) → (npackets : Nat) → TransmitState σ →
    TransmitState σ
  onReadyTransmit : CongestionControl → σ → CongestionControl × σ

namespace TransmitState

variable {σ : Type}

/-- Take an event out of the pipe. -/
def clearPipe
    (state : TransmitState σ) (index : Nat) (event : TransmitEvent) :
    TransmitState σ :=
  { state with
    txEvents := state.txEvents.set index { event with pipe := false }
    shared :=
      { state.shared with
        txInflightCount := state.shared.txInflightCount - 1 }
    txInflightSize := state.txInflightSize - UInt32.ofNat event.size
    underflowed :=
      state.underflowed || decide (state.shared.txInflightCount = 0) ||
        decide (state.txInflightSize.toNat < event.size) }

/-- One pass of the loop, with the reports it makes.  There is no result when
the index is out of bounds. -/
def timeoutPass
    (upper : UpperLayer σ) (seq : UInt64) (state : TransmitState σ) :
    Option (List (UInt64 × Nat) × TransmitState σ) :=
  let index := (seq - state.txEventSequence).toNat
  match state.txEvents[index]? with
  | none => none
  | some event =>
      if event.pipe then
        some ([(seq, 1)], upper.missed seq 1 (state.clearPipe index event))
      else
        some ([], state)

/-- The loop over the sequence numbers below `seqlim`, cut off after `fuel`
passes. -/
def timeoutLoop (upper : UpperLayer σ) (seqlim : UInt64) :
    (fuel : Nat) → (seq : UInt64) → TransmitState σ →
      Option (List (UInt64 × Nat) × TransmitState σ)
  | 0, seq, state => if seq < seqlim then none else some ([], state)
  | fuel + 1, seq, state =>
      if seq < seqlim then do
        let (reports, state) ← timeoutPass upper seq state
        let (later, state) ← timeoutLoop upper seqlim fuel (seq + 1) state
        return (reports ++ later, state)
      else
        some ([], state)

def readyTransmit (upper : UpperLayer σ) (state : TransmitState σ) :
    TransmitState σ :=
  let (congestion, ready) :=
    upper.onReadyTransmit state.congestion state.upper
  { state with congestion := congestion, upper := ready }

/-- `retransmit_timeout` with its calls of `missed`. -/
def retransmitTimeout (upper : UpperLayer σ) (state : TransmitState σ) :
    Option (List (UInt64 × Nat) × TransmitState σ) := do
  let state :=
    if state.nocc then state
    else
      { state with congestion := state.congestion.timeout state.shared }
  let seqlim := state.shared.txSequence
  let (reports, state) ←
    timeoutLoop upper seqlim (seqlim - state.txEventSequence).toNat
      state.txEventSequence state
  guard
    (seqlim = state.shared.txSequence → state.shared.txInflightCount = 0)
  guard (seqlim = state.shared.txSequence → state.txInflightSize = 0)
  return (reports, state.readyTransmit upper)

/-- The bytes of the events in flight. -/
def inFlightSize (events : List TransmitEvent) : Nat :=
  ((events.filter TransmitEvent.pipe).map TransmitEvent.size).sum

/-- The events are those of the sequence numbers up to the next one, and the
counters are those of the events in flight. -/
structure Consistent (state : TransmitState σ) : Prop where
  sequences :
    state.txEventSequence.toNat + state.txEvents.length =
      state.shared.txSequence.toNat
  count :
    state.shared.txInflightCount.toNat =
      state.txEvents.countP TransmitEvent.pipe
  size : state.txInflightSize.toNat = inFlightSize state.txEvents

/-- No transmission was recorded between two states, and none taken back. -/
structure SameRecord (state next : TransmitState σ) : Prop where
  txSequence : next.shared.txSequence = state.shared.txSequence
  txInflightCount :
    next.shared.txInflightCount = state.shared.txInflightCount
  txEvents : next.txEvents = state.txEvents
  txEventSequence : next.txEventSequence = state.txEventSequence
  txInflightSize : next.txInflightSize = state.txInflightSize
  underflowed : next.underflowed = state.underflowed

end TransmitState

/-- The handler of `missed` records no transmissions. -/
def UpperLayer.RecordsNothing {σ : Type} (upper : UpperLayer σ) : Prop :=
  ∀ txseq npackets state,
    TransmitState.SameRecord state (upper.missed txseq npackets state)

namespace TransmitState

variable {σ : Type}

/-- All that was in flight was reported once and in order and is not in
flight any more, and there is nothing for another timeout to report. -/
structure Drained
    (upper : UpperLayer σ) (state : TransmitState σ)
    (reports : List (UInt64 × Nat)) (next : TransmitState σ) : Prop where
  increasing :
    reports.Pairwise fun earlier later => earlier.1 < later.1
  inFlight :
    ∀ seq npackets,
      (seq, npackets) ∈ reports ↔
        npackets = 1 ∧
          ∃ index event,
            state.txEvents[index]? = some event ∧ event.pipe = true ∧
              seq.toNat = state.txEventSequence.toNat + index
  noUnderflow : next.underflowed = state.underflowed
  noPipe : ∀ event ∈ next.txEvents, event.pipe = false
  count : next.shared.txInflightCount = 0
  size : next.txInflightSize = 0
  sequences :
    next.txEventSequence.toNat + next.txEvents.length =
      next.shared.txSequence.toNat
  nothingAfter :
    ∃ last, next.retransmitTimeout upper = some ([], last)

/-- The reports for the events in flight, the first event being the one of
`first`. -/
def inFlightFrom : (first : UInt64) → List TransmitEvent → List (UInt64 × Nat)
  | _, [] => []
  | first, event :: events =>
      (if event.pipe then [(first, 1)] else []) ++
        inFlightFrom (first + 1) events

private theorem mem_inFlightFrom
    {events : List TransmitEvent} {first : UInt64}
    (fits : first.toNat + events.length < 2 ^ 64)
    (seq : UInt64) (npackets : Nat) :
    (seq, npackets) ∈ inFlightFrom first events ↔
      npackets = 1 ∧
        ∃ index event,
          events[index]? = some event ∧ event.pipe = true ∧
            seq.toNat = first.toNat + index := by
  induction events generalizing first with
  | nil => simp [inFlightFrom]
  | cons event events inductionHypothesis =>
      simp only [List.length_cons] at fits
      have following : (first + 1).toNat = first.toNat + 1 :=
        toNat_next (by omega)
      rw [inFlightFrom, List.mem_append,
        inductionHypothesis (by omega), following]
      constructor
      · rintro (reported | ⟨one, index, found, sits, inPipe, isSeq⟩)
        · split at reported
          next inPipe =>
            obtain ⟨rfl, rfl⟩ :=
              Prod.mk.inj (List.mem_singleton.mp reported)
            exact ⟨rfl, 0, event, rfl, inPipe, rfl⟩
          next => cases reported
        · exact ⟨one, index + 1, found, sits, inPipe, by omega⟩
      · rintro ⟨one, index, found, sits, inPipe, isSeq⟩
        cases index with
        | zero =>
            left
            cases sits
            have same : seq = first := UInt64.toNat_inj.mp isSeq
            rw [if_pos inPipe, one, same]
            exact List.mem_singleton_self _
        | succ index =>
            exact Or.inr ⟨one, index, found, sits, inPipe, by omega⟩

private theorem inFlightFrom_increasing
    {events : List TransmitEvent} {first : UInt64}
    (fits : first.toNat + events.length < 2 ^ 64) :
    (inFlightFrom first events).Pairwise
      fun earlier later => earlier.1 < later.1 := by
  induction events generalizing first with
  | nil => exact List.Pairwise.nil
  | cons event events inductionHypothesis =>
      simp only [List.length_cons] at fits
      have following : (first + 1).toNat = first.toNat + 1 :=
        toNat_next (by omega)
      have fitsAfter : (first + 1).toNat + events.length < 2 ^ 64 := by
        omega
      have afterIncreasing := inductionHypothesis fitsAfter
      rw [inFlightFrom]
      split
      next =>
        refine List.pairwise_cons.mpr ⟨?_, afterIncreasing⟩
        rintro ⟨seq, npackets⟩ reported
        obtain ⟨_, index, _, _, _, isSeq⟩ :=
          (mem_inFlightFrom fitsAfter seq npackets).mp reported
        have isLater : first.toNat < seq.toNat := by omega
        exact UInt64.lt_iff_toNat_lt.mpr isLater
      next => exact afterIncreasing

private theorem inFlightFrom_of_noPipe
    {events : List TransmitEvent}
    (noPipe : ∀ event ∈ events, event.pipe = false) (first : UInt64) :
    inFlightFrom first events = [] := by
  induction events generalizing first with
  | nil => rfl
  | cons event events inductionHypothesis =>
      obtain ⟨outOfPipe, laterOut⟩ := List.forall_mem_cons.mp noPipe
      simp [inFlightFrom, outOfPipe, inductionHypothesis laterOut]

/-! ## The loop -/

@[simp]
theorem inFlightSize_cons
    (event : TransmitEvent) (events : List TransmitEvent) :
    inFlightSize (event :: events) =
      (if event.pipe then event.size else 0) + inFlightSize events := by
  cases inPipe : event.pipe <;> simp [inFlightSize, inPipe]

/-- What holds before the pass of `seq`: the events before it are out of the
pipe, and the counters are those of the events from it on. -/
structure Draining
    (state : TransmitState σ) (before after : List TransmitEvent)
    (seq : UInt64) : Prop where
  events : state.txEvents = before ++ after
  cleared : ∀ event ∈ before, event.pipe = false
  position : seq.toNat = state.txEventSequence.toNat + before.length
  limit : seq.toNat + after.length = state.shared.txSequence.toNat
  count :
    state.shared.txInflightCount.toNat = after.countP TransmitEvent.pipe
  size : state.txInflightSize.toNat = inFlightSize after

theorem Draining.index
    {state : TransmitState σ} {before after : List TransmitEvent}
    {seq : UInt64} (draining : state.Draining before after seq) :
    (seq - state.txEventSequence).toNat = before.length := by
  have position := draining.position
  rw [UInt64.toNat_sub_of_le _ _ (UInt64.le_iff_toNat_le.mpr (by omega))]
  omega

theorem Draining.following
    {state : TransmitState σ} {before after : List TransmitEvent}
    {event : TransmitEvent} {seq : UInt64}
    (draining : state.Draining before (event :: after) seq) :
    (seq + 1).toNat = seq.toNat + 1 := by
  have limit := draining.limit
  have fits := state.shared.txSequence.toNat_lt
  rw [List.length_cons] at limit
  exact toNat_next (by omega)

/-- Only the six fields that a record consists of matter. -/
theorem Draining.of_sameRecord
    {state next : TransmitState σ} {before after : List TransmitEvent}
    {seq : UInt64} (draining : state.Draining before after seq)
    (same : SameRecord state next) :
    next.Draining before after seq where
  events := same.txEvents.trans draining.events
  cleared := draining.cleared
  position := by rw [same.txEventSequence]; exact draining.position
  limit := by rw [same.txSequence]; exact draining.limit
  count := by rw [same.txInflightCount]; exact draining.count
  size := by rw [same.txInflightSize]; exact draining.size

/-- Taking the event of `seq` out of the pipe brings the counters down to
those of the events after it. -/
theorem Draining.clearPipe
    {state : TransmitState σ} {before after : List TransmitEvent}
    {event : TransmitEvent} {seq : UInt64}
    (draining : state.Draining before (event :: after) seq)
    (inPipe : event.pipe = true) :
    (state.clearPipe before.length event).Draining
      (before ++ [{ event with pipe := false }]) after (seq + 1) := by
  have count := draining.count
  have size := draining.size
  have limit := draining.limit
  have position := draining.position
  have following := draining.following
  rw [List.countP_cons_of_pos inPipe] at count
  rw [inFlightSize_cons, if_pos inPipe] at size
  rw [List.length_cons] at limit
  have sizeOf : (UInt32.ofNat event.size).toNat = event.size :=
    UInt32.toNat_ofNat_of_lt'
      (event.sizeFits.trans (by decide))
  constructor
  · simp [TransmitState.clearPipe, draining.events]
  · intro cleared isCleared
    rcases List.mem_append.mp isCleared with isBefore | isThis
    · exact draining.cleared cleared isBefore
    · rw [List.mem_singleton.mp isThis]
  · simp only [TransmitState.clearPipe, List.length_append,
      List.length_singleton]
    omega
  · simp only [TransmitState.clearPipe]
    omega
  · simp only [TransmitState.clearPipe]
    rw [UInt32.toNat_sub_of_le _ _
      (UInt32.le_iff_toNat_le.mpr (by rw [UInt32.toNat_one]; omega)),
      UInt32.toNat_one]
    omega
  · simp only [TransmitState.clearPipe]
    rw [UInt32.toNat_sub_of_le _ _
      (UInt32.le_iff_toNat_le.mpr (by omega))]
    omega

private theorem Draining.clearPipe_underflowed
    {state : TransmitState σ} {before after : List TransmitEvent}
    {event : TransmitEvent} {seq : UInt64}
    (draining : state.Draining before (event :: after) seq)
    (inPipe : event.pipe = true) :
    (state.clearPipe before.length event).underflowed =
      state.underflowed := by
  have count := draining.count
  have size := draining.size
  rw [List.countP_cons_of_pos inPipe] at count
  rw [inFlightSize_cons, if_pos inPipe] at size
  have someInFlight : state.shared.txInflightCount ≠ 0 := by
    intro noneInFlight
    rw [noneInFlight, UInt32.toNat_zero] at count
    omega
  have coversEvent : ¬ state.txInflightSize.toNat < event.size := by omega
  simp [TransmitState.clearPipe, someInFlight, coversEvent]

/-- One pass gets at the event of `seq`, reports it when it is in flight, and
leaves the rest to the passes after it. -/
theorem timeoutPass_draining
    {upper : UpperLayer σ} (quiet : upper.RecordsNothing)
    {state : TransmitState σ} {before after : List TransmitEvent}
    {event : TransmitEvent} {seq : UInt64}
    (draining : state.Draining before (event :: after) seq) :
    ∃ next,
      timeoutPass upper seq state =
        some (if event.pipe then [(seq, 1)] else [], next) ∧
      next.Draining (before ++ [{ event with pipe := false }]) after
        (seq + 1) ∧
      next.shared.txSequence = state.shared.txSequence ∧
      next.underflowed = state.underflowed := by
  have found : state.txEvents[before.length]? = some event := by
    rw [draining.events]
    rw [List.getElem?_append_right (Nat.le_refl _), Nat.sub_self]
    rfl
  simp only [timeoutPass, draining.index, found]
  cases inPipe : event.pipe with
  | true =>
      have same := quiet seq 1 (state.clearPipe before.length event)
      refine ⟨_, rfl, ?_, same.txSequence, ?_⟩
      · exact (draining.clearPipe inPipe).of_sameRecord same
      · exact same.underflowed.trans
          (draining.clearPipe_underflowed inPipe)
  | false =>
      refine ⟨state, rfl, ?_, rfl, rfl⟩
      have unchanged : { event with pipe := false } = event := by
        rw [← inPipe]
      have count := draining.count
      have size := draining.size
      have limit := draining.limit
      have position := draining.position
      have following := draining.following
      rw [List.countP_cons_of_neg (by simp [inPipe])] at count
      rw [inFlightSize_cons, if_neg (by simp [inPipe]), zero_add] at size
      rw [List.length_cons] at limit
      rw [unchanged]
      constructor
      · rw [draining.events, List.append_assoc, List.singleton_append]
      · intro cleared isCleared
        rcases List.mem_append.mp isCleared with isBefore | isThis
        · exact draining.cleared cleared isBefore
        · rwa [List.mem_singleton.mp isThis]
      · rw [List.length_append, List.length_singleton]
        omega
      · omega
      · exact count
      · exact size

/-- The loop from `seq` on reports the events in flight from it on. -/
theorem timeoutLoop_drains
    {upper : UpperLayer σ} (quiet : upper.RecordsNothing)
    {after : List TransmitEvent} {state : TransmitState σ}
    {before : List TransmitEvent} {seq : UInt64}
    (draining : state.Draining before after seq) :
    ∃ next cleared,
      timeoutLoop upper state.shared.txSequence after.length seq state =
        some (inFlightFrom seq after, next) ∧
      next.Draining cleared [] state.shared.txSequence ∧
      next.shared.txSequence = state.shared.txSequence ∧
      next.underflowed = state.underflowed := by
  induction after generalizing state before seq with
  | nil =>
      have atLimit : seq = state.shared.txSequence :=
        UInt64.toNat_inj.mp draining.limit
      have finished : ¬ seq < state.shared.txSequence := by
        rw [atLimit]
        exact UInt64.lt_irrefl _
      refine ⟨state, before, ?_, ?_, rfl, rfl⟩
      · rw [List.length_nil, timeoutLoop, if_neg finished, inFlightFrom]
      · rwa [← atLimit]
  | cons event after inductionHypothesis =>
      have limit := draining.limit
      rw [List.length_cons] at limit
      have below : seq < state.shared.txSequence :=
        UInt64.lt_iff_toNat_lt.mpr (by omega)
      obtain ⟨passed, ranPass, passedDraining, passedLimit, passedNoUnder⟩ :=
        timeoutPass_draining quiet draining
      obtain ⟨next, cleared, ranLoop, drained, sameLimit, noUnder⟩ :=
        inductionHypothesis passedDraining
      rw [passedLimit] at ranLoop drained sameLimit
      refine
        ⟨next, cleared, ?_, drained, sameLimit,
          noUnder.trans passedNoUnder⟩
      rw [List.length_cons, timeoutLoop, if_pos below, ranPass]
      simp only [Option.bind_eq_bind, Option.bind_some, ranLoop, inFlightFrom]
      rfl

private theorem Consistent.draining
    {state : TransmitState σ} (consistent : state.Consistent) :
    state.Draining [] state.txEvents state.txEventSequence where
  events := rfl
  cleared := List.forall_mem_nil _
  position := rfl
  limit := consistent.sequences
  count := consistent.count
  size := consistent.size

theorem Draining.consistent
    {state : TransmitState σ} {cleared : List TransmitEvent}
    (drained : state.Draining cleared [] state.shared.txSequence) :
    state.Consistent ∧ (∀ event ∈ state.txEvents, event.pipe = false) := by
  have events : state.txEvents = cleared := by
    rw [drained.events, List.append_nil]
  have noPipe : ∀ event ∈ state.txEvents, event.pipe = false := by
    rw [events]
    exact drained.cleared
  refine ⟨⟨?_, ?_, ?_⟩, noPipe⟩
  · rw [events]
    exact drained.position.symm
  · rw [drained.count, List.countP_nil, eq_comm, List.countP_eq_zero]
    intro event isEvent
    simp [noPipe event isEvent]
  · have noneInPipe : state.txEvents.filter TransmitEvent.pipe = [] := by
      rw [List.filter_eq_nil_iff]
      intro event isEvent
      simp [noPipe event isEvent]
    rw [drained.size, inFlightSize, inFlightSize, noneInPipe,
      List.filter_nil]

/-- What the congestion control makes of a timeout leaves the record as it
is. -/
theorem Consistent.with_congestion
    {state : TransmitState σ} (consistent : state.Consistent)
    (congestion : CongestionControl) :
    { state with congestion := congestion }.Consistent :=
  ⟨consistent.sequences, consistent.count, consistent.size⟩

theorem Consistent.length
    {state : TransmitState σ} (consistent : state.Consistent) :
    (state.shared.txSequence - state.txEventSequence).toNat =
      state.txEvents.length := by
  have sequences := consistent.sequences
  rw [UInt64.toNat_sub_of_le _ _ (UInt64.le_iff_toNat_le.mpr (by omega))]
  omega

/-- The timeout once the congestion control has been told. -/
theorem drain_reports
    {upper : UpperLayer σ} (quiet : upper.RecordsNothing)
    {state : TransmitState σ} (consistent : state.Consistent) :
    ∃ next,
      timeoutLoop upper state.shared.txSequence
          (state.shared.txSequence - state.txEventSequence).toNat
          state.txEventSequence state =
        some (inFlightFrom state.txEventSequence state.txEvents, next) ∧
      next.Consistent ∧
      (∀ event ∈ next.txEvents, event.pipe = false) ∧
      next.shared.txInflightCount = 0 ∧ next.txInflightSize = 0 ∧
      next.underflowed = state.underflowed := by
  obtain ⟨next, cleared, ran, drained, sameLimit, noUnder⟩ :=
    timeoutLoop_drains quiet consistent.draining
  have noneInFlight : next.shared.txInflightCount = 0 := by
    rw [← UInt32.toNat_inj, drained.count]
    rfl
  have noBytes : next.txInflightSize = 0 := by
    rw [← UInt32.toNat_inj, drained.size]
    rfl
  rw [← sameLimit] at drained
  obtain ⟨nextConsistent, noPipe⟩ := drained.consistent
  rw [← consistent.length] at ran
  exact ⟨next, ran, nextConsistent, noPipe, noneInFlight, noBytes, noUnder⟩

/-- A timeout reports what is in flight and empties the pipe. -/
theorem retransmitTimeout_reports
    {upper : UpperLayer σ} (quiet : upper.RecordsNothing)
    {state : TransmitState σ} (consistent : state.Consistent) :
    ∃ next,
      state.retransmitTimeout upper =
        some (inFlightFrom state.txEventSequence state.txEvents, next) ∧
      next.Consistent ∧
      (∀ event ∈ next.txEvents, event.pipe = false) ∧
      next.shared.txInflightCount = 0 ∧ next.txInflightSize = 0 ∧
      next.underflowed = state.underflowed := by
  let congestion :=
    if state.nocc then state.congestion
    else state.congestion.timeout state.shared
  have told :
      (if state.nocc then state
        else
          { state with
            congestion := state.congestion.timeout state.shared }) =
        { state with congestion := congestion } := by
    unfold congestion
    split <;> rfl
  obtain ⟨drained, ran, nextConsistent, noPipe, noneInFlight, noBytes,
      noUnder⟩ :=
    drain_reports quiet (consistent.with_congestion congestion)
  refine
    ⟨drained.readyTransmit upper, ?_, ?_, noPipe, noneInFlight, noBytes,
      noUnder⟩
  · simp only [retransmitTimeout, told, ran, Option.bind_eq_bind,
      Option.bind_some, noneInFlight, noBytes, implies_true, guard_true]
    rfl
  · exact ⟨nextConsistent.sequences, nextConsistent.count,
      nextConsistent.size⟩

theorem retransmitTimeout_drains
    (upper : UpperLayer σ) (quiet : upper.RecordsNothing)
    (state : TransmitState σ) (consistent : state.Consistent) :
    ∃ reports next,
      state.retransmitTimeout upper = some (reports, next) ∧
        Drained upper state reports next := by
  obtain ⟨next, ran, nextConsistent, noPipe, noneInFlight, noBytes, noUnder⟩ :=
    retransmitTimeout_reports quiet consistent
  obtain ⟨last, ranAgain, _⟩ :=
    retransmitTimeout_reports quiet nextConsistent
  rw [inFlightFrom_of_noPipe noPipe] at ranAgain
  have sequences := consistent.sequences
  have limit := state.shared.txSequence.toNat_lt
  have fits :
      state.txEventSequence.toNat + state.txEvents.length < 2 ^ 64 := by
    omega
  exact
    ⟨_, next, ran,
      { increasing := inFlightFrom_increasing fits
        inFlight := mem_inFlightFrom fits
        noUnderflow := noUnder
        noPipe := noPipe
        count := noneInFlight
        size := noBytes
        sequences := nextConsistent.sequences
        nothingAfter := ⟨last, ranAgain⟩ }⟩

/-- A channel with its first event and two data packets in flight. -/
def twoInFlight : TransmitState Unit where
  shared :=
    { txSequence := 3
      txAckSequence := 0
      markSequence := 1
      markBase := 0
      txInflightCount := 2
      markAcks := 0
      markSent := 0 }
  txEvents :=
    [⟨0, by decide, false, false⟩, ⟨1200, by decide, true, true⟩,
      ⟨40, by decide, true, true⟩]
  txEventSequence := 0
  txInflightSize := 1240
  congestion :=
    { cwnd := cwndMin
      cwndLimited := true
      recovseq := 0
      ssthresh := cwndMax
      sstoggle := true
      ssbase := 0
      cwndinc := 1
      basewnd := 0
      overflowed := false }
  nocc := false
  upper := ()
  underflowed := false

/-- An upper layer that neither resends nor has anything to send. -/
def idleLayer : UpperLayer Unit where
  missed _ _ state := state
  onReadyTransmit congestion upper := (congestion, upper)

theorem retransmitTimeout_of_two_in_flight :
    ∃ reports next,
      twoInFlight.retransmitTimeout idleLayer = some (reports, next) ∧
        Drained idleLayer twoInFlight reports next :=
  retransmitTimeout_drains idleLayer
    (fun _ _ _ => ⟨rfl, rfl, rfl, rfl, rfl, rfl⟩) twoInFlight
    ⟨by decide, by decide, by decide⟩

end TransmitState

end StructuredStreams.Channel
