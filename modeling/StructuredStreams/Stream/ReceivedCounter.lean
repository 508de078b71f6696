import Mathlib.Data.List.ReduceOption
import StructuredStreams.Foundation.Extrapolation
import StructuredStreams.Foundation.MachineInt
import StructuredStreams.Stream.Substreams

/-!
# The counter of received streams

The other side sends 16 bits of its stream counter with a substream, and
`rx_substream` extrapolates the rest from the counter it received last.  With
the counter of a sender that is less than `2 ^ 15` away this gives the
maximum of both.  The id is chosen by the other side, though, and one that
stands for a number before the first wraps to the end of the 64-bit range.
-/

namespace StructuredStreams.Stream

open World

private theorem toUInt64_toInt64_toNat (value : Int16) :
    (value.toInt64.toUInt64.toNat : Int) = value.toInt % 2 ^ 64 := by
  have bound := value.toInt64.toUInt64.toNat_lt
  have signed :
      value.toInt64.toInt =
        (value.toInt64.toUInt64.toNat : Int).bmod (2 ^ 64) :=
    BitVec.toInt_eq_toNat_bmod value.toInt64.toBitVec
  have remainder :
      (value.toInt64.toUInt64.toNat : Int).bmod (2 ^ 64) %
          (2 ^ 64 : Nat) =
        value.toInt64.toUInt64.toNat % (2 ^ 64 : Nat) :=
    Int.bmod_emod
  rw [← signed, Int16.toInt_toInt64] at remainder
  push_cast at remainder
  omega

/-- The difference of the low digits, narrowed to 16 bits with a sign. -/
theorem narrowedDifference_eq (counter : UInt64) (sid : LocalStreamId) :
    (sid - counter.toUInt16).toInt16.toInt =
      ((sid.toNat : Int) - counter.toNat).bmod (2 ^ 16) := by
  have signed :
      (sid - counter.toUInt16).toInt16.toInt =
        ((sid - counter.toUInt16).toNat : Int).bmod (2 ^ 16) :=
    BitVec.toInt_eq_toNat_bmod (sid - counter.toUInt16).toBitVec
  have digits :
      ((sid - counter.toUInt16).toNat : Int) % (2 ^ 16 : Nat) =
        ((sid.toNat : Int) - counter.toNat) % (2 ^ 16 : Nat) := by
    have bound := sid.toNat_lt
    rw [UInt16.toNat_sub, UInt64.toNat_toUInt16]
    omega
  rw [signed, ← Int.emod_bmod, digits, Int.emod_bmod]

/-- The counter extrapolated is the one nearest to the last one received, as
a 64-bit number. -/
theorem extrapolate_toNat (counter : UInt64) (sid : LocalStreamId) :
    ((PeerWorld.extrapolate counter sid).toNat : Int) =
      nearest (2 ^ 16) counter.toNat sid.toNat % 2 ^ 64 := by
  have extended :=
    toUInt64_toInt64_toNat (sid - counter.toUInt16).toInt16
  rw [narrowedDifference_eq] at extended
  rw [PeerWorld.extrapolate, UInt64.toNat_add, nearest]
  omega

/-- The counter after an id that was accepted. -/
def receivedCounter (counter : UInt64) (sid : LocalStreamId) : UInt64 :=
  if counter < PeerWorld.extrapolate counter sid then
    PeerWorld.extrapolate counter sid
  else counter

/-- The counter of a sender is less than half the range of the ids away from
the counter received last. -/
def InReach (counter sent : UInt64) : Prop :=
  |(sent.toNat : Int) - counter.toNat| < 2 ^ 15

/-- The counter goes up by less than half the range of the ids, and to the
counter of the sender where that one is in reach and ahead. -/
def CounterLaw
    (counter : UInt64) (sid : LocalStreamId) (next : UInt64) : Prop :=
  counter.toNat ≤ next.toNat ∧
    next.toNat ≤ counter.toNat + (2 ^ 15 - 1) ∧
    ∀ sent : UInt64,
      sent.toUInt16 = sid → InReach counter sent →
        next.toNat = max counter.toNat sent.toNat

private theorem receivedCounter_of_inReach
    {counter sent : UInt64} (inReach : InReach counter sent) :
    (receivedCounter counter sent.toUInt16).toNat =
      max counter.toNat sent.toNat := by
  have bound := sent.toNat_lt
  obtain ⟨lower, upper⟩ := abs_lt.mp inReach
  have found :
      nearest (2 ^ 16) counter.toNat sent.toUInt16.toNat =
        sent.toNat := by
    apply nearest_eq
    · rw [UInt64.toNat_toUInt16]
      omega
    · push_cast
      omega
    · push_cast
      omega
  have extrapolated :
      PeerWorld.extrapolate counter sent.toUInt16 = sent := by
    apply UInt64.toNat_inj.mp
    have number := extrapolate_toNat counter sent.toUInt16
    rw [found] at number
    omega
  rw [receivedCounter, extrapolated]
  split
  · next ahead =>
      rw [max_eq_right_of_lt (UInt64.lt_iff_toNat_lt.mp ahead)]
  · next notAhead =>
      rw [UInt64.lt_iff_toNat_lt, not_lt] at notAhead
      rw [max_eq_left notAhead]

/-- The law holds exactly where the id does not stand for a number before
the first one. -/
theorem counterLaw_receivedCounter_iff
    (counter : UInt64) (sid : LocalStreamId) :
    CounterLaw counter sid (receivedCounter counter sid) ↔
      ReachesNoNegative (2 ^ 16) counter.toNat sid.toNat := by
  have bound := counter.toNat_lt
  have positive : 0 < 2 ^ 16 := by
    decide
  have lower := nearest_lower positive counter.toNat sid.toNat
  have upper := nearest_lt positive counter.toNat sid.toNat
  have extrapolated := extrapolate_toNat counter sid
  rw [← nearest_nonneg_iff (by decide) (by omega)]
  generalize nearest (2 ^ 16) counter.toNat sid.toNat = number
    at lower upper extrapolated ⊢
  push_cast at lower upper
  constructor
  · rintro ⟨_, near, _⟩
    by_contra negative
    have wrapped : counter < PeerWorld.extrapolate counter sid := by
      rw [UInt64.lt_iff_toNat_lt]
      omega
    rw [receivedCounter, if_pos wrapped] at near
    omega
  · intro nonneg
    refine ⟨?_, ?_, ?_⟩
    · rw [receivedCounter]
      split
      · next ahead =>
          exact Nat.le_of_lt (UInt64.lt_iff_toNat_lt.mp ahead)
      · exact Nat.le_refl _
    · rw [receivedCounter]
      split
      · omega
      · omega
    · rintro sent rfl inReach
      exact receivedCounter_of_inReach inReach

namespace PeerWorld

/-- A substream that is accepted moves the counter of its channel, and no
other. -/
theorem rxSubstream_receivedSidCounter
    {env : Env} {state next : PeerWorld}
    {parent newStream accepted : StreamPtr} {pktseq : PacketSeq}
    {channel : ChannelPtr} {sid : LocalStreamId}
    {slot : Slot} {usid : UniqueStreamId}
    (returned :
      state.rxSubstream env parent pktseq channel sid slot usid
          newStream =
        some (some accepted, next)) :
    next.receivedSidCounter =
      Function.update state.receivedSidCounter channel
        (receivedCounter (state.receivedSidCounter channel) sid) := by
  obtain ⟨link, _, ⟨_, refused, _⟩ | ⟨_, _, acknowledged, created, named,
      world, isAcknowledged, isCreated, isNamed, _, rfl⟩⟩ :=
    rxSubstream_eq_some returned
  · cases refused
  · have sameState := ackCall_eq_some isAcknowledged
    subst sameState
    obtain ⟨_, _, _, _, _, rfl⟩ := createStream_eq_some isCreated
    obtain ⟨_, _, _, _, rfl⟩ := setUsid_eq_some isNamed
    unfold openSubstream
    split <;> rfl

private theorem rxSubstream_refused
    {env : Env} {state next : PeerWorld} {parent newStream : StreamPtr}
    {pktseq : PacketSeq} {channel : ChannelPtr} {sid : LocalStreamId}
    {slot : Slot} {usid : UniqueStreamId}
    (returned :
      state.rxSubstream env parent pktseq channel sid slot usid
          newStream =
        some (none, next)) :
    next.receivedSidCounter = state.receivedSidCounter := by
  obtain ⟨link, _, ⟨_, _, acknowledges⟩ | ⟨_, accepted, _⟩⟩ :=
    rxSubstream_eq_some returned
  · rw [ackCall_eq_some acknowledges]
  · cases accepted

private theorem resetSubstreams_receivedSidCounter
    (state : PeerWorld) (stream : StreamPtr) :
    (state.resetSubstreams stream).receivedSidCounter =
      state.receivedSidCounter := by
  have disconnected (substreams : List StreamPtr) :
      (substreams.foldl
          (fun state substream =>
            state.modifyLink substream PeerStream.disconnect)
          state).receivedSidCounter =
        state.receivedSidCounter := by
    induction substreams generalizing state with
    | nil =>
        rfl
    | cons substream substreams inductionHypothesis =>
        exact inductionHypothesis (state.modifyLink substream _)
  exact disconnected _

private theorem clear_receivedSidCounter
    {env : Env} {state next : PeerWorld} {stream : StreamPtr}
    (returned : state.clear env stream = some next) :
    next.receivedSidCounter = state.receivedSidCounter := by
  unfold PeerWorld.clear at returned
  rw [guard_bind_eq_some_iff] at returned
  obtain ⟨_, returned⟩ := returned
  dsimp only at returned
  rw [bind_eq_some_iff] at returned
  obtain ⟨world, _, returned⟩ := returned
  cases returned
  rw [resetSubstreams_receivedSidCounter]
  unfold deregister
  split <;> rfl

end PeerWorld

/-- The id that a call brings in on the channel, where the substream is
accepted. -/
def PeerCall.acceptedSid
    (env : Env) (state : PeerWorld) (channel : ChannelPtr) :
    PeerCall → Option LocalStreamId
  | .rxSubstream parent pktseq other sid slot usid newStream => do
      let (accepted, _) ←
        state.rxSubstream env parent pktseq other sid slot usid newStream
      guard (accepted.isSome)
      guard (other = channel)
      return sid
  | _ => none

/-- A substream that is refused, or accepted on another channel, brings in
nothing. -/
theorem PeerCall.acceptedSid_rxSubstream
    {env : Env} {state next : PeerWorld} {parent newStream : StreamPtr}
    {pktseq : PacketSeq} {channel other : ChannelPtr} {sid : LocalStreamId}
    {slot : Slot} {usid : UniqueStreamId} {result : Option StreamPtr}
    (received :
      state.rxSubstream env parent pktseq other sid slot usid newStream =
        some (result, next)) :
    (PeerCall.rxSubstream parent pktseq other sid slot usid
        newStream).acceptedSid env state channel =
      if result.isSome ∧ other = channel then some sid else none := by
  rw [PeerCall.acceptedSid, received]
  cases result with
  | none =>
      rfl
  | some accepted =>
      by_cases here : other = channel
      · simp [here]
      · simp [here]

/-- A call moves the counter of a channel by the id it brings in there. -/
theorem PeerCall.run_receivedSidCounter
    {env : Env} {state next : PeerWorld} {call : PeerCall}
    (returned : call.run env state = some next) (channel : ChannelPtr) :
    next.receivedSidCounter channel =
      ((call.acceptedSid env state channel).map
        (receivedCounter (state.receivedSidCounter channel))).getD
        (state.receivedSidCounter channel) := by
  cases call with
  | createStream stream identity parent =>
      obtain ⟨_, _, _, _, _, rfl⟩ :=
        PeerWorld.createStream_eq_some returned
      rfl
  | setUsid stream newUsid =>
      obtain ⟨_, _, _, _, rfl⟩ := PeerWorld.setUsid_eq_some returned
      rfl
  | construct other root identity =>
      rw [PeerCall.run, PeerWorld.construct, bind_eq_some_iff] at returned
      obtain ⟨created, isCreated, returned⟩ := returned
      rw [bind_eq_some_iff] at returned
      obtain ⟨world, _, returned⟩ := returned
      cases returned
      obtain ⟨_, _, _, _, _, rfl⟩ :=
        PeerWorld.createStream_eq_some isCreated
      rfl
  | start other initiate =>
      rw [PeerCall.run, PeerWorld.start, bind_eq_some_iff] at returned
      obtain ⟨world, _, returned⟩ := returned
      cases returned
      rfl
  | setReceiveBufferSize stream size =>
      rw [PeerCall.run, PeerWorld.setReceiveBufferSize,
        guard_bind_eq_some_iff] at returned
      obtain ⟨_, returned⟩ := returned
      cases returned
      rfl
  | setChildReceiveBufferSize stream size =>
      rw [PeerCall.run, PeerWorld.setChildReceiveBufferSize,
        guard_bind_eq_some_iff] at returned
      obtain ⟨_, returned⟩ := returned
      cases returned
      rfl
  | ackCall other call =>
      rw [PeerWorld.ackCall_eq_some returned]
      rfl
  | rxSubstream parent pktseq other sid slot usid newStream =>
      obtain ⟨⟨result, after⟩, received, same⟩ :=
        Option.map_eq_some_iff.mp returned
      subst same
      rw [acceptedSid_rxSubstream received]
      cases result with
      | none =>
          rw [PeerWorld.rxSubstream_refused received]
          rfl
      | some accepted =>
          rw [PeerWorld.rxSubstream_receivedSidCounter received]
          by_cases here : other = channel
          · subst other
            rw [if_pos ⟨rfl, rfl⟩, Function.update_self]
            rfl
          · rw [if_neg (fun both => here both.2),
              Function.update_of_ne (Ne.symm here)]
            rfl
  | clear stream =>
      rw [PeerWorld.clear_receivedSidCounter returned]
      rfl

/-- A call, with the counter of the sender where it brings in a substream on
the channel. -/
def CounterStep
    (env : Env) (channel : ChannelPtr) (state : PeerWorld)
    (label : PeerCall × Option UInt64) (next : PeerWorld) : Prop :=
  label.1.run env state = some next ∧
    label.1.acceptedSid env state channel = label.2.map UInt64.toUInt16 ∧
    ∀ sent, label.2 = some sent →
      InReach (state.receivedSidCounter channel) sent

/-- A run of calls in which the counters of the sender are in reach. -/
abbrev CounterRun (env : Env) (channel : ChannelPtr) :
    PeerWorld → List (PeerCall × Option UInt64) → PeerWorld → Prop :=
  Run (CounterStep env channel)

/-- The counters of the sender seen in a run. -/
def countersSeen (labels : List (PeerCall × Option UInt64)) : List Nat :=
  (labels.map Prod.snd).reduceOption.map UInt64.toNat

theorem CounterRun.counter
    {env : Env} {channel : ChannelPtr} {start final : PeerWorld}
    {labels : List (PeerCall × Option UInt64)}
    (run : CounterRun env channel start labels final) :
    (final.receivedSidCounter channel).toNat =
      (countersSeen labels).foldl max
        (start.receivedSidCounter channel).toNat := by
  refine run.induct
    (fun labels state =>
      (state.receivedSidCounter channel).toNat =
        (countersSeen labels).foldl max
          (start.receivedSidCounter channel).toNat)
    rfl ?_
  rintro labels state ⟨call, sent⟩ next _ seen ⟨returned, brought, inReach⟩
  rw [PeerCall.run_receivedSidCounter returned channel, brought,
    countersSeen, List.map_append, List.reduceOption_append,
    List.map_append, List.foldl_append, ← countersSeen, ← seen]
  cases sent with
  | none =>
      rfl
  | some sent =>
      exact receivedCounter_of_inReach (inReach sent rfl)

/-- A substream that is accepted moves the counter as it should exactly
where its id does not stand for a number before the first one, and in every
run in which the counters of the sender are in reach, the counter is the
highest of them. -/
theorem received_counter_extrapolated (channel : ChannelPtr) :
    (∀ env state next parent pktseq sid slot usid newStream accepted,
      PeerWorld.rxSubstream env state parent pktseq channel sid slot usid
          newStream =
        some (some accepted, next) →
      (CounterLaw (state.receivedSidCounter channel) sid
          (next.receivedSidCounter channel) ↔
        ReachesNoNegative (2 ^ 16)
          (state.receivedSidCounter channel).toNat sid.toNat)) ∧
      ∀ env start labels final,
        CounterRun env channel start labels final →
        (final.receivedSidCounter channel).toNat =
          (countersSeen labels).foldl max
            (start.receivedSidCounter channel).toNat := by
  constructor
  · intro env state next parent pktseq sid slot usid newStream accepted returned
    rw [PeerWorld.rxSubstream_receivedSidCounter returned,
      Function.update_self]
    exact counterLaw_receivedCounter_iff _ _
  · intro env start labels final run
    exact run.counter

/-- The calls that bring in two substreams on a new channel, with the
counters 1 and 5 of the sender. -/
def twoSubstreams : List (PeerCall × Option UInt64) :=
  [(.rxSubstream 0 2 0 1 .first ⟨1, [2]⟩ 1, some 1),
    (.rxSubstream 0 3 0 5 .first ⟨5, [2]⟩ 2, some 5)]

theorem counter_after_two_substreams :
    (∃ next,
      PeerWorld.channelToPeer.rxSubstream (Env.constant true) 0 2 0 1
            .first ⟨1, [2]⟩ 1 =
          some (some 1, next) ∧
        CounterLaw 0 1 (next.receivedSidCounter 0)) ∧
      ∃ final,
        CounterRun (Env.constant true) 0 PeerWorld.channelToPeer
            twoSubstreams final ∧
          (final.receivedSidCounter 0).toNat = 5 := by
  obtain ⟨next, first⟩ :
      ∃ next,
        PeerWorld.channelToPeer.rxSubstream (Env.constant true) 0 2 0 1
            .first ⟨1, [2]⟩ 1 =
          some (some 1, next) := ⟨_, rfl⟩
  obtain ⟨final, second⟩ :
      ∃ final,
        next.rxSubstream (Env.constant true) 0 3 0 5 .first ⟨5, [2]⟩ 2 =
          some (some 2, final) := by
    cases first
    exact ⟨_, rfl⟩
  have counter : next.receivedSidCounter 0 = 1 := by
    cases first
    rfl
  have firstStep :
      CounterStep (Env.constant true) 0 PeerWorld.channelToPeer
        (.rxSubstream 0 2 0 1 .first ⟨1, [2]⟩ 1, some 1) next := by
    refine ⟨?_, ?_, ?_⟩
    · rw [PeerCall.run, first]
      rfl
    · rw [PeerCall.acceptedSid, first]
      rfl
    · rintro sent ⟨⟩
      unfold InReach
      decide
  have secondStep :
      CounterStep (Env.constant true) 0 next
        (.rxSubstream 0 3 0 5 .first ⟨5, [2]⟩ 2, some 5) final := by
    refine ⟨?_, ?_, ?_⟩
    · rw [PeerCall.run, second]
      rfl
    · rw [PeerCall.acceptedSid, second]
      rfl
    · rintro sent ⟨⟩
      rw [counter, InReach]
      decide
  have run :
      CounterRun (Env.constant true) 0 PeerWorld.channelToPeer
        twoSubstreams final :=
    (Run.single firstStep).append (Run.single secondStep)
  refine ⟨⟨next, first, ?_⟩, final, run, ?_⟩
  · apply
      ((received_counter_extrapolated 0).1 _ _ _ _ _ _ _ _ _ _ first).mpr
    decide
  · exact (received_counter_extrapolated 0).2 _ _ _ _ run

/-- On a new channel, the id of the stream before the first one takes the
counter to the end of its range. -/
theorem counter_wraps_before_the_first :
    ∃ next,
      PeerWorld.channelToPeer.rxSubstream (Env.constant true) 0 2 0 0xffff
            .first ⟨1, [2]⟩ 1 =
          some (some 1, next) ∧
        next.receivedSidCounter 0 = 0xffffffffffffffff ∧
        ¬ CounterLaw (PeerWorld.channelToPeer.receivedSidCounter 0) 0xffff
          (next.receivedSidCounter 0) := by
  refine ⟨_, rfl, by decide, ?_⟩
  rintro ⟨_, near, _⟩
  revert near
  decide

end StructuredStreams.Stream
