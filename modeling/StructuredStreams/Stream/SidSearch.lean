import StructuredStreams.Foundation.MachineInt
import StructuredStreams.Logger
import StructuredStreams.Stream.SidAllocation

/-!
# The limit of the search for a local stream id

`allocate_transmit_sid` skips ids in use up to a limit, and reports that
there are no free ids when it gets there.  The limit shrinks with the
distance between the counter and the last counter that was acknowledged.
Nothing ever sets the latter, so that after `0x7ff0` streams the limit is
gone, and a single id in use is reported as the end of them.
-/

namespace StructuredStreams.Stream

open World

def maxSidSkip : Int :=
  16

/-- `transmit_sid_acked_`, which no function sets. -/
def transmitSidAcked : UInt64 :=
  0

/-- The local `maxsearch` before the search. -/
def searchLimit (transmitSidCounter : UInt64) : Int :=
  min (wrapInt (0x7ff0 - (transmitSidCounter - transmitSidAcked)).toNat)
    maxSidSkip

/-- The loop that skips ids in use, and how often it calls `logger::fatal`
since there were no free ones. -/
def skipUsedSids (transmitSids : List (LocalStreamId × StreamSlot)) :
    (fuel : Nat) → (sid : UInt64) → (maxsearch : Int) → Option (UInt64 × Nat)
  | 0, _, _ => none
  | fuel + 1, sid, maxsearch => do
      let rest :=
        if (transmitSids.lookup (sid + 1).toUInt16).isSome then
          skipUsedSids transmitSids fuel (sid + 1) (maxsearch - 1)
        else some (sid + 1, 0)
      if maxsearch ≤ 0 then
        let (found, later) ← Logger.fatal rest
        return (found, 1 + later)
      else rest

/-- The id that `allocate_transmit_sid` settles on, and the number of its
reports. -/
def Allocating.searchSid
    (state : Allocating) (channel : ChannelPtr) : Option (UInt64 × Nat) :=
  let transmitSids := (state.world.channels channel).transmitSids
  let counter := state.transmitSidCounter channel
  if (transmitSids.lookup counter.toUInt16).isSome then
    skipUsedSids transmitSids (localStreamIds - 1) counter
      (searchLimit counter)
  else
    some (counter, 0)

/-- `allocate_transmit_sid` with the number of its reports. -/
def Allocating.allocateReporting
    (state : Allocating) (channel : ChannelPtr) :
    Option (UInt64 × Nat × Allocating) := do
  let (sid, reports) ← state.searchSid channel
  guard (state.transmitSidCounter channel ≤ sid)
  return (sid, reports,
    { state with
      transmitSidCounter :=
        Function.update state.transmitSidCounter channel (sid + 1)
      allocated :=
        Function.update state.allocated channel
          (sid :: state.allocated channel) })

private theorem skipUsedSids_free
    {transmitSids : List (LocalStreamId × StreamSlot)} {sid : UInt64}
    (free : transmitSids.lookup (sid + 1).toUInt16 = none)
    (fuel : Nat) (maxsearch : Int) :
    skipUsedSids transmitSids (fuel + 1) sid maxsearch =
      some (sid + 1, if maxsearch ≤ 0 then 1 else 0) := by
  have notUsed : ¬ (transmitSids.lookup (sid + 1).toUInt16).isSome := by
    rw [free]
    exact Bool.false_ne_true
  rw [skipUsedSids, if_neg notUsed, Logger.fatal_eq]
  split <;> rfl

private theorem skipUsedSids_used
    {transmitSids : List (LocalStreamId × StreamSlot)} {sid : UInt64}
    (used : (transmitSids.lookup (sid + 1).toUInt16).isSome)
    (fuel : Nat) (maxsearch : Int) :
    skipUsedSids transmitSids (fuel + 1) sid maxsearch =
      (skipUsedSids transmitSids fuel (sid + 1) (maxsearch - 1)).map
        fun found =>
          (found.1, (if maxsearch ≤ 0 then 1 else 0) + found.2) := by
  rw [skipUsedSids, if_pos used, Logger.fatal_eq]
  cases skipUsedSids transmitSids fuel (sid + 1) (maxsearch - 1) with
  | none =>
      split <;> rfl
  | some found =>
      split
      · rfl
      · rw [Option.map_some, Nat.zero_add]

private theorem skipUsedSids_map_fst
    (transmitSids : List (LocalStreamId × StreamSlot)) (fuel : Nat)
    (sid : UInt64) (maxsearch : Int) :
    (skipUsedSids transmitSids fuel sid maxsearch).map Prod.fst =
      firstFreeSid transmitSids fuel (sid + 1) := by
  induction fuel generalizing sid maxsearch with
  | zero =>
      rfl
  | succ fuel inductionHypothesis =>
      rw [firstFreeSid]
      split
      · next used =>
          rw [skipUsedSids_used used, Option.map_map,
            ← inductionHypothesis (sid + 1) (maxsearch - 1)]
          rfl
      · next notUsed =>
          rw [Option.not_isSome_iff_eq_none] at notUsed
          rw [skipUsedSids_free notUsed]
          rfl

private theorem Allocating.searchSid_map_fst
    (state : Allocating) (channel : ChannelPtr) :
    (state.searchSid channel).map Prod.fst =
      firstFreeSid (state.world.channels channel).transmitSids
        localStreamIds (state.transmitSidCounter channel) := by
  have unfolded
      (transmitSids : List (LocalStreamId × StreamSlot)) (sid : UInt64) :
      firstFreeSid transmitSids localStreamIds sid =
        if (transmitSids.lookup sid.toUInt16).isSome then
          firstFreeSid transmitSids (localStreamIds - 1) (sid + 1)
        else some sid :=
    rfl
  rw [searchSid, unfolded]
  split
  · exact skipUsedSids_map_fst _ _ _ _
  · rfl

/-- Without the reports, this is the allocation that the runs make. -/
theorem Allocating.allocateReporting_forget
    (state : Allocating) (channel : ChannelPtr) :
    (state.allocateReporting channel).map
        (fun allocated => (allocated.1, allocated.2.2)) =
      state.allocateTransmitSid channel := by
  rw [allocateReporting, allocateTransmitSid, ← searchSid_map_fst]
  cases state.searchSid channel with
  | none =>
      rfl
  | some found =>
      by_cases counted : state.transmitSidCounter channel ≤ found.1
      · simp [counted]
      · simp [counted]

/-- The id of the counter is in use, and so are those after it up to the
first free one. -/
def Allocating.FirstFree
    (state : Allocating) (channel : ChannelPtr) (skipped : Nat) : Prop :=
  (state.world.channels channel).transmitSids.lookup
        (state.transmitSidCounter channel + UInt64.ofNat skipped).toUInt16 =
      none ∧
    ∀ earlier < skipped,
      ((state.world.channels channel).transmitSids.lookup
        (state.transmitSidCounter channel +
          UInt64.ofNat earlier).toUInt16).isSome

private theorem add_ofNat_succ (sid : UInt64) (offset : Nat) :
    sid + UInt64.ofNat (offset + 1) = sid + 1 + UInt64.ofNat offset := by
  rw [Nat.add_comm, UInt64.ofNat_add, UInt64.add_assoc]
  rfl

/-- The reports of one pass and of the passes after it. -/
theorem reports_add (maxsearch : Int) (later : Nat) :
    (if maxsearch ≤ 0 then 1 else 0) + (later - (maxsearch - 1).toNat) =
      later + 1 - maxsearch.toNat := by
  split <;> omega

/-- The search reports once for every id it skips beyond the limit. -/
theorem skipUsedSids_eq
    {transmitSids : List (LocalStreamId × StreamSlot)}
    {fuel skipped : Nat} {sid : UInt64} (maxsearch : Int)
    (enough : skipped < fuel)
    (free :
      transmitSids.lookup (sid + UInt64.ofNat (skipped + 1)).toUInt16 =
        none)
    (used :
      ∀ earlier < skipped,
        (transmitSids.lookup
          (sid + UInt64.ofNat (earlier + 1)).toUInt16).isSome) :
    skipUsedSids transmitSids fuel sid maxsearch =
      some (sid + UInt64.ofNat (skipped + 1),
        skipped + 1 - maxsearch.toNat) := by
  obtain ⟨rest, rfl⟩ := Nat.exists_eq_add_of_lt enough
  induction skipped generalizing sid maxsearch with
  | zero =>
      rw [Nat.zero_add, skipUsedSids_free free, ← reports_add,
        Nat.zero_sub, Nat.add_zero]
      rfl
  | succ skipped inductionHypothesis =>
      have first : (transmitSids.lookup (sid + 1).toUInt16).isSome :=
        used 0 (Nat.succ_pos skipped)
      have freeLater :
          transmitSids.lookup
              (sid + 1 + UInt64.ofNat (skipped + 1)).toUInt16 =
            none := by
        rw [← add_ofNat_succ]
        exact free
      have usedLater :
          ∀ earlier < skipped,
            (transmitSids.lookup
              (sid + 1 + UInt64.ofNat (earlier + 1)).toUInt16).isSome := by
        intro earlier before
        rw [← add_ofNat_succ]
        exact used (earlier + 1) (by omega)
      have later :=
        inductionHypothesis (maxsearch - 1) freeLater usedLater (by omega)
      have passes : skipped + 1 + rest + 1 = (skipped + rest + 1) + 1 := by
        omega
      rw [passes, skipUsedSids_used first, later, Option.map_some,
        add_ofNat_succ sid (skipped + 1), reports_add]

private theorem Allocating.FirstFree.searchSid
    {state : Allocating} {channel : ChannelPtr} {skipped : Nat}
    (firstFree : state.FirstFree channel skipped)
    (near : skipped ≤ 16) :
    state.searchSid channel =
      some (state.transmitSidCounter channel + UInt64.ofNat skipped,
        skipped -
          (searchLimit (state.transmitSidCounter channel)).toNat) := by
  obtain ⟨free, used⟩ := firstFree
  cases skipped with
  | zero =>
      have notUsed :
          ¬ ((state.world.channels channel).transmitSids.lookup
              (state.transmitSidCounter channel).toUInt16).isSome := by
        rw [← UInt64.add_zero (state.transmitSidCounter channel),
          show (state.world.channels channel).transmitSids.lookup
              (state.transmitSidCounter channel + 0).toUInt16 = none
            from free]
        exact Bool.false_ne_true
      rw [Allocating.searchSid, if_neg notUsed, Nat.zero_sub]
      simp
  | succ skipped =>
      have first :
          ((state.world.channels channel).transmitSids.lookup
            (state.transmitSidCounter channel).toUInt16).isSome := by
        rw [← UInt64.add_zero (state.transmitSidCounter channel)]
        exact used 0 (Nat.succ_pos skipped)
      rw [Allocating.searchSid, if_pos first]
      apply skipUsedSids_eq
      · unfold localStreamIds
        omega
      · exact free
      · intro earlier before
        exact used (earlier + 1) (by omega)

/-- The first free id among the next 17 is returned and nothing is
reported. -/
def Allocating.Finds (state : Allocating) (channel : ChannelPtr) : Prop :=
  ∀ skipped ≤ 16, state.FirstFree channel skipped →
    ∃ next,
      state.allocateReporting channel =
        some (state.transmitSidCounter channel + UInt64.ofNat skipped, 0,
          next)

/-- The first free id among the next 17 is that of the counter, or it is
within the limit and the counter does not wrap before it. -/
def Allocating.WithinLimit
    (state : Allocating) (channel : ChannelPtr) : Prop :=
  ∀ skipped ≤ 16, state.FirstFree channel skipped →
    skipped = 0 ∨
      (skipped : Int) ≤
          searchLimit (state.transmitSidCounter channel) ∧
        (state.transmitSidCounter channel).toNat + skipped < 2 ^ 64

/-- An allocation finds the first free id of the next 17 exactly where that
id is within the limit of the search. -/
theorem Allocating.finds_iff_withinLimit
    (state : Allocating) (channel : ChannelPtr) :
    state.Finds channel ↔ state.WithinLimit channel := by
  apply forall_congr'
  intro skipped
  apply forall_congr'
  intro near
  apply forall_congr'
  intro firstFree
  have bound := (state.transmitSidCounter channel).toNat_lt
  have noWrap :
      state.transmitSidCounter channel ≤
          state.transmitSidCounter channel + UInt64.ofNat skipped ↔
        (state.transmitSidCounter channel).toNat + skipped < 2 ^ 64 := by
    rw [UInt64.le_iff_toNat_le, UInt64.toNat_add, UInt64.toNat_ofNat']
    omega
  rw [Allocating.allocateReporting, firstFree.searchSid near]
  simp only [Option.bind_eq_bind, Option.bind_some]
  constructor
  · rintro ⟨next, returned⟩
    rw [← Option.bind_eq_bind, guard_bind_eq_some_iff] at returned
    obtain ⟨counted, returned⟩ := returned
    have reports := congrArg (fun found => (Prod.snd found).1)
      (Option.some.inj returned)
    dsimp only at reports
    have noWrapping := noWrap.mp counted
    omega
  · intro within
    have counted := noWrap.mpr (by omega)
    have noReports :
        skipped -
            (searchLimit (state.transmitSidCounter channel)).toNat =
          0 := by
      omega
    rw [← Option.bind_eq_bind, guard_bind_of_holds counted, noReports]
    exact ⟨_, rfl⟩

private theorem Allocating.allocate_of_free
    (env : Env) {state : Allocating} {channel : ChannelPtr}
    (constructed : (state.world.channels channel).root ≠ none)
    (free :
      (state.world.channels channel).transmitSids.lookup
          (state.transmitSidCounter channel).toUInt16 =
        none) :
    ∃ next,
      AttachStep env state (.allocate channel) next ∧
        next.world = state.world ∧
        next.transmitSidCounter channel =
          state.transmitSidCounter channel + 1 := by
  have firstFree : state.FirstFree channel 0 := by
    refine ⟨?_, fun earlier before => absurd before (Nat.not_lt_zero _)⟩
    rw [show UInt64.ofNat 0 = 0 from rfl, UInt64.add_zero]
    exact free
  have allocated := state.allocateReporting_forget channel
  rw [allocateReporting, firstFree.searchSid (Nat.zero_le _),
    show UInt64.ofNat 0 = 0 from rfl, UInt64.add_zero] at allocated
  simp only [Option.bind_eq_bind, Option.bind_some] at allocated
  rw [← Option.bind_eq_bind, guard_bind_of_holds (UInt64.le_refl _)]
    at allocated
  refine
    ⟨{ state with
        transmitSidCounter :=
          Function.update state.transmitSidCounter channel
            (state.transmitSidCounter channel + 1)
        allocated :=
          Function.update state.allocated channel
            (state.transmitSidCounter channel ::
              state.allocated channel) }, ?_, rfl,
      Function.update_self _ _ _⟩
  · rw [AttachStep, AttachCall.run, guard_bind_of_holds constructed,
      ← allocated]
    rfl

/-- While the ids are free, allocations return them one after the other. -/
theorem Allocating.allocations_run
    (env : Env) {state : Allocating} {channel : ChannelPtr} {count : Nat}
    (constructed : (state.world.channels channel).root ≠ none)
    (free :
      ∀ offset < count,
        (state.world.channels channel).transmitSids.lookup
            (state.transmitSidCounter channel +
              UInt64.ofNat offset).toUInt16 =
          none)
    (noWrap :
      (state.transmitSidCounter channel).toNat + count < 2 ^ 64) :
    ∃ next,
      AttachRun env state (List.replicate count (.allocate channel)) next ∧
        next.world = state.world ∧
        next.transmitSidCounter channel =
          state.transmitSidCounter channel + UInt64.ofNat count := by
  induction count with
  | zero =>
      exact ⟨state, Run.refl, rfl, (UInt64.add_zero _).symm⟩
  | succ count inductionHypothesis =>
      obtain ⟨reached, run, sameWorld, counter⟩ :=
        inductionHypothesis
          (fun offset before => free offset (by omega)) (by omega)
      have constructedStill :
          (reached.world.channels channel).root ≠ none := by
        rw [sameWorld]
        exact constructed
      have freeStill :
          (reached.world.channels channel).transmitSids.lookup
              (reached.transmitSidCounter channel).toUInt16 =
            none := by
        rw [sameWorld, counter]
        exact free count (Nat.lt_succ_self count)
      obtain ⟨next, taken, sameStill, counted⟩ :=
        allocate_of_free env constructedStill freeStill
      refine ⟨next, ?_, sameStill.trans sameWorld, ?_⟩
      · rw [List.replicate_succ']
        exact run.snoc _ taken
      · rw [counted, counter, UInt64.add_assoc, UInt64.ofNat_add]
        rfl

/-- A channel with its root stream, whose id is 0. -/
def rootAttached : Allocating :=
  ((AttachCall.construct 0 0).run (Env.constant true)
    (Allocating.create (World.create [1] [2]))).getD
    (Allocating.create (World.create [1] [2]))

private theorem rootAttached_transmitSids :
    (rootAttached.world.channels 0).transmitSids = [(0, 0, .first)] :=
  rfl

private theorem rootAttached_counter
    : rootAttached.transmitSidCounter 0 = 1 :=
  rfl

/-- All ids but that of the root are free. -/
theorem rootAttached_free {offset : Nat} (before : offset < 65535) :
    (rootAttached.world.channels 0).transmitSids.lookup
        (rootAttached.transmitSidCounter 0 +
          UInt64.ofNat offset).toUInt16 =
      none := by
  have different : ((1 : UInt64) + UInt64.ofNat offset).toUInt16 ≠ 0 := by
    intro zero
    have digits := congrArg UInt16.toNat zero
    rw [UInt64.toNat_toUInt16, UInt64.toNat_add, UInt64.toNat_ofNat',
      UInt64.toNat_one, UInt16.toNat_zero] at digits
    omega
  rw [rootAttached_transmitSids, rootAttached_counter, List.lookup_cons,
    beq_false_of_ne different]
  rfl

/-- After 65535 allocations the counter has the id of the root, the next id
is free, and the search reports that there are none. -/
theorem free_sid_reported_missing :
    ∃ final,
      AttachRun (Env.constant true)
          (Allocating.create (World.create [1] [2]))
          (.construct 0 0 :: List.replicate 65535 (.allocate 0)) final ∧
        final.FirstFree 0 1 ∧
        (final.allocateReporting 0).map
            (fun allocated => (allocated.1, allocated.2.1)) =
          some (65537, 1) ∧
        ¬ final.Finds 0 := by
  have noWrap :
      (rootAttached.transmitSidCounter 0).toNat + 65535 < 2 ^ 64 := by
    decide
  obtain ⟨final, run, sameWorld, counter⟩ :=
    Allocating.allocations_run (Env.constant true) (by decide)
      (fun _ before => rootAttached_free before) noWrap
  have sids :
      (final.world.channels 0).transmitSids = [(0, 0, .first)] := by
    rw [sameWorld, rootAttached_transmitSids]
  have counted : final.transmitSidCounter 0 = 65536 := by
    rw [counter, rootAttached_counter]
    decide
  have firstFree : final.FirstFree 0 1 := by
    rw [Allocating.FirstFree, sids, counted]
    decide
  have returned :
      (final.allocateReporting 0).map
          (fun allocated => (allocated.1, allocated.2.1)) =
        some (65537, 1) := by
    rw [Allocating.allocateReporting, firstFree.searchSid (by decide),
      counted]
    rfl
  refine ⟨final, ?_, firstFree, returned, ?_⟩
  · have first :
        AttachRun (Env.constant true)
          (Allocating.create (World.create [1] [2])) [.construct 0 0]
          rootAttached :=
      Run.single rfl
    exact first.append run
  · intro finds
    obtain ⟨next, quiet⟩ := finds 1 (by decide) firstFree
    rw [quiet] at returned
    have reports := congrArg (Option.map Prod.snd) returned
    cases reports

end StructuredStreams.Stream
