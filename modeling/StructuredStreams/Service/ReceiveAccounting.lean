import StructuredStreams.Foundation.Run
import StructuredStreams.Service.Negotiation

/-!
# Accounting of received bytes

The counters of received bytes, the queue of segments and the queue of
records move together.  Every segment that is not empty is a record of its
own, so the records are the sizes of those segments, in order, and no record
is ever under way.  The bytes buffered at any moment are fewer than `2 ^ 31`.
-/

namespace StructuredStreams.Service

open ByteCodec

namespace ServiceStream

/-- The number of bytes in the segments. -/
def buffered (segments : List Bytes) : Nat :=
  segments.flatten.length

/-- The sizes of the segments that are not empty. -/
def recordSizes (segments : List Bytes) : List Int :=
  (segments.filter (· ≠ [])).map fun segment => (segment.length : Int)

/-- All counters agree with the queue of segments. -/
structure Accounted (stream : ServiceStream) : Prop where
  small : buffered stream.rxSegments < 2 ^ 31
  available : stream.rxAvailable = buffered stream.rxSegments
  used : stream.rxBufferUsed = buffered stream.rxSegments
  records : stream.rxRecordSizes = recordSizes stream.rxSegments
  current : stream.rxRecordAvailable = 0

/-- A stream that received nothing. -/
structure NewReceiver (stream : ServiceStream) : Prop where
  segments : stream.rxSegments = []
  available : stream.rxAvailable = 0
  used : stream.rxBufferUsed = 0
  records : stream.rxRecordSizes = []
  current : stream.rxRecordAvailable = 0

theorem NewReceiver.accounted
    {stream : ServiceStream} (new : NewReceiver stream) :
    Accounted stream := by
  constructor
  · rw [new.segments]
    decide
  · rw [new.segments, new.available]
    rfl
  · rw [new.segments, new.used]
    rfl
  · rw [new.segments, new.records]
    rfl
  · exact new.current

theorem buffered_cons (segment : Bytes) (segments : List Bytes) :
    buffered (segment :: segments) =
      segment.length + buffered segments := by
  simp [buffered]

theorem buffered_snoc (segments : List Bytes) (segment : Bytes) :
    buffered (segments ++ [segment]) =
      buffered segments + segment.length := by
  simp [buffered]

theorem recordSizes_cons_of_ne_nil
    {segment : Bytes} (nonempty : segment ≠ []) (segments : List Bytes) :
    recordSizes (segment :: segments) =
      (segment.length : Int) :: recordSizes segments := by
  simp [recordSizes, nonempty]

private theorem recordSizes_cons_nil (segments : List Bytes) :
    recordSizes ([] :: segments) = recordSizes segments := by
  simp [recordSizes]

private theorem recordSizes_snoc (segments : List Bytes) (segment : Bytes) :
    recordSizes (segments ++ [segment]) =
      recordSizes segments ++ recordSizes [segment] := by
  simp [recordSizes]

private theorem recordSizes_sum (segments : List Bytes) :
    (recordSizes segments).sum = (buffered segments : Int) := by
  induction segments with
  | nil =>
      rfl
  | cons segment segments inductionHypothesis =>
      by_cases empty : segment = []
      · subst empty
        rw [recordSizes_cons_nil, inductionHypothesis, buffered_cons]
        simp
      · rw [recordSizes_cons_of_ne_nil empty, List.sum_cons,
          inductionHypothesis, buffered_cons]
        push_cast
        rfl

private theorem recordSizes_positive
    {segments : List Bytes} {size : Int}
    (member : size ∈ recordSizes segments) : 0 < size := by
  obtain ⟨segment, isSegment, rfl⟩ := List.mem_map.mp member
  have nonempty : segment ≠ [] := by
    simpa using (List.mem_filter.mp isSegment).2
  have positive := List.length_pos_iff.mpr nonempty
  omega

theorem recordSizes_eq_nil_iff (segments : List Bytes) :
    recordSizes segments = [] ↔ buffered segments = 0 := by
  rw [buffered, List.length_eq_zero_iff, List.flatten_eq_nil_iff]
  simp [recordSizes, List.filter_eq_nil_iff]

private theorem segmentSize_eq
    {segment : Bytes} (small : segment.length < 2 ^ 31) :
    segmentSize segment = segment.length :=
  wrapInt_eq_self (by omega) (by omega)

theorem Accounted.rxEnqueueSegment
    {stream : ServiceStream} {segment : Bytes}
    (accounted : Accounted stream)
    (fits : buffered stream.rxSegments + segment.length < 2 ^ 31) :
    Accounted (stream.rxEnqueueSegment segment) ∧
      (stream.rxEnqueueSegment segment).rxSegments =
        stream.rxSegments ++ [segment] := by
  have size : segmentSize segment = segment.length :=
    segmentSize_eq (by omega)
  have total :
      wrapInt ((buffered stream.rxSegments : Int) + segment.length) =
        (buffered (stream.rxSegments ++ [segment]) : Int) := by
    rw [buffered_snoc, wrapInt_eq_self (by omega) (by omega)]
    push_cast
    rfl
  have current :
      wrapInt (stream.rxRecordAvailable + segment.length) =
        segment.length := by
    rw [accounted.current, zero_add,
      wrapInt_eq_self (by omega) (by omega)]
  unfold ServiceStream.rxEnqueueSegment
  simp only [size, accounted.available, accounted.used, total, current]
  by_cases empty : segment = []
  · have nothing : recordSizes [segment] = [] := by
      rw [empty]
      rfl
    rw [if_neg (by simp [empty])]
    refine ⟨⟨?_, rfl, rfl, ?_, ?_⟩, rfl⟩
    · rw [buffered_snoc]
      exact fits
    · rw [recordSizes_snoc, nothing, List.append_nil]
      exact accounted.records
    · simp [empty]
  · have positive := List.length_pos_iff.mpr empty
    have one : recordSizes [segment] = [(segment.length : Int)] :=
      recordSizes_cons_of_ne_nil empty []
    rw [if_pos (by omega)]
    refine ⟨⟨?_, rfl, rfl, ?_, rfl⟩, rfl⟩
    · rw [buffered_snoc]
      exact fits
    · rw [recordSizes_snoc, one, ← accounted.records]

theorem Accounted.shutdownRead
    {stream : ServiceStream} (accounted : Accounted stream) :
    Accounted stream.shutdownRead := by
  unfold ServiceStream.shutdownRead
  split_ifs
  · exact ⟨Nat.two_pow_pos 31, rfl, rfl, rfl, rfl⟩
  · exact accounted

/-- The stream with only these segments left. -/
def popped (stream : ServiceStream) (segments : List Bytes) :
    ServiceStream :=
  { stream with
    rxSegments := segments
    rxAvailable := buffered segments
    rxBufferUsed := buffered segments
    rxRecordSizes := recordSizes segments }

theorem Accounted.popped
    {stream : ServiceStream} {segment : Bytes} {segments : List Bytes}
    (accounted : Accounted stream)
    (front : stream.rxSegments = segment :: segments) :
    Accounted (popped stream segments) := by
  have small := accounted.small
  rw [front, buffered_cons] at small
  exact ⟨by dsimp only [ServiceStream.popped]; omega, rfl, rfl, rfl,
    accounted.current⟩

section Passes

variable {stream : ServiceStream} {segment : Bytes}
  {segments : List Bytes} {maxSize : Int}

/-- The loop is left when there is no room or nothing to read. -/
theorem readDataLoop_done
    (fuel : Nat) (actualSize : Int)
    (done : ¬ (0 < maxSize ∧ 0 < stream.rxAvailable)) :
    readDataLoop (fuel + 1) stream maxSize actualSize =
      some (actualSize, stream) := by
  rw [readDataLoop, if_neg done]

private theorem readDataLoop_ended
    (fuel : Nat) (actualSize : Int)
    (more : 0 < maxSize ∧ 0 < stream.rxAvailable)
    (ended : stream.endRead = true) :
    readDataLoop (fuel + 1) stream maxSize actualSize = none := by
  rw [readDataLoop, if_pos more, ended]
  rfl

/-- The front segment of an accounted stream, taken. -/
theorem Accounted.taken
    (accounted : Accounted stream)
    (front : stream.rxSegments = segment :: segments) :
    segmentSize segment = segment.length ∧
      wrapInt (stream.rxAvailable - segment.length) =
        buffered segments ∧
      wrapInt (stream.rxBufferUsed - segment.length) =
        buffered segments := by
  have small := accounted.small
  have available := accounted.available
  have used := accounted.used
  rw [front, buffered_cons] at small available used
  push_cast at available used
  refine ⟨segmentSize_eq (by omega), ?_, ?_⟩
  · rw [wrapInt_eq_self (by omega) (by omega)]
    omega
  · rw [wrapInt_eq_self (by omega) (by omega)]
    omega

/-- A segment that fits is read to the end of its record, where the loop is
left. -/
theorem readDataLoop_whole
    (fuel : Nat) (actualSize : Int)
    (accounted : Accounted stream)
    (front : stream.rxSegments = segment :: segments)
    (nonempty : segment ≠ []) (fits : segment.length ≤ maxSize)
    (reading : stream.endRead = false) :
    readDataLoop (fuel + 1) stream maxSize actualSize =
      some (actualSize + segment.length, popped stream segments) := by
  obtain ⟨size, available, used⟩ := accounted.taken front
  have positive := List.length_pos_iff.mpr nonempty
  have more : 0 < maxSize ∧ 0 < stream.rxAvailable := by
    rw [accounted.available, front, buffered_cons]
    push_cast
    omega
  have records := accounted.records
  rw [front, recordSizes_cons_of_ne_nil nonempty] at records
  rw [readDataLoop, if_pos more]
  simp only [front, size, available, used, records, sub_self, le_refl,
    if_true, guard_bind_eq_some_iff]
  exact ⟨reading, by omega, fits, by omega, trivial, rfl⟩

/-- A segment that does not fit fails an assertion. -/
theorem readDataLoop_tooLarge
    (fuel : Nat) (actualSize : Int)
    (accounted : Accounted stream)
    (front : stream.rxSegments = segment :: segments)
    (room : 0 < maxSize) (large : maxSize < segment.length) :
    readDataLoop (fuel + 1) stream maxSize actualSize = none := by
  obtain ⟨size, _, _⟩ := accounted.taken front
  have more : 0 < maxSize ∧ 0 < stream.rxAvailable := by
    rw [accounted.available, front, buffered_cons]
    push_cast
    omega
  rw [Option.eq_none_iff_forall_not_mem]
  intro result member
  have returned := Option.mem_def.mp member
  rw [readDataLoop, if_pos more, guard_bind_eq_some_iff] at returned
  obtain ⟨_, returned⟩ := returned
  simp only [front, size, guard_bind_eq_some_iff] at returned
  omega

/-- An empty segment before others shuts the stream down for reading. -/
theorem readDataLoop_emptyFront
    (fuel : Nat) (actualSize : Int)
    (accounted : Accounted stream)
    (front : stream.rxSegments = [] :: segments)
    (room : 0 < maxSize) (behind : 0 < buffered segments)
    (reading : stream.endRead = false) :
    readDataLoop (fuel + 1) stream maxSize actualSize =
      readDataLoop fuel (popped stream segments).shutdownRead maxSize
        actualSize := by
  obtain ⟨size, available, used⟩ := accounted.taken front
  simp only [List.length_nil, Nat.cast_zero, sub_zero]
    at size available used
  have more : 0 < maxSize ∧ 0 < stream.rxAvailable := by
    rw [accounted.available, front, buffered_cons]
    push_cast
    omega
  have records := accounted.records
  rw [front, recordSizes_cons_nil] at records
  have notNone : recordSizes segments ≠ [] := by
    rw [ne_eq, recordSizes_eq_nil_iff]
    omega
  obtain ⟨headsize, sizes, isHead⟩ := List.exists_cons_of_ne_nil notNone
  have positive : 0 < headsize :=
    recordSizes_positive (by rw [isHead]; exact List.mem_cons_self)
  rw [readDataLoop, if_pos more, guard_bind_of_holds reading]
  simp only [front, size, available, used, records, isHead, sub_zero,
    add_zero]
  rw [guard_bind_of_holds (le_refl 0), guard_bind_of_holds room.le,
    guard_bind_of_holds (by omega), guard_bind_of_holds positive.le,
    if_neg positive.ne', popped, isHead]

end Passes

theorem Accounted.readDataLoop
    {fuel : Nat} {stream next : ServiceStream}
    {maxSize actualSize result : Int}
    (accounted : Accounted stream)
    (returned :
      readDataLoop fuel stream maxSize actualSize =
        some (result, next)) :
    Accounted next := by
  induction fuel generalizing stream with
  | zero =>
      cases returned
  | succ fuel inductionHypothesis =>
      by_cases more : 0 < maxSize ∧ 0 < stream.rxAvailable
      · cases reading : stream.endRead with
        | true =>
            rw [readDataLoop_ended fuel actualSize more reading]
              at returned
            cases returned
        | false =>
            cases front : stream.rxSegments with
            | nil =>
                have available := accounted.available
                rw [front] at available
                exact absurd more.2 (by rw [available]; exact lt_irrefl 0)
            | cons segment segments =>
                by_cases empty : segment = []
                · subst empty
                  have behind : 0 < buffered segments := by
                    have available := accounted.available
                    rw [front, buffered_cons, List.length_nil]
                      at available
                    omega
                  rw [readDataLoop_emptyFront fuel actualSize accounted
                    front more.1 behind reading] at returned
                  exact
                    inductionHypothesis
                      (accounted.popped front).shutdownRead returned
                · by_cases fits : (segment.length : Int) ≤ maxSize
                  · rw [readDataLoop_whole fuel actualSize accounted
                      front empty fits reading] at returned
                    cases returned
                    exact accounted.popped front
                  · rw [readDataLoop_tooLarge fuel actualSize accounted
                      front more.1 (not_le.mp fits)] at returned
                    cases returned
      · rw [readDataLoop_done fuel actualSize more] at returned
        cases returned
        exact accounted

theorem Accounted.readData
    {stream next : ServiceStream} {maxSize result : Int}
    (accounted : Accounted stream)
    (returned : stream.readData maxSize = some (result, next)) :
    Accounted next := by
  rw [ServiceStream.readData, bind_eq_some_iff] at returned
  obtain ⟨⟨actualSize, middle⟩, looped, returned⟩ := returned
  dsimp only at returned
  rw [guard_bind_eq_some_iff] at returned
  obtain ⟨_, returned⟩ := returned
  cases returned
  exact accounted.readDataLoop looped

inductive ShutdownMode where
  | read
  | write
  | close
  | reset
  deriving DecidableEq, Repr

def ShutdownMode.toUnderlying : ShutdownMode → Nat
  | .read => 1
  | .write => 2
  | .close => 3
  | .reset => 4

/-- What the shutdown for writing would do is commented out. -/
def shutdown (stream : ServiceStream) (mode : ShutdownMode) :
    ServiceStream :=
  let fmode := mode.toUnderlying
  if fmode &&& ShutdownMode.reset.toUnderlying ≠ 0 then
    stream.disconnect
  else if fmode &&& ShutdownMode.read.toUnderlying ≠ 0 then
    stream.shutdownRead
  else
    stream

/-- The calls that touch the receive side, and the connection changing its
state. -/
inductive ReceiveCall where
  | rxEnqueueSegment (segment : Bytes)
  | readData (maxSize : Int)
  | shutdown (mode : ShutdownMode)
  | connection (state : StreamState)
  deriving DecidableEq, Repr

def ReceiveCall.apply (stream : ServiceStream) :
    ReceiveCall → Option ServiceStream
  | .rxEnqueueSegment segment => some (stream.rxEnqueueSegment segment)
  | .readData maxSize => (stream.readData maxSize).map Prod.snd
  | .shutdown mode => some (stream.shutdown mode)
  | .connection state => some { stream with state := state }

/-- Fewer than `2 ^ 31` bytes are buffered after the call. -/
def ReceiveCall.fits (stream : ServiceStream) : ReceiveCall → Bool
  | .rxEnqueueSegment segment =>
      buffered stream.rxSegments + segment.length < 2 ^ 31
  | .readData _ => true
  | .shutdown _ => true
  | .connection _ => true

def ReceiveStep
    (stream : ServiceStream) (call : ReceiveCall)
    (next : ServiceStream) : Prop :=
  call.fits stream = true ∧ call.apply stream = some next

theorem Accounted.shutdown
    {stream : ServiceStream} (accounted : Accounted stream)
    (mode : ShutdownMode) :
    Accounted (stream.shutdown mode) := by
  unfold ServiceStream.shutdown
  dsimp only
  split_ifs
  · exact ⟨accounted.small, accounted.available, accounted.used,
      accounted.records, accounted.current⟩
  · exact accounted.shutdownRead
  · exact accounted

theorem Accounted.step
    {stream next : ServiceStream} {call : ReceiveCall}
    (accounted : Accounted stream)
    (taken : ReceiveStep stream call next) : Accounted next := by
  obtain ⟨fits, returned⟩ := taken
  cases call with
  | rxEnqueueSegment segment =>
      cases returned
      exact (accounted.rxEnqueueSegment (of_decide_eq_true fits)).1
  | readData maxSize =>
      obtain ⟨⟨result, final⟩, read, same⟩ :=
        Option.map_eq_some_iff.mp returned
      cases same
      exact accounted.readData read
  | shutdown mode =>
      cases returned
      exact accounted.shutdown mode
  | connection state =>
      cases returned
      exact ⟨accounted.small, accounted.available, accounted.used,
        accounted.records, accounted.current⟩

theorem Accounted.of_run
    {new final : ServiceStream} {calls : List ReceiveCall}
    (isNew : NewReceiver new)
    (run : Run ReceiveStep new calls final) : Accounted final :=
  run.induct (fun _ stream => Accounted stream) isNew.accounted
    fun _ _ _ _ _ accounted taken => accounted.step taken

/-- In every state of every run, the bytes available, the buffer space used,
the bytes in the segments and the bytes in the records are the same number,
no counter is negative and no record is empty. -/
theorem received_bytes_accounted
    {new final : ServiceStream} {calls : List ReceiveCall}
    (isNew : NewReceiver new)
    (run : Run ReceiveStep new calls final) :
    final.rxAvailable = final.rxBufferUsed ∧
      final.rxBufferUsed = buffered final.rxSegments ∧
      (buffered final.rxSegments : Int) =
        final.rxRecordSizes.sum + final.rxRecordAvailable ∧
      0 ≤ final.rxAvailable ∧ 0 ≤ final.rxBufferUsed ∧
      0 ≤ final.rxRecordAvailable ∧
      ∀ size ∈ final.rxRecordSizes, 0 < size := by
  have accounted := Accounted.of_run isNew run
  have available := accounted.available
  have used := accounted.used
  have current := accounted.current
  refine ⟨available.trans used.symm, used, ?_, ?_, ?_, ?_, ?_⟩
  · rw [accounted.records, recordSizes_sum, current, add_zero]
  · omega
  · omega
  · omega
  · intro size member
    rw [accounted.records] at member
    exact recordSizes_positive member

/-- The call, when it may be made. -/
def ReceiveCall.checked
    (stream : ServiceStream) (call : ReceiveCall) :
    Option ServiceStream := do
  guard (call.fits stream)
  call.apply stream

private theorem receiveStep_of_checked
    (stream : ServiceStream) (call : ReceiveCall)
    (next : ServiceStream)
    (returned : ReceiveCall.checked stream call = some next) :
    ReceiveStep stream call next :=
  guard_bind_eq_some_iff.mp returned

theorem newReceiver_create (state : StreamState) :
    NewReceiver (create state) :=
  ⟨rfl, rfl, rfl, rfl, rfl⟩

/-- Two bytes, an empty segment and one byte arrive; a read takes the two,
and another one runs into the empty segment and shuts the stream down. -/
theorem accounted_through_empty_segment :
    ∃ final,
      Run ReceiveStep (create .connected)
          [.rxEnqueueSegment [1, 2], .rxEnqueueSegment [],
            .rxEnqueueSegment [3], .readData 8, .readData 8]
          final ∧
        final.endRead = true ∧
        final.rxAvailable = final.rxBufferUsed := by
  have run :
      Run ReceiveStep (create .connected)
        [.rxEnqueueSegment [1, 2], .rxEnqueueSegment [],
          .rxEnqueueSegment [3], .readData 8, .readData 8]
        { create .connected with endRead := true } :=
    Run.of_foldlM receiveStep_of_checked (by decide +kernel)
  exact
    ⟨_, run, rfl,
      (received_bytes_accounted (newReceiver_create .connected) run).1⟩

end ServiceStream

end StructuredStreams.Service
